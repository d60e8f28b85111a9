import ServiceMux.Bench.Datastream
import ServiceMux.Proofs.Attempts
import ServiceMux.Proofs.Reordering
import ServiceMux.Proofs.Replies
/-! Which prototype a reply is read with. Main statements: a connection's own prototypes are those
added last since they were cleared (`Fitted.run`), also if it was opened with a handshake that
brought some (`Attempt.runFitted`); and a frame that comes to a caller who waits is read with what
is in effect at that moment (`readAsInEffect`). -/
namespace ServiceMux
variable {μ : Type}

/-- Whether the connection's own prototype for the discriminator is taken away or replaced. -/
def Event.unsets (discriminator : UInt16) : Event μ → Bool
  | .addPrototype other _ => other == discriminator
  | .clearPrototypes => true
  | _ => false

/-- Added for the discriminator, and neither replaced nor cleared since. -/
def Latest (events : List (Event μ)) (discriminator : UInt16) (p : Prototype μ) : Prop :=
  ∃ before after, events = before ++ .addPrototype discriminator p :: after ∧
    ∀ e ∈ after, e.unsets discriminator = false

/-- The prototypes that a handshake brings are added before anything else. -/
def Handshake.installs (h : Handshake μ) : List (Event μ) :=
  h.prototypes.map fun p => .addPrototype p.1 p.2

theorem latestNone {discriminator : UInt16} {p : Prototype μ} : ¬Latest [] discriminator p := by
  rintro ⟨before, after, split, -⟩
  simp at split

theorem latestSnoc {events : List (Event μ)} {e : Event μ} {discriminator : UInt16}
    {p : Prototype μ} : Latest (events ++ [e]) discriminator p ↔
      e = .addPrototype discriminator p ∨
        e.unsets discriminator = false ∧ Latest events discriminator p := by
  constructor
  · rintro ⟨before, after, split, quiet⟩
    -- What was added last is the last event, or else that one comes after it.
    rcases List.eq_nil_or_concat after with rfl | ⟨rest, last, rfl⟩
    · obtain ⟨-, same⟩ := List.append_inj' split rfl
      exact .inl (by simpa using same)
    · have parts : events ++ [e] = (before ++ .addPrototype discriminator p :: rest) ++ [last] := by
        simpa using split
      obtain ⟨rfl, same⟩ := List.append_inj' parts rfl
      cases same
      refine .inr ⟨quiet e (by simp), before, rest, rfl, fun other member => quiet other ?_⟩
      simp [member]
  · rintro (rfl | ⟨quiet, before, after, rfl, still⟩)
    · exact ⟨events, [], rfl, by simp⟩
    · refine ⟨before, after ++ [e], by simp, fun other member => ?_⟩
      rcases List.mem_append.mp member with old | new
      · exact still other old
      · rw [List.mem_singleton.mp new]
        exact quiet

namespace Connection

/-- All that a frame is read with. -/
def manual (c : Connection μ) : Service × Registry μ × List (UInt16 × Prototype μ) :=
  (c.service, c.registry, c.instancePrototypes)

/-- A frame is read as before, and the books are still in order. -/
structure Undisturbed (c d : Connection μ) : Prop where
  manual : d.manual = c.manual
  coherent : c.Coherent → d.Coherent

namespace Undisturbed
variable {b c d : Connection μ}

theorem refl (c : Connection μ) : Undisturbed c c := ⟨rfl, fun h => h⟩

theorem trans (left : Undisturbed b c) (right : Undisturbed c d) : Undisturbed b d :=
  ⟨right.manual.trans left.manual, right.coherent ∘ left.coherent⟩

theorem terms (same : d.terms = c.terms) (coherent : c.Coherent → d.Coherent) :
    Undisturbed c d :=
  ⟨congrArg (fun terms => (terms.service, terms.registry, terms.prototypes)) same, coherent⟩

theorem closed (c : Connection μ) (reason : CloseReason) : Undisturbed c (c.close reason) :=
  terms (closeTerms c reason) (·.close reason)

theorem released (c : Connection μ) : Undisturbed c c.release :=
  ⟨congrArg (fun terms => (terms.service, terms.registry, terms.prototypes)) (releaseTerms c),
    Coherent.release⟩

variable [Message μ]

theorem step (c : Connection μ) {e : Event μ}
    (quiet : ∀ discriminator, e.unsets discriminator = false) : Undisturbed c (c.step e) := by
  refine ⟨?_, fun h => h.step e⟩
  by_cases traffic : e.isTraffic = true
  · exact (terms (stepTerms c traffic) (fun h => h.step e)).manual
  · cases e with
    | attach =>
      obtain ⟨n, same⟩ := attachStep c
      rw [same]
      rfl
    | release =>
      dsimp only [Connection.step]
      split
      · rfl
      · exact (released c).manual
    | addPrototype discriminator p => simpa [Event.unsets] using quiet discriminator
    | clearPrototypes => simpa [Event.unsets] using quiet 0
    | setReplyTimeout | setJob | setAttributes => rfl
    | submit | poll | abandon | wait | dropReply | interrupt | read | disconnect | allocate =>
      exact absurd rfl traffic

theorem found {c : Connection μ} {e : Event μ} {found : Connection μ} {frame : Frame}
    (member : .routed found frame ∈ c.occurrences e) : Undisturbed c found := by
  refine occurrencesKeep (Undisturbed c) ?_ (fun _ => ⟨rfl, fun h => ⟨h.matched, h.owned⟩⟩) member
  intro d head so
  exact so.trans ⟨by rw [routeEq]; rfl, (·.route head)⟩

end Undisturbed
end Connection
open Connection

/-- A connection to this service, with this registry, whose own prototypes come of these events. -/
structure Fitted (service : Service) (registry : Registry μ) (events : List (Event μ))
    (c : Connection μ) : Prop where
  coherent : c.Coherent
  service : c.service = service
  registry : c.registry = registry
  own : ∀ discriminator p, c.instancePrototypes.lookup discriminator = some p ↔
    Latest events discriminator p

namespace Fitted
variable {service : Service} {registry : Registry μ} {events : List (Event μ)}
  {c d : Connection μ}

theorem start (s : Setting μ) : Fitted s.service s.registry [] s.start := by
  refine ⟨startCoherent s, rfl, rfl, fun discriminator p => ?_⟩
  have bare : s.start.instancePrototypes.lookup discriminator = none := rfl
  simp [bare, latestNone]

theorem same (h : Fitted service registry events c) (undisturbed : Undisturbed c d) :
    Fitted service registry events d := by
  have manual := undisturbed.manual
  simp only [Connection.manual, Prod.mk.injEq] at manual
  obtain ⟨sameService, sameRegistry, prototypes⟩ := manual
  exact ⟨undisturbed.coherent h.coherent, sameService.trans h.service,
    sameRegistry.trans h.registry, by simpa [prototypes] using h.own⟩

variable [Message μ]

theorem adds (h : Fitted service registry events c) (added : UInt16) (p : Prototype μ) :
    Fitted service registry (events ++ [.addPrototype added p])
      (c.step (.addPrototype added p)) := by
  refine ⟨h.coherent.step _, h.service, h.registry, fun discriminator q => ?_⟩
  simp only [Connection.step, Connection.addPrototype, List.lookup_cons, latestSnoc, ← h.own]
  by_cases own : discriminator = added
  · simp [own, Event.unsets]
  · have miss : (discriminator == added) = false := beq_false_of_ne own
    simp [miss, Ne.symm own, Event.unsets]

theorem clears (h : Fitted service registry events c) :
    Fitted service registry (events ++ [.clearPrototypes]) (c.step .clearPrototypes) := by
  refine ⟨h.coherent.step _, h.service, h.registry, fun discriminator p => ?_⟩
  simp [Connection.step, Connection.clearPrototypes, latestSnoc, Event.unsets]

theorem step (h : Fitted service registry events c) (e : Event μ) :
    Fitted service registry (events ++ [e]) (c.step e) := by
  by_cases quiet : ∀ discriminator, e.unsets discriminator = false
  · obtain ⟨coherent, sameService, sameRegistry, own⟩ := h.same (Undisturbed.step c quiet)
    refine ⟨coherent, sameService, sameRegistry, fun discriminator p => ?_⟩
    have other : e ≠ .addPrototype discriminator p := by
      rintro rfl
      simpa [Event.unsets] using quiet discriminator
    simp [own, latestSnoc, quiet, other]
  · cases e with
    | addPrototype added p => exact h.adds added p
    | clearPrototypes => exact h.clears
    | _ => exact absurd (fun _ => rfl) quiet

theorem run (h : Fitted service registry events c) (later : List (Event μ)) :
    Fitted service registry (events ++ later) (c.run later) := by
  unfold Connection.run
  induction later generalizing events c with
  | nil => simpa using h
  | cons e rest ih => simpa using ih (h.step e)

end Fitted

/-! What a caller is told. -/

theorem RoutingFault.headAppend {first : Char} {text : String}
    (head : text.toList.head? = some first) (more : String) :
    (text ++ more).toList.head? = some first := by simp [head]

/-- A frame that was read, if badly, is never said to have had nothing to be read with. -/
theorem RoutingFault.undecodableOther (typeName : String) (discriminator other : UInt16)
    (cause : CodecError) :
    (undecodable typeName discriminator cause).toServerError ≠
      (unregistered other).toServerError := by
  -- The two texts begin differently.
  have read : (undecodable typeName discriminator cause).message.toList.head? = some 'c' :=
    headAppend (headAppend (headAppend (headAppend (headAppend rfl _) _) _) _) _
  have unread : (unregistered other).message.toList.head? = some 'n' := headAppend rfl _
  intro same
  rw [ServerError.protocol.inj same, unread] at read
  contradiction

section Telling
variable [Message μ]

/-- What the frame says, read with this prototype. -/
def Prototype.tells (p : Prototype μ) (frame : Frame) : Except ServerError (Reply μ) :=
  let header := frame.header
  match p.decode header frame.body with
  | .ok reply => .ok (reply.stamp header.correlationId)
  | .error cause =>
    .error (RoutingFault.undecodable p.typeName header.requestReplyId cause).toServerError

theorem Prototype.tellsRead (p : Prototype μ) (frame : Frame) (discriminator : UInt16) :
    p.tells frame ≠ .error (RoutingFault.unregistered discriminator).toServerError := by
  unfold Prototype.tells
  dsimp only
  split
  · nofun
  · exact fun same => RoutingFault.undecodableOther _ _ _ _ (Except.error.inj same)

namespace Connection
variable {found : Connection μ} {frame : Frame} {ticket : Nat}
  {result : Except ServerError (Reply μ)}

/-- The caller who waits with this ticket, under the frame's id, is told so by the frame. -/
def Gives (found : Connection μ) (frame : Frame) (ticket : Nat)
    (result : Except ServerError (Reply μ)) : Prop :=
  let r : Registration := ⟨frame.header.correlationId, ticket⟩
  Inbox.mk r none ∈ found.inboxes ∧ Inbox.mk r (some result) ∈ (found.route frame).inboxes

theorem givesVerdict (h : found.Coherent)
    (held : found.table.get? frame.header.correlationId = some ⟨ticket, .awaited⟩) :
    found.Gives frame ticket result ↔ result = found.verdict frame := by
  have waits := h.matched.served _ (PendingTable.memOfGet held) rfl
  have told : Inbox.mk ⟨frame.header.correlationId, ticket⟩ (some (found.verdict frame)) ∈
      (found.route frame).inboxes := by
    rw [(routeInboxes h.apart frame).mem_iff, Inbox.answerAwaited held]
    exact List.mem_map.mpr ⟨_, waits, by simp [Inbox.fill]⟩
  constructor
  · rintro ⟨-, other⟩
    have same := (h.route frame).matched.sameTicket other told rfl
    simpa using same
  · rintro rfl
    exact ⟨waits, told⟩

theorem verdictRead (accepted : found.service.accepts frame.header.serverId = true)
    {p : Prototype μ} (read : found.prototypeFor frame.header.requestReplyId = some p) :
    found.verdict frame = p.tells frame := by
  simp only [verdict, accepted, read, if_true]
  rfl

theorem verdictUnread (accepted : found.service.accepts frame.header.serverId = true)
    (unread : found.prototypeFor frame.header.requestReplyId = none) : found.verdict frame =
      .error (RoutingFault.unregistered frame.header.requestReplyId).toServerError := by
  simp only [verdict, accepted, unread, if_true]

omit [Message μ] in
theorem reportsUnread (accepted : found.service.accepts frame.header.serverId = true) :
    found.reports frame =
        [.unregistered frame.header.correlationId frame.header.requestReplyId] ↔
      found.prototypeFor frame.header.requestReplyId = none := by
  unfold reports
  dsimp only
  rw [if_pos accepted]
  cases found.prototypeFor frame.header.requestReplyId with
  | none => simp
  | some p =>
    dsimp only
    split <;> simp

end Connection

/-- There is nothing to read a reply of this kind with. -/
def Unread (service : Service) (registry : Registry μ) (events : List (Event μ))
    (discriminator : UInt16) : Prop :=
  (∀ p, ¬Latest events discriminator p) ∧ registry.lookup service discriminator = none

/-- What the frame tells the caller, if it is read with what these events left in effect. -/
structure ReadAs (service : Service) (registry : Registry μ) (events : List (Event μ))
    (found : Connection μ) (frame : Frame) (ticket : Nat) : Prop where
  own : ∀ p, Latest events frame.header.requestReplyId p → ∀ result,
    found.Gives frame ticket result ↔ result = p.tells frame
  shared : (∀ p, ¬Latest events frame.header.requestReplyId p) → ∀ p,
    registry.lookup service frame.header.requestReplyId = some p → ∀ result,
      found.Gives frame ticket result ↔ result = p.tells frame
  unread : Unread service registry events frame.header.requestReplyId ↔ found.Gives frame ticket
    (.error (RoutingFault.unregistered frame.header.requestReplyId).toServerError)
  reported : Unread service registry events frame.header.requestReplyId ↔
    (found.route frame).warnings = found.warnings ++
      [.unregistered frame.header.correlationId frame.header.requestReplyId]
  only : ∀ reply, found.Gives frame ticket (.ok reply) → ∃ p, p.tells frame = .ok reply ∧
    (.addPrototype frame.header.requestReplyId p ∈ events ∨
      ((service, frame.header.requestReplyId), p) ∈ registry.entries)

/-- Whatever happens to the connection, also while a caller waits: the frame that comes to it is
read with what is in effect then, these earlier events counted in. -/
def Connection.ReadsBy (service : Service) (registry : Registry μ) (earlier : List (Event μ))
    (c : Connection μ) : Prop :=
  ∀ events e found frame ticket, .routed found frame ∈ (c.run events).occurrences e →
    service.accepts frame.header.serverId = true →
    found.table.get? frame.header.correlationId = some ⟨ticket, .awaited⟩ →
      ReadAs service registry (earlier ++ events) found frame ticket

namespace Fitted
variable {service : Service} {registry : Registry μ} {events : List (Event μ)}
  {c found : Connection μ}

omit [Message μ] in
theorem latestOnly (h : Fitted service registry events found) {discriminator : UInt16}
    {p q : Prototype μ} (left : Latest events discriminator p)
    (right : Latest events discriminator q) : q = p :=
  Option.some.inj (((h.own _ _).mpr right).symm.trans ((h.own _ _).mpr left))

omit [Message μ] in
/-- The two tables, one above the other. -/
theorem inEffect (h : Fitted service registry events found) (discriminator : UInt16) :
    (∃ p, Latest events discriminator p ∧ found.prototypeFor discriminator = some p) ∨
      (∀ p, ¬Latest events discriminator p) ∧
        found.prototypeFor discriminator = registry.lookup service discriminator := by
  unfold Connection.prototypeFor
  cases own : found.instancePrototypes.lookup discriminator with
  | some p => exact .inl ⟨p, (h.own _ _).mp own, rfl⟩
  | none =>
    refine .inr ⟨fun p latest => ?_, by rw [h.service, h.registry]⟩
    rw [(h.own _ _).mpr latest] at own
    contradiction

omit [Message μ] in
theorem unread (h : Fitted service registry events found) (discriminator : UInt16) :
    Unread service registry events discriminator ↔ found.prototypeFor discriminator = none := by
  unfold Unread
  rcases h.inEffect discriminator with ⟨p, latest, read⟩ | ⟨none, read⟩
  · simp only [read, reduceCtorEq, iff_false]
    exact fun nothing => nothing.1 p latest
  · simp [read, none]

omit [Message μ] in
theorem source (h : Fitted service registry events found) {discriminator : UInt16}
    {p : Prototype μ} (read : found.prototypeFor discriminator = some p) :
    .addPrototype discriminator p ∈ events ∨ ((service, discriminator), p) ∈ registry.entries := by
  rcases h.inEffect discriminator with ⟨q, ⟨before, after, split, -⟩, own⟩ | ⟨-, shared⟩
  · rw [own] at read
    cases read
    exact .inl (by simp [split])
  · rw [shared] at read
    obtain ⟨before, after, split, -⟩ := List.lookup_eq_some_iff.mp read
    exact .inr (by simp [split])

theorem reads (h : Fitted service registry events found) {frame : Frame} {ticket : Nat}
    (accepted : service.accepts frame.header.serverId = true)
    (held : found.table.get? frame.header.correlationId = some ⟨ticket, .awaited⟩) :
    ReadAs service registry events found frame ticket := by
  have gives (result : Except ServerError (Reply μ)) :
      found.Gives frame ticket result ↔ result = found.verdict frame :=
    givesVerdict h.coherent held
  rw [← h.service] at accepted
  constructor
  · intro p latest result
    rcases h.inEffect frame.header.requestReplyId with ⟨q, other, read⟩ | ⟨none, -⟩
    · rw [gives, verdictRead accepted read, h.latestOnly latest other]
    · exact absurd latest (none p)
  · intro none p registered result
    rcases h.inEffect frame.header.requestReplyId with ⟨q, latest, -⟩ | ⟨-, read⟩
    · exact absurd latest (none q)
    · rw [gives, verdictRead accepted (read.trans registered)]
  · rw [h.unread, gives]
    cases read : found.prototypeFor frame.header.requestReplyId with
    | none => simp [verdictUnread accepted read]
    | some p => simp [verdictRead accepted read, (p.tellsRead frame _).symm]
  · rw [h.unread, ← reportsUnread accepted, routeEq]
    simp
  · intro reply given
    have came := (gives _).mp given
    cases read : found.prototypeFor frame.header.requestReplyId with
    | none =>
      rw [verdictUnread accepted read] at came
      contradiction
    | some p =>
      rw [verdictRead accepted read] at came
      exact ⟨p, came.symm, h.source read⟩

theorem readsBy (h : Fitted service registry events c) : c.ReadsBy service registry events := by
  intro later e found frame ticket member accepted held
  exact ((h.run later).same (Undisturbed.found member)).reads accepted held

end Fitted
end Telling

/-! Openings. -/

namespace Connection.Undisturbed
variable [Message μ]

theorem asked (c : Connection μ) (stage : Stage) (request : μ) :
    Undisturbed c (Hooks.ask c stage request).1 := by
  rw [askSubmits]
  exact terms (submitTerms c _ _ _) fun h => h.submit _ _ _

theorem judged (hooks : Hooks μ) (credentials : Option Credentials) (c : Connection μ)
    (stage : Stage) (reply : Reply μ) :
    Undisturbed c (hooks.judge credentials c stage reply).1 := by
  unfold Hooks.judge
  cases stage with
  | start =>
    dsimp only
    split <;> exact refl c
  | attributes =>
    have kept : Undisturbed c { c with attributes := some reply } :=
      step c (e := .setAttributes reply) fun _ => rfl
    dsimp only
    split
    · exact refl c
    · split
      · exact kept
      · exact kept.trans (asked _ .start _)

theorem polled (hooks : Hooks μ) (credentials : Option Credentials) (c : Connection μ)
    (stage : Stage) (now : Instant) (attempt : WriteAttempt) :
    Undisturbed c (hooks.poll credentials c stage now attempt).1 := by
  have went : Undisturbed c (c.poll stage.call now attempt).1 :=
    step c (e := .poll stage.call now attempt) fun _ => rfl
  unfold Hooks.poll
  generalize c.poll stage.call now attempt = result at went ⊢
  split
  · exact went.trans (judged hooks credentials _ stage _)
  · exact went
  · exact went

end Connection.Undisturbed

namespace Attempt
variable {o : Opening μ} {offered : List (Occasion μ)} {a : Attempt μ} {c d : Connection μ}

/-- A connection that comes of the opening, before anybody else has it. -/
structure Fits (o : Opening μ) (offered : List (Occasion μ)) (c : Connection μ) : Prop where
  fitted : Fitted o.service c.registry o.handshake.installs c
  registry : ∃ occasion ∈ offered, c.registry = o.registry.getD occasion.shared.read.1

theorem Fits.same (h : Fits o offered c) (undisturbed : Undisturbed c d) : Fits o offered d := by
  have kept : d.registry = c.registry := congrArg (fun m => m.2.1) undisturbed.manual
  constructor
  · rw [kept]
    exact h.fitted.same undisturbed
  · rw [kept]
    exact h.registry

/-- Whatever connection there is came of the opening, with a registry that it was offered. -/
def AllFit (o : Opening μ) (offered : List (Occasion μ)) (a : Attempt μ) : Prop :=
  ∀ c, a.connection? = some c → Fits o offered c

theorem Fits.all (h : Fits o offered c) (only : a.connection? = some c) : AllFit o offered a := by
  intro d has
  rw [only] at has
  cases has
  exact h

theorem Fits.fails (h : Fits o offered c) (e : ServerError) :
    AllFit o offered (ofProgress (Opening.fail c e)) :=
  (h.same ((Undisturbed.closed c .forced).trans (Undisturbed.released _))).all rfl

theorem Fits.concludes (h : Fits o offered c) (address : HostAddress) (limit : Deadline)
    (negotiation : Negotiation) :
    AllFit o offered (ofProgress (Opening.conclude address limit c negotiation)) := by
  match negotiation with
  | .under stage => exact h.all rfl
  | .over (.error e) => exact h.fails _
  | .over (.ok none) => exact h.all rfl
  | .over (.ok (some job)) =>
    exact (h.same (d := { c with job }) ⟨rfl, fun books => ⟨books.matched, books.owned⟩⟩).all rfl

variable [Message μ]

theorem establishFits (address : HostAddress) (localAddress : Option Net.SocketAddress)
    (id : UInt32) {registry : Registry μ} (now : Instant)
    (given : ∃ occasion ∈ offered, registry = o.registry.getD occasion.shared.read.1) :
    AllFit o offered (ofProgress (o.establish address localAddress id registry now)) := by
  let s : Setting μ := ⟨id, o.service, registry, o.config, some address, localAddress⟩
  have installed : s.start.run o.handshake.installs =
      o.handshake.prototypes.foldl (fun c p => c.addPrototype p.1 p.2) s.start := by
    simp only [Connection.run, Handshake.installs, List.foldl_map, Connection.step]
  have fitted := (Fitted.start s).run o.handshake.installs
  have fits : Fits o offered (s.start.run o.handshake.installs) :=
    ⟨by rw [fitted.registry]; exact fitted, by rw [fitted.registry]; exact given⟩
  rw [installed] at fits
  unfold Opening.establish
  dsimp only
  split
  · exact fits.concludes address _ _
  · exact (fits.same (Undisturbed.asked _ _ _)).concludes address _ _

theorem connectFits {occasion : Occasion μ} (member : occasion ∈ offered) (address : HostAddress)
    (localAddress : Option Net.SocketAddress) (id : UInt32) (now : Instant) :
    AllFit o offered (ofProgress (o.connect address localAddress id occasion.shared now).1) := by
  unfold Opening.connect
  split
  · rename_i own
    exact establishFits address localAddress id now ⟨occasion, member, by simp [own]⟩
  · rename_i none
    exact establishFits address localAddress id now ⟨occasion, member, by simp [none]⟩

namespace AllFit

omit [Message μ] in
theorem nothing (none : a.connection? = none) : AllFit o offered a := by
  intro c has
  rw [none] at has
  contradiction

omit [Message μ] in
theorem begins (o : Opening μ) (offered : List (Occasion μ)) (provider : Provider) (now : Instant) :
    AllFit o offered (o.begin provider now) := by
  unfold Opening.begin
  split <;> exact nothing rfl

theorem polls (h : AllFit o offered a) {occasion : Occasion μ} (member : occasion ∈ offered)
    (now : Instant) (attempt : WriteAttempt) :
    AllFit o offered
      (a.poll o occasion.nextConnection occasion.shared now attempt).1 := by
  cases a with
  | opened | failed | dropped => exact h
  | dialing d =>
    unfold Attempt.poll
    dsimp only
    split
    · exact h
    · exact nothing rfl
    · exact connectFits member d.address _ _ now
  | going n =>
    have fits := h n.connection rfl
    show AllFit o offered (ofProgress (o.poll n now attempt))
    unfold Opening.poll
    split
    · exact fits.concludes n.address n.limit _
    · exact (fits.same (Undisturbed.polled _ _ _ _ _ _)).concludes n.address n.limit _

theorem abandons {n : Opening.Negotiating μ} (h : AllFit o offered (.going n)) :
    Fits o offered (n.connection.abandon n.stage.call) :=
  (h n.connection rfl).same (Undisturbed.step _ (e := .abandon n.stage.call) fun _ => rfl)

theorem expires (h : AllFit o offered a) (now : Instant) : AllFit o offered (a.expire o now) := by
  cases a with
  | dialing | opened | failed | dropped => exact h
  | going n =>
    unfold Attempt.expire
    dsimp only
    split
    · exact h.abandons.fails _
    · exact h

theorem drops (h : AllFit o offered a) : AllFit o offered a.drop := by
  cases a with
  | opened | failed | dropped => exact h
  | dialing d => exact nothing rfl
  | going n => exact (h.abandons.same (Undisturbed.released _)).all rfl

theorem reads (h : AllFit o offered a) (arrival : Option Arrival) :
    AllFit o offered (a.read arrival) := by
  have read {c : Connection μ} (has : a.connection? = some c) :
      Fits o offered (c.pollReader arrival) :=
    (h c has).same (Undisturbed.step c (e := .read arrival) fun _ => rfl)
  cases a with
  | dialing d => exact nothing rfl
  | going n => exact (read rfl).all rfl
  | opened c => exact (read rfl).all rfl
  | failed e c | dropped c =>
    cases c with
    | none => exact nothing rfl
    | some c => exact (read rfl).all rfl

theorem step (h : AllFit o offered a) {occasion : Occasion μ} (member : occasion ∈ offered) :
    AllFit o offered (a.step o occasion) := by
  unfold Attempt.step
  split
  · exact h.polls member _ _
  · exact h.expires _
  · exact h.drops
  · exact h.reads _

theorem run (h : AllFit o offered a) {occasions : List (Occasion μ)}
    (within : occasions ⊆ offered) : AllFit o offered (a.run o occasions) := by
  unfold Attempt.run
  induction occasions generalizing a with
  | nil => exact h
  | cons occasion rest ih =>
    rw [List.cons_subset] at within
    exact ih (h.step within.1) within.2

end AllFit
end Attempt

theorem readAsInEffect [Message μ] :
    (∀ s : Setting μ, s.start.ReadsBy s.service s.registry []) ∧
      ∀ (o : Opening μ) provider start occasions c,
        ((o.begin provider start).run o occasions).connection? = some c →
          (∃ occasion ∈ occasions, c.registry = o.registry.getD occasion.shared.read.1) ∧
            c.ReadsBy o.service c.registry o.handshake.installs := by
  refine ⟨fun s => (Fitted.start s).readsBy, fun o provider start occasions c opened => ?_⟩
  have begun : Attempt.AllFit o occasions (o.begin provider start) := .begins o _ provider start
  have fits := begun.run (List.Subset.refl _) c opened
  exact ⟨fits.registry, fits.fitted.readsBy⟩

def overruled : Setting Bench.Datastream :=
  ⟨1, .command, ⟨[((.command, 0x8001), Bench.ReplyType.pong.prototype)]⟩, {}, none, none⟩

def overruling : List (Event Bench.Datastream) :=
  [.submit 0 (.receive none) ⟨0, .request 0x1001 0 [] none⟩, .poll 0 0 ⟨.complete, false⟩,
    .addPrototype 0x8001 Bench.ReplyType.raw.prototype]

def replyBytes : List UInt8 :=
  [0, 0, 0, 24, 0, 0, 0xE0, 8, 0, 0, 0, 0, 0, 0, 0, 1, 0, 4, 0x80, 1, 0, 0, 0, 7]

def replyFrame : Frame := ⟨⟨24, 0, 0xE008, 0, 1, 4, 0x8001⟩, [0, 0, 0, 7]⟩

theorem replyComes : .routed ((overruled.start.run overruling).countRead 24) replyFrame ∈
    (overruled.start.run overruling).occurrences (.read (some (.bytes replyBytes))) := by
  have taken : Frame.splitAll Frame.defaultMax replyBytes = ⟨[replyFrame], none, []⟩ := by
    have first : Frame.split Frame.defaultMax replyBytes = .ok (some (replyFrame, [])) := by decide
    rw [Frame.splitAllFrame first, Frame.splitAllPart rfl]
  have reader : (overruled.start.run overruling).reader = .reading [] := rfl
  rw [readOccurrences reader rfl (by decide)]
  show _ ∈ ((overruled.start.run overruling).countRead 24).routings
    (Frame.splitAll Frame.defaultMax replyBytes).frames
  rw [taken]
  exact List.mem_cons_self

/-- The reply is read as the last prototype has it, not as the one that was there when the request
went out. -/
theorem readWithTheLater :
    let found := (overruled.start.run overruling).countRead 24
    .routed found replyFrame ∈
        (overruled.start.run overruling).occurrences (.read (some (.bytes replyBytes))) ∧
      found.table.get? 1 = some ⟨1, .awaited⟩ ∧
      Latest overruling 0x8001 Bench.ReplyType.raw.prototype ∧
      found.Gives replyFrame 1 (Bench.ReplyType.raw.prototype.tells replyFrame) := by
  intro found
  have latest : Latest overruling 0x8001 Bench.ReplyType.raw.prototype :=
    ⟨overruling.take 2, [], rfl, nofun⟩
  have held : found.table.get? 1 = some ⟨1, .awaited⟩ := by rfl
  exact ⟨replyComes, held, latest, ((readAsInEffect.1 overruled overruling _ found replyFrame 1
    replyComes (by decide) held).own _ latest _).mpr rfl⟩
end ServiceMux
