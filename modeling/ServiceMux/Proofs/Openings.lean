import ServiceMux.Proofs.Attempts
import ServiceMux.Proofs.Inert
import ServiceMux.Proofs.Leases
/-! An opening comes to an open connection or to nothing that is still open. Main statements: what
each moment of an attempt leaves of its connection (`Keeps.step`), and what an attempt has come to
after any number of moments, when it has ended or was given up (`allOrNothing`). -/
namespace ServiceMux
variable {μ : Type}

namespace Connection

/-- Taken down, once, and nobody has it or waits for it any more. -/
structure Gone (c : Connection μ) : Prop where
  lifecycle : c.lifecycle = .closed
  closes : c.metrics.closes = 1
  pending : c.table.size = 0
  references : c.references = 0

variable [Message μ]

/-- A connection from its establishment on. -/
def Lived (c : Connection μ) : Prop :=
  ∃ (s : Setting μ) (events : List (Event μ)), c = s.start.run events

/-- A connection that is being opened, or just was: only the opening has a lease. -/
structure Opens (attributes : Option (Reply μ)) (job : String) (c : Connection μ) : Prop where
  lived : c.Lived
  references : c.references = 1
  attributes : c.attributes = attributes
  job : c.job = job

theorem Lived.step {c : Connection μ} (h : c.Lived) (e : Event μ) : (c.step e).Lived := by
  obtain ⟨s, events, rfl⟩ := h
  exact ⟨s, events ++ [e], (runLast s.start events e).symm⟩

theorem Lived.faults {c : Connection μ} (h : c.Lived) : c.inward.Faults := by
  obtain ⟨s, events, rfl⟩ := h
  exact runFaults s events

theorem Lived.gone {c : Connection μ} (h : c.Lived) (down : c.isLive = false)
    (references : c.references = 0) : c.Gone := by
  obtain ⟨s, events, rfl⟩ := h
  rcases standing (runStanding s events) with ⟨live, _⟩ | ⟨closed, closes, _⟩
  · rw [isLive, live] at down
    contradiction
  · exact ⟨closed, closes, congrArg List.length (runDownIsInert s events closed).empty, references⟩

theorem Lived.staysClosed {c : Connection μ} (h : c.Lived) (closed : c.lifecycle = .closed)
    (e : Event μ) : (c.step e).lifecycle = .closed := by
  obtain ⟨s, events, rfl⟩ := h
  rcases runStanding s events with up | down
  · rw [show (s.start.run events).lifecycle = .live from up.lifecycle] at closed
    contradiction
  · exact (down.move (stepMoves _ e)).1.lifecycle

theorem Gone.step {c : Connection μ} (h : c.Gone) (lived : c.Lived) {e : Event μ}
    (traffic : e.isTraffic = true) : (c.step e).Gone := by
  have references : (c.step e).references = c.references :=
    congrArg Terms.references (stepTerms c traffic)
  refine (lived.step e).gone (beq_eq_false_iff_ne.mpr ?_) (references.trans h.references)
  rw [lived.staysClosed h.lifecycle e]
  nofun

namespace Opens
variable {attributes : Option (Reply μ)} {job : String} {c : Connection μ}
  (h : c.Opens attributes job)
include h

theorem traffic {e : Event μ} (traffic : e.isTraffic = true) : (c.step e).Opens attributes job := by
  have terms := stepTerms c traffic
  exact ⟨h.lived.step e, (congrArg Terms.references terms).trans h.references,
    (congrArg Terms.attributes terms).trans h.attributes,
    (congrArg Terms.job terms).trans h.job⟩

theorem released : c.release.Lived ∧ c.release.Gone := by
  have step : c.release = c.step .release := (if_neg (by simp [h.references])).symm
  have lived : c.release.Lived := step ▸ h.lived.step .release
  refine ⟨lived, lived.gone (releaseLast h.references) ?_⟩
  rw [releaseReferences, h.references]

theorem disconnected : (c.close .forced).release.Lived ∧ (c.close .forced).release.Gone :=
  released (h.traffic (e := .disconnect) rfl)

end Opens

/-- Prototypes come before any call. -/
theorem prototypesAdded (prototypes : List (UInt16 × Prototype μ)) {c : Connection μ}
    (h : c.Opens none "") (idle : c.callers = []) :
    let d := prototypes.foldl (fun c (d, p) => c.addPrototype d p) c
    d.Opens none "" ∧ d.callers = [] := by
  induction prototypes generalizing c with
  | nil => exact ⟨h, idle⟩
  | cons first rest ih =>
    refine ih (c := c.step (.addPrototype first.1 first.2)) ?_ idle
    exact ⟨h.lived.step _, h.references, h.attributes, h.job⟩

end Connection

namespace Sign

def rejections (past : List (Sign μ)) : List (UInt32 × String) := past.filterMap rejection?

end Sign

namespace Attempt
open Connection Sign

/-- The errors that an opening ends with, and what they say of the hooks' judgements. -/
inductive Blames : ServerError → List (Sign μ) → Prop where
  | connect {reason : String} {past : List (Sign μ)} (none : rejections past = []) :
      Blames (.connect reason) past
  | authentication {code : UInt32} {reason : String} {past : List (Sign μ)}
      (one : rejections past = [(code, reason)]) : Blames (.authentication code reason) past

theorem Blames.verdict {past : List (Sign μ)} (unrejected : rejections past = [])
    (e : HandshakeError) {sign : Sign μ} (said : sign.rejection? = e.rejection?) :
    Blames (Opening.asConnectFailure e.toServerError) (past ++ [sign]) := by
  have last : rejections (past ++ [sign]) = e.rejection?.toList := by
    rw [rejections, List.filterMap_append, ← rejections, unrejected, ← said]
    cases found : sign.rejection? <;> simp [found]
  cases e with
  | negotiation reason => exact .connect last
  | rejected code reason => exact .authentication last

variable [Message μ]

/-- What an attempt has come to, after these signs. -/
inductive Keeps (o : Opening μ) (hooks : Hooks μ) : List (Sign μ) → Attempt μ → Prop where
  | dialing (d : Opening.Dialing) : Keeps o hooks [] (.dialing d)
  | unreached (reason : String) : Keeps o hooks [] (.failed (.connect reason) none)
  | undialed : Keeps o hooks [] (.dropped none)
  | attributes {n : Opening.Negotiating μ} (stage : n.stage = .attributes)
      (opens : n.connection.Opens none "") (own : n.connection.Among [Stage.attributes.call]) :
      Keeps o hooks [.stream] (.going n)
  | start {n : Opening.Negotiating μ} {reply : Reply μ} {request : μ} (stage : n.stage = .start)
      (wanted : o.credentials.bind hooks.startServer = some request)
      (opens : n.connection.Opens (some reply) "") :
      Keeps o hooks [.stream, .attributes reply (.ok ())] (.going n)
  | brief {c : Connection μ} {reply : Reply μ}
      (unwanted : o.credentials.bind hooks.startServer = none)
      (opens : c.Opens (some reply) "") :
      Keeps o hooks [.stream, .attributes reply (.ok ())] (.opened c)
  | full {c : Connection μ} {reply answer : Reply μ} {request : μ} {job : Option String}
      (wanted : o.credentials.bind hooks.startServer = some request)
      (opens : c.Opens (some reply) (job.getD "")) :
      Keeps o hooks [.stream, .attributes reply (.ok ()), .start answer (.ok job)] (.opened c)
  | failed {past : List (Sign μ)} {e : ServerError} {c : Connection μ} (blames : Blames e past)
      (streamed : .stream ∈ past) (lived : c.Lived) (gone : c.Gone) :
      Keeps o hooks past (.failed e (some c))
  | dropped {past : List (Sign μ)} {c : Connection μ} (unrejected : rejections past = [])
      (streamed : .stream ∈ past) (lived : c.Lived) (gone : c.Gone) :
      Keeps o hooks past (.dropped (some c))

namespace Keeps
variable {o : Opening μ} {hooks : Hooks μ} {past : List (Sign μ)} {a : Attempt μ}

/-- A handshake that failed takes its connection with it. -/
theorem fails {attributes : Option (Reply μ)} {c : Connection μ} (opens : c.Opens attributes "")
    {e : ServerError} (blames : Blames e past) (streamed : .stream ∈ past) :
    Keeps o hooks past (ofProgress (Opening.fail c e)) :=
  .failed blames streamed opens.disconnected.1 opens.disconnected.2

theorem failsOfCall {attributes : Option (Reply μ)} {c : Connection μ}
    (opens : c.Opens attributes "") {e : ServerError} (call : e.isOfCall = true)
    (unrejected : rejections past = []) (streamed : .stream ∈ past) :
    Keeps o hooks past (ofProgress (Opening.fail c (Opening.asConnectFailure e))) := by
  obtain ⟨reason, same⟩ := ServerError.asConnect call
  rw [same]
  exact fails opens (.connect unrejected) streamed

/-- The exchange of a stage begins, and goes on or has failed. -/
theorem asks {attributes : Option (Reply μ)} {c : Connection μ} (opens : c.Opens attributes "")
    {stage : Stage} (fresh : stage.call ∉ c.callers) (unrejected : rejections past = [])
    (streamed : .stream ∈ past) (address : HostAddress) (limit : Deadline) (request : μ)
    (goes : ∀ n : Opening.Negotiating μ, n.stage = stage → n.connection.Opens attributes "" →
      n.connection.Among (stage.call :: c.callers) → Keeps o hooks past (.going n)) :
    let (c, negotiation) := Hooks.ask c stage request
    Keeps o hooks past (ofProgress (Opening.conclude address limit c negotiation)) := by
  have begun := opens.traffic (e := .submit stage.call (.receive c.replyTimeout) request) rfl
  rcases asked fresh request with under | ⟨e, call, failed⟩
  · rw [under]
    refine goes ⟨address, _, stage, limit⟩ rfl begun ?_
    rw [Connection.step, if_pos (freshOf fresh)]
    exact submitAmong c stage.call _ request
  · rw [failed]
    exact failsOfCall begun call unrejected streamed

omit [Message μ] in
theorem dialedError {d : Opening.Dialing} {now : Instant} {e : ServerError}
    (ended : o.dialed d now = some (.error e)) : ∃ reason, e = .connect reason := by
  unfold Opening.dialed at ended
  split at ended
  · split at ended <;> cases ended
    exact ⟨_, rfl⟩
  · split at ended
    · cases ended
      exact ⟨_, rfl⟩
    · contradiction

/-! What the hooks say. -/

theorem judgesAttributes {n : Opening.Negotiating μ} (stage : n.stage = .attributes)
    {d : Connection μ} (opens : d.Opens none "") (own : d.Among [Stage.attributes.call])
    (reply : Reply μ) :
    let (c, negotiation) := hooks.judge o.credentials d n.stage reply
    Keeps o hooks ([.stream] ++ [hooks.verdict reply n.stage])
      (ofProgress (Opening.conclude n.address n.limit c negotiation)) := by
  rw [stage]
  unfold Hooks.judge Hooks.verdict
  dsimp only
  cases hooks.checkAttributes reply with
  | error e => exact fails opens (.verdict rfl e rfl) (by simp)
  | ok =>
    have cached : Connection.Opens (some reply) "" { d with attributes := some reply } :=
      ⟨opens.lived.step (.setAttributes reply), opens.references, rfl, opens.job⟩
    cases wanted : o.credentials.bind hooks.startServer with
    | none => exact .brief wanted cached
    | some request =>
      have fresh : Stage.start.call ∉ d.callers := fun member => by
        have first := own.subset member
        simp [Stage.call] at first
      exact asks cached fresh rfl (by simp) n.address n.limit request
        fun n stage begun _ => .start stage wanted begun

theorem judgesStart {n : Opening.Negotiating μ} (stage : n.stage = .start) {first : Reply μ}
    {request : μ} (wanted : o.credentials.bind hooks.startServer = some request)
    {d : Connection μ} (opens : d.Opens (some first) "") (reply : Reply μ) :
    let (c, negotiation) := hooks.judge o.credentials d n.stage reply
    Keeps o hooks ([.stream, .attributes first (.ok ())] ++ [hooks.verdict reply n.stage])
      (ofProgress (Opening.conclude n.address n.limit c negotiation)) := by
  rw [stage]
  unfold Hooks.judge Hooks.verdict
  dsimp only
  cases hooks.checkStartServer reply with
  | error e => exact fails opens (.verdict rfl e rfl) (by simp)
  | ok job =>
    cases job with
    | none => exact .full wanted opens
    | some job =>
      exact .full wanted ⟨opens.lived.step (.setJob job), opens.references, opens.attributes, rfl⟩

/-! From moment to moment. -/

section Moments
variable (exchanges : o.handshake = .exchange hooks)
include exchanges

theorem establishes (address : HostAddress) (localAddress : Option Net.SocketAddress)
    (id : UInt32) (registry : Registry μ) (now : Instant) :
    Keeps o hooks [.stream] (ofProgress (o.establish address localAddress id registry now)) := by
  let s : Setting μ := ⟨id, o.service, registry, o.config, some address, localAddress⟩
  obtain ⟨opens, idle⟩ := prototypesAdded o.handshake.prototypes (c := s.start)
    ⟨⟨s, [], rfl⟩, rfl, rfl, rfl⟩ rfl
  unfold Opening.establish
  simp only [exchanges] at opens idle ⊢
  refine asks opens (by rw [idle]; nofun) rfl (by simp) address _ hooks.exchangeAttributes ?_
  intro n stage begun among
  rw [idle] at among
  exact .attributes stage begun among

theorem connects (address : HostAddress) (localAddress : Option Net.SocketAddress) (id : UInt32)
    (shared : SharedRegistry μ) (now : Instant) :
    Keeps o hooks [.stream]
      (ofProgress (o.connect address localAddress id shared now).1) := by
  unfold Opening.connect
  split <;> exact establishes exchanges address localAddress id _ now

/-- The exchange of a stage is let run: it goes on, it has failed, or its reply is judged. -/
theorem lets {attributes : Option (Reply μ)} {n : Opening.Negotiating μ}
    (opens : n.connection.Opens attributes "") (unrejected : rejections past = [])
    (streamed : .stream ∈ past) (now : Instant) (attempt : WriteAttempt) :
    let d := n.connection.step (.poll n.stage.call now attempt)
    (d.Opens attributes "" → Keeps o hooks past (.going { n with connection := d })) →
    (∀ reply, d.Opens attributes "" →
      let (c, negotiation) := hooks.judge o.credentials d n.stage reply
      Keeps o hooks (past ++ [hooks.verdict reply n.stage])
        (ofProgress (Opening.conclude n.address n.limit c negotiation))) →
    Keeps o hooks (past ++ (going n).signs o hooks (.poll now attempt))
      (ofProgress (o.poll n now attempt)) := by
  intro d goes judges
  have next : d.Opens attributes "" := opens.traffic rfl
  unfold Opening.poll signs
  rw [exchanges]
  dsimp only
  rcases polled opens.lived.faults hooks o.credentials n.stage now attempt with
    ⟨reply, came, judged⟩ | ⟨silent, ended⟩
  · rw [came, judged]
    exact judges reply next
  · split
    · rename_i reply came
      exact absurd came (silent reply)
    · rw [List.append_nil]
      rcases ended with under | ⟨e, call, failed⟩
      · rw [under]
        exact goes next
      · rw [failed]
        exact failsOfCall next call unrejected streamed

theorem proceeds {n : Opening.Negotiating μ} (h : Keeps o hooks past (.going n)) (now : Instant)
    (attempt : WriteAttempt) :
    Keeps o hooks (past ++ (going n).signs o hooks (.poll now attempt))
      (ofProgress (o.poll n now attempt)) := by
  cases h with
  | attributes stage opens own =>
    have among := stepAmong own (e := .poll n.stage.call now attempt) nofun nofun
    refine lets exchanges opens rfl (by simp) now attempt
      (fun next => .attributes stage next among) fun reply next => ?_
    exact judgesAttributes stage next among reply
  | start stage wanted opens =>
    refine lets exchanges opens rfl (by simp) now attempt
      (fun next => .start stage wanted next) fun reply next => ?_
    exact judgesStart stage wanted next reply

theorem runs (h : Keeps o hooks past a) (id : UInt32) (shared : SharedRegistry μ) (now : Instant)
    (attempt : WriteAttempt) :
    Keeps o hooks (past ++ a.signs o hooks (.poll now attempt))
      (a.poll o id shared now attempt).1 := by
  have quiet : past ++ [] = past := List.append_nil past
  cases a with
  | going n => exact proceeds exchanges h now attempt
  | opened c | failed e c | dropped c => exact quiet.symm ▸ h
  | dialing d =>
    cases h
    unfold Attempt.poll signs
    dsimp only
    cases ended : o.dialed d now with
    | none => exact .dialing d
    | some result =>
      cases result with
      | ok localAddress => exact connects exchanges d.address localAddress id shared now
      | error e =>
        obtain ⟨reason, rfl⟩ := dialedError ended
        exact .unreached reason

end Moments

theorem underway {n : Opening.Negotiating μ} (h : Keeps o hooks past (.going n)) :
    ∃ attributes, n.connection.Opens attributes "" ∧ rejections past = [] ∧ .stream ∈ past := by
  cases h with
  | attributes stage opens own => exact ⟨_, opens, rfl, by simp⟩
  | start stage wanted opens => exact ⟨_, opens, rfl, by simp⟩

theorem expires (h : Keeps o hooks past a) (now : Instant) :
    Keeps o hooks past (a.expire o now) := by
  cases a with
  | going n =>
    unfold Attempt.expire
    dsimp only
    split
    · obtain ⟨_, opens, unrejected, streamed⟩ := h.underway
      exact fails (opens.traffic (e := .abandon n.stage.call) rfl) (.connect unrejected) streamed
    · exact h
  | dialing | opened | failed | dropped => exact h

theorem drops (h : Keeps o hooks past a) : Keeps o hooks past a.drop := by
  cases a with
  | going n =>
    obtain ⟨_, opens, unrejected, streamed⟩ := h.underway
    obtain ⟨lived, gone⟩ := (opens.traffic (e := .abandon n.stage.call) rfl).released
    exact .dropped unrejected streamed lived gone
  | dialing d =>
    cases h
    exact .undialed
  | opened | failed | dropped => exact h

theorem reads (h : Keeps o hooks past a) (arrival : Option Arrival) :
    Keeps o hooks past (a.read arrival) := by
  cases h with
  | dialing d => exact .dialing d
  | unreached reason => exact .unreached reason
  | undialed => exact .undialed
  | attributes stage opens own =>
    exact .attributes stage (opens.traffic (e := .read arrival) rfl)
      (stepAmong own (e := .read arrival) nofun nofun)
  | start stage wanted opens => exact .start stage wanted (opens.traffic (e := .read arrival) rfl)
  | brief unwanted opens => exact .brief unwanted (opens.traffic (e := .read arrival) rfl)
  | full wanted opens => exact .full wanted (opens.traffic (e := .read arrival) rfl)
  | failed blames streamed lived gone =>
    exact .failed blames streamed (lived.step (.read arrival))
      (gone.step lived (e := .read arrival) rfl)
  | dropped unrejected streamed lived gone =>
    exact .dropped unrejected streamed (lived.step (.read arrival))
      (gone.step lived (e := .read arrival) rfl)

theorem step (exchanges : o.handshake = .exchange hooks) (h : Keeps o hooks past a)
    (occasion : Occasion μ) :
    Keeps o hooks (past ++ a.signs o hooks occasion.moment) (a.step o occasion) := by
  obtain ⟨id, shared, moment⟩ := occasion
  have quiet (none : a.signs o hooks moment = []) :
      past ++ a.signs o hooks moment = past := by rw [none, List.append_nil]
  cases moment with
  | poll now attempt => exact h.runs exchanges id shared now attempt
  | expire now => rw [quiet (by cases a <;> rfl)]; exact h.expires now
  | drop => rw [quiet (by cases a <;> rfl)]; exact h.drops
  | read arrival => rw [quiet (by cases a <;> rfl)]; exact h.reads arrival

theorem begins (provider : Provider) (now : Instant) :
    Keeps o hooks [] (o.begin provider now) := by
  unfold Opening.begin
  split
  · exact .dialing _
  · rename_i e undialed
    unfold Opening.dial at undialed
    split at undialed
    · cases undialed
      exact .unreached _
    · contradiction

theorem run (exchanges : o.handshake = .exchange hooks) (provider : Provider) (start : Instant)
    (occasions : List (Occasion μ)) :
    let begun := o.begin provider start
    Keeps o hooks (begun.past o hooks occasions) (begun.run o occasions) :=
  afterPast o hooks (Keeps o hooks) (begins provider start)
    (fun _ _ occasion h => h.step exchanges occasion) occasions

/-! What it has come to. -/

theorem streamed (h : Keeps o hooks past a) : .stream ∈ past ↔ a.connection? ≠ none := by
  cases h with
  | dialing | unreached | undialed => simp [connection?]
  | attributes | start | brief | full => simp [connection?]
  | failed blames streamed | dropped unrejected streamed => simp [connection?, streamed]

theorem rejected (h : Keeps o hooks past a) (code : UInt32) (reason : String) :
    (∃ c, a = .failed (.authentication code reason) c) ↔ (code, reason) ∈ rejections past := by
  cases h with
  | failed blames =>
    cases blames with
    | connect none => simp [none]
    | authentication one => simp [one, eq_comm]
  | dropped unrejected => simp [unrejected]
  | _ => simp [rejections, rejection?]

theorem error {e : ServerError} {c : Option (Connection μ)}
    (h : Keeps o hooks past (.failed e c)) :
    (∃ reason, e = .connect reason) ∨ ∃ code reason, e = .authentication code reason := by
  cases h with
  | unreached reason => exact .inl ⟨reason, rfl⟩
  | failed blames =>
    cases blames with
    | connect => exact .inl ⟨_, rfl⟩
    | authentication => exact .inr ⟨_, _, rfl⟩

theorem gone (h : Keeps o hooks past a)
    (ended : (∃ e c, a = .failed e c) ∨ ∃ c, a = .dropped c) :
    ∀ c, a.connection? = some c → c.Gone := by
  intro c has
  cases h with
  | failed blames streamed lived gone | dropped unrejected streamed lived gone =>
    cases has
    exact gone
  | _ => simp_all [connection?]

/-- How an opening succeeds: what was judged in it, and what it leaves on its connection. -/
structure Succeeds (o : Opening μ) (hooks : Hooks μ) (past : List (Sign μ)) (c : Connection μ) :
    Prop where
  references : c.references = 1
  judged : ∃ reply, c.attributes = some reply ∧
    ((o.credentials.bind hooks.startServer = none ∧ c.job = "" ∧
        past = [.stream, .attributes reply (.ok ())]) ∨
      ∃ request answer job, o.credentials.bind hooks.startServer = some request ∧
        c.job = job.getD "" ∧
        past = [.stream, .attributes reply (.ok ()), .start answer (.ok job)])

theorem succeeds {c : Connection μ} (h : Keeps o hooks past (.opened c)) :
    Succeeds o hooks past c := by
  cases h with
  | brief unwanted opens =>
    exact ⟨opens.references, _, opens.attributes, .inl ⟨unwanted, opens.job, rfl⟩⟩
  | full wanted opens =>
    exact ⟨opens.references, _, opens.attributes, .inr ⟨_, _, _, wanted, opens.job, rfl⟩⟩

end Keeps

theorem allOrNothing (o : Opening μ) (hooks : Hooks μ) (provider : Provider) (start : Instant)
    (occasions : List (Occasion μ)) :
    let o := { o with handshake := .exchange hooks }
    let begun := o.begin provider start
    let past := begun.past o hooks occasions
    let a := begun.run o occasions
    (.stream ∈ past ↔ a.connection? ≠ none) ∧
      (∀ e c, a = .failed e c → (∃ reason, e = .connect reason) ∨
        (∃ code reason, e = .authentication code reason) ∨ ∃ cause, e = .configuration cause) ∧
      (∀ code reason, (∃ c, a = .failed (.authentication code reason) c) ↔
        (code, reason) ∈ rejections past) ∧
      ((∃ e c, a = .failed e c) ∨ (∃ c, a = .dropped c) →
        ∀ c, a.connection? = some c → c.Gone) ∧
      ∀ c, a = .opened c → Keeps.Succeeds o hooks past c := by
  intro o begun past a
  have h : Keeps o hooks past a := Keeps.run rfl provider start occasions
  refine ⟨h.streamed, fun e c failed => ?_, h.rejected, h.gone, fun c opened => ?_⟩
  · rw [failed] at h
    exact h.error.imp_right .inl
  · rw [opened] at h
    exact h.succeeds

end Attempt
end ServiceMux
