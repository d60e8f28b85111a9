import ServiceMux.Bench.Datastream
import ServiceMux.Proofs.Enrolling
/-! What a pending reply comes to, and which event decides it. Main statements: the event that takes
its entry off the table decides, and nothing that comes later changes that; a wait times out only
with nothing in its inbox; and of all that try to interrupt it, the one that puts its error into the
inbox is told so (`firstEventDecides`). -/
namespace ServiceMux
variable {μ : Type}

namespace PendingTable
variable {t : PendingTable} {r : Registration}

theorem entryOf (held : t.holds r = true) : ∃ slot, (r.correlationId, slot) ∈ t.entries := by
  unfold holds at held
  split at held
  · rename_i slot found
    exact ⟨slot, memOfGet found⟩
  · contradiction

theorem Distinct.cancelMisses (h : t.Distinct) (r : Registration) :
    (t.cancel r).2.holds r = false := by
  by_contra held
  obtain ⟨fate, member⟩ := (h.cancel r).holds.mp (by simpa using held)
  exact (h.memCancel.mp member).2 ⟨rfl, rfl⟩

end PendingTable

theorem Inward.Only.misses {t : PendingTable} {r : Registration}
    (spent : Only r.ticket (fun _ => False) t) : t.holds r = false := by
  unfold PendingTable.holds
  split
  · rename_i slot found
    exact beq_eq_false_iff_ne.mpr (spent.entries _ (PendingTable.memOfGet found))
  · rfl

/-- What a pending reply comes to. -/
inductive Verdict (μ : Type) where
  | told (result : Except ServerError (Reply μ))
  | timedOut (after : Duration)
  /-- Its caller drops it, or never gets it. -/
  | givenUp

/-- The inbox it leaves. -/
def Verdict.inbox? (r : Registration) : Verdict μ → Option (Inbox μ)
  | told result => some ⟨r, some result⟩
  | timedOut _ | givenUp => none

/-- What a wait comes to at this time, with this in its inbox. -/
def Wait.yields (w : Wait) (result : Option (Except ServerError (Reply μ))) (now : Instant) :
    Option (Outcome μ) :=
  match result, w.deadline with
  | some result, _ => some (result.map .reply)
  | none, some deadline =>
    if deadline.isDue now then
      some (.error (.timeout w.registration.correlationId deadline.after))
    else none
  | none, none => none

theorem Wait.yieldsEmpty (w : Wait) (now : Instant) : w.yields (μ := μ) none now = none ∨
    ∃ deadline, w.deadline = some deadline ∧ deadline.isDue now = true ∧
      w.yields (μ := μ) none now =
        some (.error (.timeout w.registration.correlationId deadline.after)) := by
  unfold Wait.yields
  cases w.deadline with
  | none => exact .inl rfl
  | some deadline =>
    dsimp only
    split
    · rename_i due
      exact .inr ⟨deadline, rfl, due, rfl⟩
    · exact .inl rfl

namespace Connection
open Inward
variable {c d : Connection μ} {r : Registration}

/-! Polling a wait. -/

theorem pollYields (h : c.Sound) {w : Wait} (waits : w ∈ c.waits) {i : Inbox μ}
    (found : c.inboxOf w.registration = some i) (now : Instant) (attempt : WriteAttempt) :
    c.poll w.call now attempt =
      (if (w.yields i.result now).isSome then c.endWait w else c, w.yields i.result now) := by
  have own : (c.inboxOf w.registration).bind (·.result) = i.result := by rw [found]; rfl
  rw [pollWaits h.callers waits]
  cases c.waitCases w now with
  | told filled comes =>
    rw [comes, ← own, filled]
    rfl
  | lost empty gone =>
    rw [h.coherent.emptyIsHeld waits empty] at gone
    contradiction
  | late empty _ set due comes =>
    rw [comes, ← own, empty]
    simp [Wait.yields, set, due]
  | still empty _ early comes =>
    rw [comes, ← own, empty]
    rcases w.yieldsEmpty (μ := μ) now with none | ⟨deadline, set, due, _⟩
    · simp [none]
    · simp [early deadline set] at due

/-- A wait times out by its own deadline, with nothing in its inbox. -/
structure TimesOut (c : Connection μ) (w : Wait) (now : Instant) (id : UInt32) (after : Duration) :
    Prop where
  empty : c.inboxOf w.registration = some ⟨w.registration, none⟩
  id : id = w.registration.correlationId
  due : ∃ deadline, w.deadline = some deadline ∧ deadline.isDue now = true ∧
    deadline.after = after

theorem timesOut (h : c.Sound) {w : Wait} (waits : w ∈ c.waits) {now : Instant}
    {attempt : WriteAttempt} {id : UInt32} {after : Duration}
    (told : (c.poll w.call now attempt).2 = some (.error (.timeout id after))) :
    c.TimesOut w now id after ∧ (c.poll w.call now attempt).1 = c.endWait w := by
  obtain ⟨i, inside, same, found⟩ := h.coherent.waitHas waits
  have own : (c.inboxOf w.registration).bind (·.result) = i.result := by rw [found]; rfl
  rw [pollWaits h.callers waits] at told ⊢
  cases c.waitCases w now with
  | @told result filled comes =>
    rw [comes] at told
    cases result with
    | ok reply => cases told
    | error e =>
      cases told
      rcases h.faults i inside _ (own ▸ filled) with ⟨_, same⟩ | ⟨_, same⟩ | ⟨same, _⟩ <;>
        cases same
  | lost _ _ comes | still _ _ _ comes =>
    rw [comes] at told
    cases told
  | @late deadline empty _ set due comes =>
    rw [comes] at told ⊢
    cases told
    obtain ⟨s, result⟩ := i
    obtain rfl : s = w.registration := same
    obtain rfl : result = none := own.symm.trans empty
    exact ⟨⟨found, rfl, deadline, set, due, rfl⟩, rfl⟩

variable [Message μ]

/-! Which event decides. -/

/-- With this event, the pending reply comes to this. -/
inductive Decides (c : Connection μ) (r : Registration) : Event μ → Verdict μ → Prop where
  | told {e : Event μ} {result : Except ServerError (Reply μ)} (puts : c.Puts r e result)
      (stays : ∃ i ∈ (c.step e).inboxes, i.registration = r) : Decides c r e (.told result)
  | timedOut {w : Wait} (waits : w ∈ c.waits) (own : w.registration = r) {call : CallId}
      (named : w.call = call) {now : Instant} {attempt : WriteAttempt} {after : Duration}
      (told : (c.poll call now attempt).2 = some (.error (.timeout r.correlationId after))) :
      Decides c r (.poll call now attempt) (.timedOut after)
  /-- Whoever has it in hand is done with it, and not by waiting. -/
  | givenUp {e : Event μ} (parts : c.Parts r e)
      (gone : ∀ i ∈ (c.step e).inboxes, i.registration ≠ r)
      (busy : ∀ w ∈ c.waits, w.registration = r → ∀ now attempt, e ≠ .poll w.call now attempt) :
      Decides c r e .givenUp

theorem routingsMiss {found : Connection μ} {frame head : Frame} {frames : List Frame}
    (answered : head.header.correlationId = r.correlationId)
    (comes : .routed found frame ∈ (c.route head).routings frames) :
    found.table.holds r = false := by
  by_contra held
  obtain ⟨slot, inside⟩ := PendingTable.entryOf (by simpa using held)
  have before := (routingsFind comes).subset inside
  rw [routeEq] at before
  exact (PendingTable.memTake.mp before).2 answered.symm

theorem routingsOnce {frames : List Frame} {found found' : Connection μ} {frame frame' : Frame}
    (left : .routed found frame ∈ c.routings frames)
    (right : .routed found' frame' ∈ c.routings frames)
    (answers : frame.header.correlationId = r.correlationId)
    (answers' : frame'.header.correlationId = r.correlationId)
    (held : found.table.holds r = true) (held' : found'.table.holds r = true) :
    found = found' ∧ frame = frame' := by
  -- On the frames of the read: the first that answers takes the entry, so no other finds it.
  induction frames generalizing c with
  | nil => contradiction
  | cons head rest ih =>
    rcases List.mem_cons.mp left with now | later <;>
      rcases List.mem_cons.mp right with now' | later'
    · cases now
      cases now'
      exact ⟨rfl, rfl⟩
    · cases now
      rw [routingsMiss answers later'] at held'
      contradiction
    · cases now'
      rw [routingsMiss answers' later] at held
      contradiction
    · exact ih later later'

theorem routedReads {e : Event μ} {found : Connection μ} {frame : Frame}
    (comes : .routed found frame ∈ c.occurrences e) :
    ∃ (b : Connection μ) (frames : List Frame), c.occurrences e = b.routings frames := by
  rcases c.eventCases e with ⟨call, purpose, request, rfl⟩ | ⟨arrival, rfl⟩ | passes
  · exact absurd comes (notRouted (c.submitSilent call purpose request))
  · rcases readCases c arrival with ⟨buffer, data, reader, up, full, rfl⟩ | ⟨silent, _, _⟩
    · exact ⟨_, _, readOccurrences reader up full⟩
    · rw [silent] at comes
      contradiction
  · exact absurd comes (notRouted passes.routed)

theorem Puts.once {e : Event μ} {result result' : Except ServerError (Reply μ)}
    (h : c.Puts r e result) (h' : c.Puts r e result') : result = result' := by
  have stays (live : c.lifecycle = .live) :
      (c.step (.interrupt r)).lifecycle ≠ .closed := by
    have same : (c.step (.interrupt r)).lifecycle = c.lifecycle :=
      congrArg Outward.lifecycle (interruptOutward c r)
    rw [same, live]
    nofun
  cases h with
  | frame comes answers held =>
    cases h' with
    | frame comes' answers' held' =>
      obtain ⟨b, frames, routed⟩ := routedReads comes
      rw [routed] at comes comes'
      obtain ⟨rfl, rfl⟩ := routingsOnce comes comes' answers answers' held held'
      rfl
    | interrupt => contradiction
    | lost _ _ quiet => exact absurd answers (quiet _ _ comes)
  | interrupt told =>
    cases h' with
    | frame comes => contradiction
    | interrupt => rfl
    | lost live down => exact absurd down (stays live)
  | lost live down quiet =>
    cases h' with
    | frame comes answers => exact absurd answers (quiet _ _ comes)
    | interrupt => exact absurd down (stays live)
    | lost => rfl

theorem Decides.once (h : c.Sound) {e : Event μ} {v v' : Verdict μ} (left : c.Decides r e v)
    (right : c.Decides r e v') : v = v' := by
  have leaves {w : Wait} (waits : w ∈ c.waits) (own : w.registration = r) {now : Instant}
      {attempt : WriteAttempt} {id : UInt32} {after : Duration}
      (told : (c.poll w.call now attempt).2 = some (.error (.timeout id after))) :
      ¬∃ i ∈ (c.step (.poll w.call now attempt)).inboxes, i.registration = r := by
    rintro ⟨i, inside, rfl⟩
    dsimp only [step] at inside
    rw [(timesOut h waits told).2] at inside
    simpa [own] using (List.mem_filter.mp inside).2
  cases left with
  | told puts stays =>
    cases right with
    | told puts' => rw [puts.once puts']
    | timedOut waits own named told =>
      subst named
      exact absurd stays (leaves waits own told)
    | givenUp _ gone =>
      obtain ⟨i, inside, same⟩ := stays
      exact absurd same (gone i inside)
  | timedOut waits own named told =>
    subst named
    cases right with
    | told _ stays => exact absurd stays (leaves waits own told)
    | timedOut _ _ _ told' =>
      rw [told] at told'
      cases told'
      rfl
    | givenUp _ _ busy => exact absurd rfl (busy _ waits own _ _)
  | givenUp _ gone busy =>
    cases right with
    | told _ stays =>
      obtain ⟨i, inside, same⟩ := stays
      exact absurd same (gone i inside)
    | timedOut waits own named =>
      subst named
      exact absurd rfl (busy _ waits own _ _)
    | givenUp => rfl

/-! One registration that is waited for. -/

/-- The registration was made for a reply that somebody waits for, and no other has its ticket. -/
structure Made (c : Connection μ) (r : Registration) : Prop where
  sound : c.Sound
  own : Only r.ticket (· = (r.correlationId, ⟨r.ticket, .awaited⟩)) c.table
  knows : c.Knows r

theorem runMade (s : Setting μ) (events : List (Event μ))
    (made : .registered r .awaited ∈ s.start.history events) : (s.start.run events).Made r := by
  have numbered : Numbered (s.start.history events) (s.start.run events) :=
    afterHistory Numbered ⟨.nil, nofun⟩ (fun past c e h => h.step e) events
  have enrolled {other : Registration}
      (made : .registered other .awaited ∈ s.start.history events) :
      other ∈ (s.start.history events).filterMap Occurrence.registered? :=
    List.mem_filterMap.mpr ⟨_, made, rfl⟩
  refine ⟨runSound s events, (runEnrolled s events).own r .awaited ?_, fun i inside ticket => ?_⟩
  · exact List.mem_filterMap.mpr ⟨_, made, rfl⟩
  · exact List.inj_on_of_nodup_map numbered.once (enrolled (runEnlisted s events inside))
      (enrolled made) ticket

namespace Made

theorem meets (h : c.Made r) (e : Event μ) : c.Meets r e :=
  stepMeets h.sound h.knows h.own.issued e

theorem step (h : c.Made r) (e : Event μ) : (c.step e).Made r := by
  refine ⟨h.sound.step e, runOnly h.own [e], fun i inside ticket => ?_⟩
  have found := (h.sound.step e).coherent.apart.inboxOf.mpr ⟨inside, ticket⟩
  cases h.meets e with
  | kept same =>
    rw [same] at found
    exact h.knows i (h.sound.coherent.apart.inboxOf.mp found).1 ticket
  | told _ _ filled =>
    rw [filled] at found
    cases found
    rfl
  | gone _ none =>
    rw [none] at found
    contradiction

theorem run (h : c.Made r) (events : List (Event μ)) : (c.run events).Made r :=
  afterRun (fun c => c.Made r) h (fun _ e h => h.step e) events

omit [Message μ] in
theorem held (h : c.Made r) (held : c.table.holds r = true) :
    c.table.get? r.correlationId = some ⟨r.ticket, .awaited⟩ ∧ c.inboxOf r = some ⟨r, none⟩ := by
  have matched := h.sound.coherent.matched
  obtain ⟨fate, member⟩ := matched.distinct.holds.mp held
  cases h.own.entries _ member rfl
  exact ⟨matched.distinct.get.mpr member,
    h.sound.coherent.apart.inboxOf.mpr ⟨matched.served _ member rfl, rfl⟩⟩

omit [Message μ] in
theorem spent (h : c.Made r) (missed : c.table.holds r = false) :
    Only r.ticket (fun _ => False) c.table := by
  refine ⟨h.own.issued, fun e member same => ?_⟩
  have own := h.own.entries e member same
  subst own
  rw [h.sound.coherent.matched.distinct.holds.mpr ⟨_, member⟩] at missed
  contradiction

theorem decides (h : c.Made r) {e : Event μ} (held : c.table.holds r = true)
    (missed : (c.step e).table.holds r = false) :
    ∃ v, c.Decides r e v ∧ (c.step e).inboxOf r = v.inbox? r := by
  obtain ⟨entry, empty⟩ := h.held held
  have after := (h.step e).sound.coherent
  cases h.meets e with
  | kept same =>
    rw [(PendingTable.cancelOwn (emptyEntry after (same.trans empty))).1] at missed
    contradiction
  | @told result _ puts filled =>
    exact ⟨.told result, .told puts ⟨_, (after.apart.inboxOf.mp filled).1, rfl⟩, filled⟩
  | gone parts none =>
    -- A wait that ends with nothing in its inbox has timed out; all others have given up.
    by_cases waiting : ∃ w ∈ c.waits, w.registration = r ∧
        ∃ now attempt, e = .poll w.call now attempt
    · obtain ⟨w, waits, rfl, now, attempt, rfl⟩ := waiting
      have yields := pollYields h.sound waits empty now attempt
      rcases w.yieldsEmpty (μ := μ) now with waits' | ⟨deadline, _, _, late⟩
      · have same : c.step (.poll w.call now attempt) = c := by
          dsimp only [Connection.step]
          rw [yields]
          simp [waits']
        rw [same, empty] at none
        contradiction
      · have told := (congrArg Prod.snd yields).trans late
        exact ⟨.timedOut deadline.after, .timedOut waits rfl rfl told, none⟩
    · refine ⟨.givenUp, .givenUp parts (fun i inside same => ?_) ?_, none⟩
      · rw [after.apart.inboxOf.mpr ⟨inside, by rw [same]⟩] at none
        contradiction
      · exact fun w waits own now attempt same => waiting ⟨w, waits, own, now, attempt, same⟩

theorem removes (h : c.Made r) {e : Event μ} {v : Verdict μ} (held : c.table.holds r = true)
    (decides : c.Decides r e v) : (c.step e).table.holds r = false := by
  by_contra still
  have stays : (c.step e).table.holds r = true := by simpa using still
  -- An entry that is still there is still awaited, so its inbox is empty before and after.
  obtain ⟨entry, empty⟩ := h.held held
  obtain ⟨_, empty'⟩ := (h.step e).held stays
  have distinct := h.sound.coherent.matched.distinct
  cases decides with
  | told puts =>
    cases puts with
    | frame comes answers =>
      cases h.meets e with
      | kept _ quiet => exact quiet empty _ _ comes answers
      | told _ _ filled =>
        rw [empty'] at filled
        cases filled
      | gone _ none =>
        rw [empty'] at none
        contradiction
    | interrupt =>
      dsimp only [Connection.step] at still
      rw [interruptAwaited entry, deliverShape] at still
      exact still (distinct.cancelMisses r)
    | lost _ down =>
      obtain ⟨slot, inside⟩ := PendingTable.entryOf stays
      have none : (c.step e).table.entries = [] := ((h.step e).sound.inert down).empty
      rw [none] at inside
      contradiction
  | timedOut waits own named told =>
    subst own named
    dsimp only [Connection.step] at still
    rw [(timesOut h.sound waits told).2] at still
    exact still (distinct.cancelMisses _)
  | givenUp _ gone =>
    exact gone _ ((h.step e).sound.coherent.apart.inboxOf.mp empty').1 rfl

theorem goneStep (h : c.Made r) (gone : c.inboxOf r = none) (e : Event μ) :
    (c.step e).inboxOf r = none := by
  cases h.meets e with
  | kept same => exact same.trans gone
  | told empty =>
    rw [gone] at empty
    contradiction
  | gone _ none => exact none

theorem staysGone (h : c.Made r) (gone : c.inboxOf r = none) (later : List (Event μ)) :
    (c.run later).inboxOf r = none :=
  (afterRun (fun c => c.Made r ∧ c.inboxOf r = none) ⟨h, gone⟩
    (fun _ e ⟨made, gone⟩ => ⟨made.step e, made.goneStep gone e⟩) later).2

/-- What lies in its inbox stays there, until whoever has it in hand may be done with it. -/
theorem staysOrParts (h : c.Made r) {result : Except ServerError (Reply μ)}
    (filled : c.inboxOf r = some ⟨r, some result⟩) (later : List (Event μ)) :
    (c.run later).inboxOf r = some ⟨r, some result⟩ ∨
      (c.run later).inboxOf r = none ∧
        ∃ before e after, later = before ++ e :: after ∧ (c.run before).Parts r e := by
  induction later using List.reverseRecOn with
  | nil => exact .inl filled
  | append_singleton past e ih =>
    rw [runLast]
    have made := h.run past
    rcases ih with stays | ⟨gone, before, e', after, rfl, parts⟩
    · cases made.meets e with
      | kept same => exact .inl (same.trans stays)
      | told empty =>
        rw [stays] at empty
        cases empty
      | gone parts none => exact .inr ⟨none, past, e, [], rfl, parts⟩
    · exact .inr ⟨made.goneStep gone e, before, e', after ++ [e], by simp, parts⟩

end Made

/-- What is left of a registration whose pending reply has come to this. -/
structure Settled (d : Connection μ) (r : Registration) (v : Verdict μ) : Prop where
  entries : ∀ e ∈ d.table.entries, e.2.ticket ≠ r.ticket
  inboxes : ∀ i ∈ d.inboxes, i.registration.ticket = r.ticket → v.inbox? r = some i
  waits : ∀ w ∈ d.waits, w.registration = r → ∃ result, v = .told result ∧
    ∀ now attempt, (d.poll w.call now attempt).2 = some (result.map .reply)

omit [Message μ] in
theorem Made.settled (h : d.Made r) {v : Verdict μ} (spent : Only r.ticket (fun _ => False) d.table)
    (left : d.inboxOf r = v.inbox? r ∨ d.inboxOf r = none) : d.Settled r v := by
  have own {i : Inbox μ} (found : d.inboxOf r = some i) : v.inbox? r = some i := by
    rcases left with same | none
    · rw [← same, found]
    · rw [found] at none
      contradiction
  refine ⟨fun e member same => spent.entries e member same, fun i inside ticket => ?_,
    fun w waits same => ?_⟩
  · exact own (h.sound.coherent.apart.inboxOf.mpr ⟨inside, ticket⟩)
  · obtain ⟨i, inside, _, found⟩ := h.sound.coherent.waitHas waits
    have mine := own (same ▸ found)
    cases v with
    | told result =>
      cases mine
      exact ⟨result, rfl,
        fun now attempt => congrArg Prod.snd (pollYields h.sound waits found now attempt)⟩
    | timedOut | givenUp => contradiction

/-- The event that takes the entry of a registration off the table decides what comes of it. -/
theorem Made.decided (h : c.Made r) {e : Event μ} (held : c.table.holds r = true)
    (missed : (c.step e).table.holds r = false) :
    ∃ v, (∀ other, c.Decides r e other ↔ other = v) ∧
      ∀ later, ((c.step e).run later).Settled r v ∧
        ∀ result, v = .told result → Inbox.mk r (some result) ∈ ((c.step e).run later).inboxes ∨
          ∃ before e' after, later = before ++ e' :: after ∧
            ((c.step e).run before).Parts r e' := by
  obtain ⟨v, decides, left⟩ := h.decides held missed
  have made := h.step e
  have only : ∀ other, c.Decides r e other ↔ other = v :=
    fun other => ⟨fun also => Decides.once h.sound also decides, fun same => same ▸ decides⟩
  refine ⟨v, only, fun later => ?_⟩
  have spent := runOnly (made.spent missed) later
  have after := made.run later
  cases v with
  | told result =>
    rcases made.staysOrParts left later with stays | ⟨gone, parts⟩
    · refine ⟨after.settled spent (.inl stays), fun other same => ?_⟩
      cases same
      exact .inl (after.sound.coherent.apart.inboxOf.mp stays).1
    · exact ⟨after.settled spent (.inr gone), fun _ _ => .inr parts⟩
  | timedOut | givenUp =>
    exact ⟨after.settled spent (.inr (made.staysGone left later)), fun _ same => by cases same⟩

/-! Interruptions. -/

omit [Message μ] in
theorem Made.interruptTold (h : c.Made r) : (c.interrupt r).2 = c.table.holds r := by
  cases held : c.table.holds r with
  | false => rw [interruptMissed held]
  | true => rw [interruptAwaited (h.held held).1]

omit [Message μ] in
theorem Made.interruptFalse (h : c.Made r) (told : (c.interrupt r).2 = false) :
    (c.interrupt r).1 = c := by
  rw [interruptMissed (h.interruptTold ▸ told)]

theorem Made.interruptTrue (h : c.Made r) (told : (c.interrupt r).2 = true) :
    Inbox.mk r (some (.error (.interrupted r.correlationId))) ∈ (c.interrupt r).1.inboxes ∧
      ∀ later, (((c.interrupt r).1.run later).interrupt r).2 = false := by
  have apart := h.sound.coherent.apart
  cases c.interruptCases r with
  | missed _ comes | dropped _ comes =>
    rw [comes] at told
    contradiction
  | awaited entry comes =>
    have missed : (c.interrupt r).1.table.holds r = false := by
      rw [comes, deliverShape]
      exact h.sound.coherent.matched.distinct.cancelMisses r
    refine ⟨?_, fun later => ?_⟩
    · have waits := h.sound.coherent.matched.served _ (PendingTable.memOfGet entry) rfl
      rw [comes]
      refine (deliverPerm _ _ (c := c.withdraw r) apart).mem_iff.mpr
        (List.mem_map.mpr ⟨⟨r, none⟩, waits, ?_⟩)
      simp [Inbox.fill]
    · have spent := runOnly ((h.step (.interrupt r)).spent missed) later
      exact congrArg Prod.snd (interruptMissed spent.misses)

theorem interruptingMade (s : Setting μ) (events : List (Event μ))
    (told : ((s.start.run events).interrupt r).2 = true) : (s.start.run events).Made r := by
  cases (s.start.run events).interruptCases r with
  | missed _ comes | dropped _ comes =>
    rw [comes] at told
    contradiction
  | awaited entry =>
    have waits := (runCoherent s events).matched.served _ (PendingTable.memOfGet entry) rfl
    exact runMade s events (runEnlisted s events waits)

theorem Puts.interrupted {e : Event μ} {result : Except ServerError (Reply μ)} {id : UInt32}
    (puts : c.Puts r e result) (same : result = .error (.interrupted id)) :
    e = .interrupt r ∧ (c.interrupt r).2 = true := by
  cases puts with
  | frame =>
    obtain ⟨_, other⟩ := verdictFault same
    cases other
  | interrupt told => exact ⟨rfl, told⟩
  | lost => cases same

theorem interruptedBy (s : Setting μ) (events : List (Event μ))
    (filled : Inbox.mk r (some (.error (.interrupted r.correlationId))) ∈
      (s.start.run events).inboxes) :
    ∃ before after, events = before ++ .interrupt r :: after ∧
      ((s.start.run before).interrupt r).2 = true := by
  induction events using List.reverseRecOn with
  | nil => contradiction
  | append_singleton past e ih =>
    rw [runLast] at filled
    rcases stepMembers (runSound s past) e filled with old | ⟨empty, _⟩ | ⟨result, same, _, puts⟩
    · obtain ⟨before, after, rfl, told⟩ := ih old
      exact ⟨before, after ++ [e], by simp, told⟩
    · contradiction
    · have put : result = .error (.interrupted r.correlationId) := by simpa using same.symm
      obtain ⟨rfl, told⟩ := puts.interrupted put
      exact ⟨past, [], rfl, told⟩

/-! Handles. -/

omit [Message μ] in
theorem pollHandsOut (h : c.Sound) {call : CallId} {now : Instant} {attempt : WriteAttempt}
    (out : (c.poll call now attempt).2 = some (.ok (.handle r))) :
    ∃ i ∈ c.inboxes, i.registration = r := by
  cases c.pollCases call now attempt with
  | waits _ comes =>
    rw [comes] at out
    exact absurd out (pollWaitPlain _ _ _ nofun)
  | @turn _ errand _ _ first comes =>
    rw [comes] at out
    have inHand : errand.inbox? = some r := by
      have answers := turnAnswers out
      cases errand with
      | handOut =>
        cases answers
        rfl
      | await | discard | numbered | plain => cases answers
    have inLine := h.coherent.owned.inLine r
      (List.mem_filterMap.mpr ⟨_, firstStands first, inHand⟩)
    exact List.mem_map.mp inLine
  | still _ _ comes =>
    rw [comes] at out
    cases out

theorem firstEventDecides (s : Setting μ) (events : List (Event μ)) :
    let c := s.start.run events
    let past := s.start.history events
    (∀ call now attempt r, (c.poll call now attempt).2 = some (.ok (.handle r)) →
        .registered r .awaited ∈ past) ∧
      (∀ r, .registered r .awaited ∈ past →
        (∀ e, c.table.holds r = true →
          (∀ v, c.Decides r e v → (c.step e).table.holds r = false) ∧
          ((c.step e).table.holds r = false →
            ∃ v, (∀ other, c.Decides r e other ↔ other = v) ∧
              ∀ later, ((c.step e).run later).Settled r v ∧
                ∀ result, v = .told result →
                  Inbox.mk r (some result) ∈ ((c.step e).run later).inboxes ∨
                    ∃ before e' after, later = before ++ e' :: after ∧
                      ((c.step e).run before).Parts r e')) ∧
        (c.interrupt r).2 = c.table.holds r ∧
        ((c.interrupt r).2 = false → (c.interrupt r).1 = c) ∧
        ((c.interrupt r).2 = true →
          Inbox.mk r (some (.error (.interrupted r.correlationId))) ∈ (c.interrupt r).1.inboxes ∧
            ∀ later, (((c.interrupt r).1.run later).interrupt r).2 = false) ∧
        ((∃ before after, events = before ++ .interrupt r :: after ∧
            ((s.start.run before).interrupt r).2 = true) ↔
          ∃ before after, events = before ++ after ∧
            Inbox.mk r (some (.error (.interrupted r.correlationId))) ∈
              (s.start.run before).inboxes)) ∧
      ∀ w ∈ c.waits,
        (∃ before e after, events = before ++ e :: after ∧ (s.start.run before).Begins e w) ∧
        ∀ now attempt, ∃ i ∈ c.inboxes, i.registration = w.registration ∧
          (c.poll w.call now attempt).2 = w.yields i.result now ∧
          ∀ id after, (c.poll w.call now attempt).2 = some (.error (.timeout id after)) →
            c.TimesOut w now id after ∧
              ∀ later, ∀ e ∈ ((c.step (.poll w.call now attempt)).run later).table.entries,
                e.2.ticket ≠ w.registration.ticket := by
  intro c past
  have sound : c.Sound := runSound s events
  have enlisted {i : Inbox μ} (inside : i ∈ c.inboxes) :
      .registered i.registration .awaited ∈ past := runEnlisted s events inside
  refine ⟨fun call now attempt r out => ?_, fun r registered => ?_, fun w waits => ?_⟩
  · obtain ⟨i, inside, rfl⟩ := pollHandsOut sound out
    exact enlisted inside
  · have made : c.Made r := runMade s events registered
    refine ⟨fun e held => ⟨fun v => made.removes held, made.decided held⟩, made.interruptTold,
      made.interruptFalse, made.interruptTrue, ?_, ?_⟩
    · rintro ⟨before, after, rfl, told⟩
      refine ⟨before ++ [.interrupt r], after, by simp, ?_⟩
      rw [runLast]
      exact ((interruptingMade s before told).interruptTrue told).1
    · rintro ⟨before, after, rfl, filled⟩
      obtain ⟨first, rest, rfl, told⟩ := interruptedBy s before filled
      exact ⟨first, rest ++ after, by simp, told⟩
  · refine ⟨runBegun s events waits, fun now attempt => ?_⟩
    obtain ⟨i, inside, same, found⟩ := sound.coherent.waitHas waits
    refine ⟨i, inside, same, congrArg Prod.snd (pollYields sound waits found now attempt),
      fun id after told => ?_⟩
    obtain ⟨timesOut, ended⟩ := timesOut sound waits told
    have made : c.Made w.registration := runMade s events (same ▸ enlisted inside)
    have missed : (c.step (.poll w.call now attempt)).table.holds w.registration = false := by
      dsimp only [step]
      rw [ended]
      exact sound.coherent.matched.distinct.cancelMisses _
    have spent := runOnly ((made.step _).spent missed)
    exact ⟨timesOut, fun later e member ticket => (spent later).entries e member ticket⟩

/-- One id in all, and two calls: the first is interrupted and the second gets its id. Another
interruption of the first does not touch it. -/
example :
    let s : Setting Bench.Datastream :=
      ⟨1, .command, .empty, { correlationIdLimit := 1 }, none, none⟩
    let request : Bench.Datastream := ⟨0, .request 0x1001 0 [] none⟩
    let c := s.start.run [.submit 0 .request request, .poll 0 0 ⟨.complete, false⟩,
      .interrupt ⟨1, 1⟩, .submit 1 .request request]
    c.table.entries = [(1, ⟨2, .awaited⟩)] ∧ (c.interrupt ⟨1, 1⟩).2 = false ∧
      (c.interrupt ⟨1, 2⟩).2 = true := by decide

end Connection
end ServiceMux
