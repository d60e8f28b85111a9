import Mathlib.Data.List.Induction
import ServiceMux.Proofs.Filling
import ServiceMux.Proofs.Teardown
/-! Where the entries, the inboxes and the waits of a connection come from. Main statements: an
entry with the ticket of a registration that was made is its own (`runEnrolled`), an inbox belongs
to a registration that was made, and what lies in it was put there by an event (`runEnlisted`,
`stepMembers`), and each wait was begun by a call, with the deadline it was given (`runBegun`). -/
namespace ServiceMux
variable {μ : Type}

namespace Inward
variable {i j : Inward μ} {made new : List Enrolment} {t t' : PendingTable} {ticket : Nat}
  {like : UInt32 × Slot → Prop}

/-- The ticket has been handed out, and what is outstanding with it is like this. -/
structure Only (ticket : Nat) (like : UInt32 × Slot → Prop) (t : PendingTable) : Prop where
  issued : ticket < t.nextTicket
  entries : ∀ e ∈ t.entries, e.2.ticket = ticket → like e

theorem Only.fewer (h : Only ticket like t) (entries : t'.entries.Sublist t.entries)
    (tickets : t'.nextTicket = t.nextTicket) : Only ticket like t' :=
  ⟨tickets ▸ h.issued, fun e member => h.entries e (entries.subset member)⟩

theorem Only.register (h : Only ticket like t) {r : Registration} {fate : Fate}
    (ok : t.register fate = .ok (r, t')) : Only ticket like t' := by
  obtain ⟨_, next, _, rfl⟩ := PendingTable.registered ok
  refine ⟨Nat.lt_succ_of_lt h.issued, fun e member same => ?_⟩
  rcases List.mem_append.mp member with old | new
  · exact h.entries e old same
  · rw [List.mem_singleton.mp new] at same
    have := h.issued
    dsimp only at same
    omega

theorem Act.only (act : Act i new j) (h : Only ticket like i.table) : Only ticket like j.table := by
  cases act with
  | allocate ok =>
    obtain ⟨_, rfl⟩ := PendingTable.allocated ok
    exact h.fewer (.refl _) rfl
  | register live ok => exact h.register ok
  | cancel r => exact h.fewer (i.table.cancelSublist r) (i.table.cancelNextTicket r)
  | interrupt => exact h.fewer (i.table.cancelSublist _) (i.table.cancelNextTicket _)
  | count => exact h
  | route up id => exact h.fewer (i.table.takeSublist id) (i.table.takeNextTicket id)
  | close => exact ⟨h.issued, nofun⟩

/-- An entry with the ticket of a registration that was made is its own. -/
structure Enrolled (made : List Enrolment) (t : PendingTable) : Prop where
  issued : ∀ e ∈ t.entries, e.2.ticket < t.nextTicket
  own : ∀ r fate, (r, fate) ∈ made → Only r.ticket (· = (r.correlationId, ⟨r.ticket, fate⟩)) t

theorem Enrolled.fewer (h : Enrolled made t) (entries : t'.entries.Sublist t.entries)
    (tickets : t'.nextTicket = t.nextTicket) : Enrolled (made ++ []) t' := by
  rw [List.append_nil]
  exact ⟨fun e member => tickets ▸ h.issued e (entries.subset member),
    fun r fate member => (h.own r fate member).fewer entries tickets⟩

theorem Enrolled.register (h : Enrolled made t) {r : Registration} {fate : Fate}
    (ok : t.register fate = .ok (r, t')) : Enrolled (made ++ [(r, fate)]) t' := by
  have older := fun other fate' member => (h.own other fate' member).register ok
  obtain ⟨_, next, _, rfl⟩ := PendingTable.registered ok
  refine ⟨fun e member => ?_, fun other fate' member => ?_⟩
  · rcases List.mem_append.mp member with old | new
    · exact Nat.lt_succ_of_lt (h.issued e old)
    · rw [List.mem_singleton.mp new, next]
      exact Nat.lt_succ_self _
  · rcases List.mem_append.mp member with old | new
    · exact older other fate' old
    · cases List.mem_singleton.mp new
      refine ⟨next ▸ Nat.lt_succ_self _, fun e inside same => ?_⟩
      rcases List.mem_append.mp inside with before | added
      · have := h.issued e before
        omega
      · exact List.mem_singleton.mp added

theorem Act.enrolled (act : Act i new j) (h : Enrolled made i.table) :
    Enrolled (made ++ new) j.table := by
  cases act with
  | allocate ok =>
    obtain ⟨_, rfl⟩ := PendingTable.allocated ok
    exact h.fewer (.refl _) rfl
  | register live ok => exact h.register ok
  | cancel r => exact h.fewer (i.table.cancelSublist r) (i.table.cancelNextTicket r)
  | interrupt => exact h.fewer (i.table.cancelSublist _) (i.table.cancelNextTicket _)
  | count => exact h.fewer (.refl _) rfl
  | route up id => exact h.fewer (i.table.takeSublist id) (i.table.takeNextTicket id)
  | close => exact h.fewer (List.nil_sublist _) rfl

theorem Acts.enrolled (acts : Acts i new j) (h : Enrolled made i.table) :
    Enrolled (made ++ new) j.table := by
  induction acts with
  | still =>
    rw [List.append_nil]
    exact h
  | next _ act ih =>
    rw [← List.append_assoc]
    exact act.enrolled ih

end Inward

namespace Connection
open Inward
variable {c d : Connection μ} {r : Registration}

/-! Waits. -/

/-- With this event, a call begins to wait. -/
inductive Begins (c : Connection μ) : Event μ → Wait → Prop where
  | wait {call : CallId} {r : Registration} {within : Option Duration} {now : Instant}
      (fresh : c.isFresh call = true) (out : c.isHandedOut r = true) :
      Begins c (.wait call r within now) ⟨call, r, within.map (Deadline.set now)⟩
  | sent {call : CallId} {frame : List UInt8} {r : Registration} {within : Option Duration}
      {rest : List Turn} {now : Instant} {attempt : WriteAttempt}
      (first : c.line = .write call frame (.await r within) :: rest) :
      Begins c (.poll call now attempt) ⟨call, r, within.map (Deadline.set now)⟩

section Calls
variable (c)

theorem letGoWaits (errand : Errand) : (c.letGo errand).waits = c.waits := by
  cases errand <;> rfl

theorem takeBackWaits (errand : Errand) : (c.takeBack errand).waits = c.waits := by
  cases errand <;> rfl

theorem leaveWaits : c.leave.waits = c.waits := by
  unfold leave
  split <;> rfl

theorem interruptWaits (r : Registration) : (c.interrupt r).1.waits = c.waits := by
  cases c.interruptCases r with
  | missed _ comes | dropped _ comes => exact comes ▸ rfl
  | awaited _ comes =>
    rw [comes, deliverShape]
    rfl

theorem endWaitWaits (w : Wait) : (c.endWait w).waits.Sublist c.waits := List.filter_sublist

theorem pollWaitWaits (w : Wait) (now : Instant) : (c.pollWait w now).1.waits.Sublist c.waits :=
  pollWaitState c w now (endWaitWaits c w) (.refl _)

theorem sentWaits (call : CallId) (errand : Errand) (now : Instant) :
    ∀ w ∈ (c.sent call errand now).1.waits, w ∈ c.waits ∨
      ∃ r within, errand = .await r within ∧ w = ⟨call, r, within.map (Deadline.set now)⟩ := by
  intro w member
  cases errand with
  | await r within =>
    rcases List.mem_append.mp member with old | new
    · exact .inl old
    · exact .inr ⟨r, within, rfl, List.mem_singleton.mp new⟩
  | handOut | discard | numbered | plain => exact .inl member

theorem barredWaits (errand : Errand) (e : ServerError) : (c.barred errand e).1.waits = c.waits :=
  letGoWaits _ errand

theorem writeOnWaits (call : CallId) (frame : List UInt8) (errand : Errand) (before : Nat)
    (now : Instant) (attempt : WriteAttempt) :
    ∀ w ∈ (c.writeOn call frame errand before now attempt).1.waits, w ∈ c.waits ∨
      ∃ r within, errand = .await r within ∧ w = ⟨call, r, within.map (Deadline.set now)⟩ := by
  have same := interferedWaits c attempt
  intro w member
  cases c.writeCases call frame errand before now attempt with
  | late _ comes =>
    rw [comes, barredWaits] at member
    exact .inl member
  | stalled _ _ comes =>
    rw [comes] at member
    exact .inl (same ▸ member)
  | complete _ _ comes =>
    rw [comes] at member
    exact (sentWaits _ call errand now w member).imp_left fun old => same ▸ old
  | failed _ _ comes =>
    rw [comes] at member
    have left := (letGoWaits _ errand).trans (closeWaits _ _) ▸ member
    exact .inl (same ▸ takeBackWaits (c.interfered attempt) errand ▸ left)

theorem takeTurnWaits (call : CallId) (frame : List UInt8) (errand : Errand) (now : Instant)
    (attempt : WriteAttempt) :
    ∀ w ∈ (c.takeTurn call frame errand now attempt).1.waits, w ∈ c.waits ∨
      ∃ r within, errand = .await r within ∧ w = ⟨call, r, within.map (Deadline.set now)⟩ := by
  cases c.turnCases call frame errand now attempt with
  | late _ _ comes =>
    intro w member
    rw [comes, barredWaits] at member
    exact .inl member
  | writes _ comes => exact comes ▸ writeOnWaits c call frame errand _ now attempt

theorem leaveLineWaits (call : CallId) : (c.leaveLine call).waits = c.waits := by
  cases c.leaveLineCases call with
  | write _ comes => exact comes ▸ letGoWaits _ _
  | still _ comes => rw [comes]

theorem abandonWaits (call : CallId) : (c.abandon call).waits.Sublist c.waits := by
  cases c.abandonCases call with
  | waits _ comes => exact comes ▸ endWaitWaits c _
  | busy _ _ _ comes =>
    have same : ({ c with writeHalf := false }.close .writeAbandoned).stepAside.waits = c.waits :=
      closeWaits _ _
    rw [comes, letGoWaits, same]
  | idle _ _ _ comes =>
    rw [comes, letGoWaits]
    exact .refl _
  | behind _ _ comes => rw [comes, leaveLineWaits]

theorem releaseWaits : c.release.waits = c.waits :=
  releaseState c (fun _ => closeWaits _ .released) fun _ => rfl

end Calls

theorem Takes.waits {purpose : Purpose} {id : UInt32} {errand : Errand}
    (h : c.Takes purpose d id errand) : d.waits = c.waits := by
  cases h <;> rfl

variable [Message μ]

theorem submitWaits (c : Connection μ) (call : CallId) (purpose : Purpose) (request : μ) :
    (c.submit call purpose request).connection.waits = c.waits := by
  rcases submitCases c call purpose request with
    ⟨e, refused, _⟩ | ⟨_, d, id, errand, taken, stands⟩
  · rw [refused]
  · rw [stands, ← taken.waits]
    exact standInLineState call _ (takeBackWaits d errand) fun _ => rfl

theorem feedWaits (c : Connection μ) (buffer data : List UInt8) :
    (c.feed buffer data).waits = c.waits := by
  rw [feedStages]
  dsimp only
  rw [routeAllShape]
  split
  · rfl
  · exact (leaveWaits _).trans (closeWaits _ .corrupted)

theorem pollReaderWaits (c : Connection μ) (arrival : Option Arrival) :
    (c.pollReader arrival).waits = c.waits := by
  cases c.readerCases arrival with
  | stopped _ comes | behind _ _ comes | idle _ _ _ comes => rw [comes]
  | passes _ _ comes =>
    rw [comes]
    rfl
  | leaves _ _ comes => exact comes ▸ leaveWaits c
  | ended _ _ _ comes => exact comes ▸ (leaveWaits _).trans (closeWaits c .endOfStream)
  | feeds _ _ _ _ comes => exact comes ▸ feedWaits c _ _
  | fails _ _ _ comes => exact comes ▸ (leaveWaits _).trans (closeWaits _ .readFailed)

theorem stepWaits (c : Connection μ) (e : Event μ) {w : Wait} (waits : w ∈ (c.step e).waits) :
    w ∈ c.waits ∨ c.Begins e w := by
  cases e with
  | submit call purpose request =>
    dsimp only [step] at waits
    split at waits
    · exact .inl (submitWaits c call purpose request ▸ waits)
    · exact .inl waits
  | poll call now attempt =>
    dsimp only [step] at waits
    cases c.pollCases call now attempt with
    | waits _ comes => exact .inl ((pollWaitWaits c _ now).subset (comes ▸ waits))
    | turn _ first comes =>
      rw [comes] at waits
      rcases takeTurnWaits c _ _ _ now attempt w waits with old | ⟨r, within, rfl, rfl⟩
      · exact .inl old
      · exact .inr (.sent first)
    | still _ _ comes =>
      rw [comes] at waits
      exact .inl waits
  | abandon call => exact .inl ((abandonWaits c call).subset waits)
  | wait call r within now =>
    dsimp only [step] at waits
    split at waits
    · rename_i allowed
      obtain ⟨fresh, out⟩ := Bool.and_eq_true_iff.mp allowed
      rcases List.mem_append.mp waits with old | new
      · exact .inl old
      · rw [List.mem_singleton.mp new]
        exact .inr (.wait fresh out)
    · exact .inl waits
  | dropReply r =>
    dsimp only [step] at waits
    split at waits <;> exact .inl waits
  | interrupt r => exact .inl (interruptWaits c r ▸ waits)
  | read arrival => exact .inl (pollReaderWaits c arrival ▸ waits)
  | attach =>
    obtain ⟨n, same⟩ := attachStep c
    rw [same] at waits
    exact .inl waits
  | release =>
    dsimp only [step] at waits
    split at waits
    · exact .inl waits
    · exact .inl (releaseWaits c ▸ waits)
  | disconnect => exact .inl (closeWaits c .forced ▸ waits)
  | allocate =>
    obtain ⟨n, same⟩ := allocateStep c
    rw [same] at waits
    exact .inl waits
  | setReplyTimeout | setJob | setAttributes | addPrototype | clearPrototypes => exact .inl waits

theorem runBegun (s : Setting μ) (events : List (Event μ)) {w : Wait}
    (waits : w ∈ (s.start.run events).waits) :
    ∃ before e after, events = before ++ e :: after ∧ (s.start.run before).Begins e w := by
  induction events using List.reverseRecOn with
  | nil => contradiction
  | append_singleton past e ih =>
    rw [runLast] at waits
    rcases stepWaits _ e waits with old | begun
    · obtain ⟨before, e', after, rfl, begun⟩ := ih old
      exact ⟨before, e', after ++ [e], by simp, begun⟩
    · exact ⟨past, e, [], rfl, begun⟩

/-! Inboxes. -/

theorem submitMembers (c : Connection μ) (call : CallId) (purpose : Purpose) (request : μ)
    {j : Inbox μ} (member : j ∈ (c.submit call purpose request).connection.inboxes) :
    j ∈ c.inboxes ∨
      j.result = none ∧ c.registrations purpose = [.registered j.registration .awaited] := by
  rcases submitCases c call purpose request with
    ⟨e, refused, _⟩ | ⟨live, d, id, errand, taken, stands⟩
  · rw [refused] at member
    exact .inl member
  · have inside : j ∈ d.inboxes := by
      rw [stands] at member
      unfold standInLine at member
      split at member
      · exact (takeBackInboxes d errand).subset member
      · exact member
    cases taken with
    | request ok | receive ok =>
      rcases List.mem_append.mp inside with old | new
      · exact .inl old
      · rw [List.mem_singleton.mp new]
        exact .inr ⟨rfl, registrationsOne rfl live ok⟩
    | discard | send | sendAs => exact .inl inside

/-- An inbox after a step was there before, or is new and empty, or it was empty and the event has
put a result into it. -/
theorem stepMembers (h : c.Sound) (e : Event μ) {j : Inbox μ} (member : j ∈ (c.step e).inboxes) :
    j ∈ c.inboxes ∨
      (j.result = none ∧ .registered j.registration .awaited ∈ c.occurrences e) ∨
      ∃ result, j = ⟨j.registration, some result⟩ ∧ Inbox.mk j.registration none ∈ c.inboxes ∧
        c.Puts j.registration e result := by
  by_cases begins : ∃ call purpose request, e = .submit call purpose request
  · obtain ⟨call, purpose, request, rfl⟩ := begins
    dsimp only [step, occurrences] at member ⊢
    split at member
    · rename_i fresh
      rcases submitMembers c call purpose request member with old | ⟨empty, one⟩
      · exact .inl old
      · rw [if_pos fresh, one]
        exact .inr (.inl ⟨empty, List.mem_cons_self⟩)
    · exact .inl member
  have passes : ∀ call purpose request, e ≠ .submit call purpose request :=
    fun call purpose request same => begins ⟨call, purpose, request, same⟩
  have apart := h.coherent.apart
  have found : (c.step e).inboxOf j.registration = some j :=
    (h.step e).coherent.apart.inboxOf.mpr ⟨member, rfl⟩
  cases before : c.inboxOf j.registration with
  | none =>
    have knows : c.Knows j.registration := by
      intro i inside ticket
      rw [apart.inboxOf.mpr ⟨inside, ticket⟩] at before
      contradiction
    cases passMeets h knows passes with
    | kept same =>
      rw [found, before] at same
      contradiction
    | told empty =>
      rw [before] at empty
      contradiction
    | gone _ none =>
      rw [found] at none
      contradiction
  | some i =>
    obtain ⟨inside, ticket⟩ := apart.inboxOf.mp before
    have knows : c.Knows i.registration := fun k within same =>
      congrArg Inbox.registration (h.coherent.matched.sameTicket within inside same)
    have alike (d : Connection μ) : d.inboxOf i.registration = d.inboxOf j.registration := by
      unfold inboxOf
      rw [ticket]
    cases passMeets h knows passes with
    | kept same =>
      rw [alike, alike, found, before] at same
      cases same
      exact .inl inside
    | told empty puts filled =>
      rw [alike, found] at filled
      cases filled
      exact .inr (.inr ⟨_, rfl, (apart.inboxOf.mp empty).1, puts⟩)
    | gone _ none =>
      rw [alike, found] at none
      contradiction

/-! Runs. -/

theorem runEnrolled (s : Setting μ) (events : List (Event μ)) :
    Enrolled ((s.start.history events).filterMap Occurrence.enrolment?)
      (s.start.run events).table := by
  refine afterHistory (fun past c => Enrolled (past.filterMap Occurrence.enrolment?) c.table)
    ⟨fun _ member => by contradiction, fun _ _ member => by contradiction⟩ ?_ events
  intro past c e earlier
  rw [List.filterMap_append]
  exact (stepActs c e).enrolled earlier

theorem runEnlisted (s : Setting μ) (events : List (Event μ)) {i : Inbox μ}
    (member : i ∈ (s.start.run events).inboxes) :
    .registered i.registration .awaited ∈ s.start.history events := by
  have all := afterHistory (c := s.start) (fun past c => c.Sound ∧
      ∀ i ∈ c.inboxes, .registered i.registration .awaited ∈ past)
    ⟨runSound s [], nofun⟩ ?_ events
  · exact all.2 i member
  intro past c e ⟨sound, old⟩
  refine ⟨sound.step e, fun j inside => ?_⟩
  rcases stepMembers sound e inside with before | ⟨_, made⟩ | ⟨_, _, empty, _⟩
  · exact List.mem_append_left _ (old j before)
  · exact List.mem_append_right _ made
  · exact List.mem_append_left _ (old ⟨j.registration, none⟩ empty)

theorem runOnly {ticket : Nat} {like : UInt32 × Slot → Prop} (h : Only ticket like c.table)
    (events : List (Event μ)) : Only ticket like (c.run events).table :=
  afterRun (fun d => Only ticket like d.table) h
    (fun c e before => @Acts.keep _ (fun i => Only ticket like i.table) Act.only _ _ _
      (stepActs c e) before) events

end Connection
end ServiceMux
