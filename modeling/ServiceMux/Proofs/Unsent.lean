import ServiceMux.Proofs.Allocating
import ServiceMux.Proofs.Inward
import ServiceMux.Proofs.Notices
/-! Requests that cannot be sent. Main statements: the table of a connection has been through
nothing but a table's operations (`runTable`), a call that ends without having stood in line hands
back what it took (`Takes.back`), and so a request that has no id or goes into no frame leaves
nothing behind (`unsentLeavesNoTrace`). -/
namespace ServiceMux
variable {μ : Type}

/-- Whether a free id is looked for. -/
def Purpose.allocates : Purpose → Bool
  | request | receive _ | discard | send => true
  | sendAs _ => false

namespace PendingTable
variable {t t' : PendingTable} {fate : Fate} {r : Registration}

theorem cancelRegistered (ok : t.register fate = .ok (r, t')) :
    (t'.cancel r).2 = { t with next := t'.next, nextTicket := t'.nextTicket } := by
  obtain ⟨_, _, free, rfl⟩ := registered ok
  have found : (t.entries ++ [(r.correlationId, Slot.mk r.ticket fate)]).lookup r.correlationId =
      some (Slot.mk r.ticket fate) := by
    have absent : t.entries.lookup r.correlationId = none := free
    simp [List.lookup_append, absent]
  have left : (t.entries ++ [(r.correlationId, Slot.mk r.ticket fate)]).filter
      (·.1 != r.correlationId) = t.entries := by
    have stay : t.entries.filter (·.1 != r.correlationId) = t.entries :=
      List.filter_eq_self.mpr fun e member => bne_iff_ne.mpr (freeOfGet free e member)
    simp [List.filter_append, stay]
  simp only [cancel, holds, take, get?, erase, found, left, beq_self_eq_true, if_true]

theorem registerExhausted (accepting : t.closed = false)
    (none : t.allocate = .error (.idsExhausted t.limit)) :
    t.register fate = .error (.idsExhausted t.limit) := by
  unfold register
  rw [accepting, none]
  rfl

theorem registersWithRoom (accepting : t.closed = false)
    (room : t.allocate ≠ .error (.idsExhausted t.limit)) :
    ∃ r t', t.register fate = .ok (r, t') := by
  unfold register
  rw [accepting]
  cases answer : t.allocate with
  | error e => exact absurd (by rw [answer, allocateFails answer]) room
  | ok taken => exact ⟨_, _, rfl⟩

end PendingTable

namespace Inward

theorem Act.operates {i j : Inward μ} {new : List Enrolment} (act : Act i new j) :
    j.table = i.table ∨ ∃ o, j.table = i.table.perform o := by
  cases act with
  | allocate ok => exact .inr ⟨.allocate, by simp only [PendingTable.perform, ok]⟩
  | @register _ r fate _ ok => exact .inr ⟨.register fate, by simp only [PendingTable.perform, ok]⟩
  | cancel r | @interrupt r => exact .inr ⟨.cancel r, rfl⟩
  | count => exact .inl rfl
  | route up id => exact .inr ⟨.take id, rfl⟩
  | close => exact .inr ⟨.close, rfl⟩

end Inward

namespace Connection

/-- At most the counters of ids and of tickets have moved. -/
def Untouched (c d : Connection μ) : Prop :=
  d = { c with table :=
    { c.table with next := d.table.next, nextTicket := d.table.nextTicket } }

theorem Takes.back {c d : Connection μ} {purpose : Purpose} {id : UInt32} {errand : Errand}
    (coherent : c.Coherent) (taken : c.Takes purpose d id errand) :
    c.Untouched (d.takeBack errand) := by
  have inboxes {r : Registration} (ticket : r.ticket = c.table.nextTicket) :
      (c.inboxes ++ [Inbox.mk r none]).filter (·.registration.ticket != r.ticket) = c.inboxes := by
    have older : c.inboxes.filter (·.registration.ticket != r.ticket) = c.inboxes := by
      refine List.filter_eq_self.mpr fun i member => bne_iff_ne.mpr ?_
      have issued := coherent.matched.issued i member
      omega
    simp [List.filter_append, older]
  cases taken with
  | request ok | receive ok =>
    have ticket := (PendingTable.registered ok).2.1
    simp only [Untouched, takeBack, Errand.inbox?, dropInbox, withdraw, inboxes ticket,
      PendingTable.cancelRegistered ok]
  | discard ok =>
    simp only [Untouched, takeBack, Errand.inbox?, Errand.registration?, withdraw,
      PendingTable.cancelRegistered ok]
  | send ok =>
    obtain ⟨_, rfl⟩ := PendingTable.allocated ok
    rfl
  | sendAs => rfl

section Room
variable [Message μ] {c : Connection μ} (live : c.isLive = true) (call : CallId)
  {purpose : Purpose} (request : μ)
include live

theorem submitExhausted (accepting : c.table.closed = false)
    (none : c.table.allocate = .error (.idsExhausted c.table.limit))
    (wants : purpose.allocates = true) :
    c.submit call purpose request =
      ⟨c, request, some (.error (.idsExhausted c.table.limit))⟩ := by
  have registers (fate : Fate) :
      c.table.register fate = .error (.idsExhausted c.table.limit) :=
    PendingTable.registerExhausted accepting none
  rcases submitCases c call purpose request with
    ⟨e, turned, _, refuses⟩ | ⟨_, d, id, errand, taken, _⟩
  · rw [turned]
    cases refuses with
    | down down => simp [live] at down
    | register _ refused =>
      rw [registers] at refused
      cases refused
      rfl
    | allocate refused => rw [PendingTable.allocateFails refused]
  · cases taken with
    | request ok | receive ok | discard ok => simp [registers] at ok
    | send ok => simp [none] at ok
    | sendAs => contradiction

theorem submitWithRoom (accepting : c.table.closed = false)
    (room : purpose.allocates = true →
      c.table.allocate ≠ .error (.idsExhausted c.table.limit)) :
    ∃ d id errand, c.Takes purpose d id errand ∧
      c.submit call purpose request = d.standInLine call (Message.stamp id request) errand := by
  rcases submitCases c call purpose request with
    ⟨e, _, _, refuses⟩ | ⟨_, d, id, errand, taken, stands⟩
  · cases refuses with
    | down down => simp [live] at down
    | @register _ fate _ wanted refused =>
      have allocates : purpose.allocates = true := by
        cases purpose <;> first | rfl | contradiction
      have registers : ∃ r table, c.table.register fate = .ok (r, table) :=
        PendingTable.registersWithRoom accepting (room allocates)
      simp [refused] at registers
    | allocate refused =>
      exact absurd (by rw [refused, PendingTable.allocateFails refused]) (room rfl)
  · exact ⟨d, id, errand, taken, stands⟩

end Room

theorem standInLineFails [Message μ] {d : Connection μ} {stamped : μ} {e : ServerError}
    (unsendable : Message.Unsendable d.config.maxFrameSize stamped e) (call : CallId)
    (errand : Errand) :
    d.standInLine call stamped errand = ⟨d.takeBack errand, stamped, some (.error e)⟩ := by
  unfold standInLine
  rw [Message.unsendableIff.mpr unsendable]

variable [Message μ]

theorem runTable (s : Setting μ) (events : List (Event μ)) :
    ∃ operations, (s.start.run events).table =
      (PendingTable.ofLimit s.config.correlationIdLimit).after operations := by
  refine afterRun (fun c => ∃ operations, c.table =
    (PendingTable.ofLimit s.config.correlationIdLimit).after operations) ⟨[], rfl⟩ ?_ events
  intro c e earlier
  refine @Inward.Acts.keep _ (fun i => ∃ operations, i.table =
    (PendingTable.ofLimit s.config.correlationIdLimit).after operations) ?_ _ _ _ (stepActs c e)
    earlier
  rintro i j new act ⟨operations, same⟩
  rcases act.operates with still | ⟨o, moved⟩
  · exact ⟨operations, still.trans same⟩
  · refine ⟨operations ++ [o], ?_⟩
    rw [moved, same]
    exact (List.foldl_concat ..).symm

theorem runWithin (s : Setting μ) (events : List (Event μ)) :
    (s.start.run events).table.Within ∧
      (s.start.run events).table.limit = max s.config.correlationIdLimit 1 := by
  obtain ⟨operations, same⟩ := runTable s events
  rw [same]
  exact ⟨PendingTable.afterWithin _ operations, PendingTable.afterLimit _ operations⟩

theorem unsentLeavesNoTrace (s : Setting μ) (events : List (Event μ)) :
    let c := s.start.run events
    c.table.limit = max s.config.correlationIdLimit 1 ∧
      (∀ call request,
        c.sendAndReceive call request = c.submit call (.receive c.replyTimeout) request) ∧
      (c.lifecycle = .live → ∀ call purpose request,
        (purpose.allocates = true → c.table.Exhausted →
          c.submit call purpose request =
            ⟨c, request, some (.error (.idsExhausted c.table.limit))⟩) ∧
        ((purpose.allocates = true → ¬c.table.Exhausted) →
          let begun := c.submit call purpose request
          (∃ id, begun.request = Message.stamp id request) ∧
            ∀ e, Message.Unsendable c.config.maxFrameSize begun.request e →
              begun.outcome = some (.error e) ∧ c.Untouched begun.connection)) := by
  intro c
  obtain ⟨within, limit⟩ := runWithin s events
  have coherent : c.Coherent := runCoherent s events
  have full : c.table.allocate = .error (.idsExhausted c.table.limit) ↔ c.table.Exhausted :=
    PendingTable.exhaustedIff within coherent.matched.distinct
  refine ⟨limit, fun _ _ => rfl, fun up call purpose request => ?_⟩
  have live : c.isLive = true := beq_iff_eq.mpr up
  have accepting : c.table.closed = false := (upOf (runStanding s events) up).refusing
  refine ⟨fun wants exhausted => submitExhausted live call request accepting (full.mpr exhausted)
    wants, fun room => ?_⟩
  obtain ⟨d, id, errand, taken, stands⟩ := submitWithRoom live call request accepting
    fun wants none => room wants (full.mp none)
  have stamped : (c.submit call purpose request).request = Message.stamp id request := by
    rw [stands, standInLineStamps]
  refine ⟨⟨id, stamped⟩, fun e unsendable => ?_⟩
  rw [stamped, ← taken.setting.2] at unsendable
  rw [stands, standInLineFails unsendable]
  exact ⟨rfl, taken.back coherent⟩

end Connection
end ServiceMux
