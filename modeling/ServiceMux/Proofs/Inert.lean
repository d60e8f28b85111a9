import ServiceMux.Proofs.Inward
import ServiceMux.Proofs.Standing
/-! Down for good. Main statements: of a connection that is down nothing is outstanding, and no act
puts anything into an inbox or moves a counter any more (`Act.inert`); so it was taken down once,
and nothing that is done to it later brings it back (`closedForGood`). -/
namespace ServiceMux
variable {μ : Type}

theorem Metrics.ofParts {m n : Metrics} (inbound : m.inbound = n.inbound)
    (sent : m.requestsSent = n.requestsSent) (bytes : m.bytesWritten = n.bytesWritten)
    (closes : m.closes = n.closes) : m = n := by
  cases m
  cases n
  simp_all [Metrics.inbound]

namespace PendingTable
variable {t : PendingTable} {fate : Fate}

theorem refusesIff : t.register fate = .error .connectionClosed ↔ t.closed = true := by
  have other : t.allocate ≠ .error .connectionClosed := by
    unfold allocate
    split
    · nofun
    · split <;> nofun
  unfold register
  cases t.closed with
  | true => simp
  | false =>
    simp only [Bool.false_eq_true, if_false, iff_false]
    split
    · rename_i e failed
      rintro ⟨⟩
      exact other failed
    · nofun

end PendingTable

namespace Inward
variable {i j : Inward μ} {new : List Enrolment}

structure Inert (i : Inward μ) : Prop where
  lifecycle : i.lifecycle = .closed
  shutdown : i.shutdown = true
  refusing : i.table.closed = true
  empty : i.table.entries = []

/-- What becomes of a connection that is down: inboxes are emptied and dropped, and that is all. -/
structure Rests (i : Inward μ) (made : List Enrolment) (j : Inward μ) : Prop where
  inert : j.Inert
  made : made = []
  inboxes : j.inboxes.Sublist i.inboxes
  inbound : j.inbound = i.inbound

theorem Act.inert (act : Act i new j) (h : i.Inert) : i.Rests new j := by
  -- Most acts need a connection that is up.
  have up (told : i.shutdown = false) : i.Rests new j := by
    rw [h.shutdown] at told
    contradiction
  cases act with
  | allocate ok =>
    obtain ⟨_, rfl⟩ := PendingTable.allocated ok
    exact ⟨⟨h.lifecycle, h.shutdown, h.refusing, h.empty⟩, rfl, .refl _, rfl⟩
  | register live | close live =>
    rw [h.lifecycle] at live
    contradiction
  | cancel r fewer =>
    have none := i.table.cancelSublist r
    rw [h.empty] at none
    exact ⟨⟨h.lifecycle, h.shutdown, by simpa using h.refusing, List.sublist_nil.mp none⟩, rfl,
      fewer, rfl⟩
  | @interrupt r held =>
    have absent : i.table.get? r.correlationId = none := by simp [PendingTable.get?, h.empty]
    unfold PendingTable.holds at held
    rw [absent] at held
    contradiction
  | count told | route told => exact up told

theorem Acts.rests {made : List Enrolment} (acts : Acts i made j) (h : i.Inert) :
    i.Rests made j := by
  induction acts with
  | still => exact ⟨h, rfl, .refl _, rfl⟩
  | next _ act ih =>
    have last := act.inert ih.inert
    exact ⟨last.inert, by rw [ih.made, last.made]; rfl, last.inboxes.trans ih.inboxes,
      last.inbound.trans ih.inbound⟩

theorem Act.downIsInert (act : Act i new j) (h : i.lifecycle = .closed → i.Inert) :
    j.lifecycle = .closed → j.Inert := by
  intro down
  cases act with
  | close live told => exact ⟨rfl, rfl, rfl, rfl⟩
  | register live =>
    rw [live] at down
    contradiction
  | allocate ok => exact (Act.inert (.allocate ok) (h down)).inert
  | cancel r fewer => exact (Act.inert (.cancel i r fewer) (h down)).inert
  | interrupt held told => exact (Act.inert (.interrupt held told) (h down)).inert
  | count up inbound => exact (Act.inert (.count up inbound) (h down)).inert
  | route up id plain told inbound => exact (Act.inert (.route up id plain told inbound)
      (h down)).inert

end Inward

namespace Connection
open Inward
variable [Message μ]

theorem runDownIsInert (s : Setting μ) (events : List (Event μ)) :
    (s.start.run events).lifecycle = .closed → (s.start.run events).inward.Inert := by
  refine afterRun (fun c => c.lifecycle = .closed → c.inward.Inert)
    (fun down => Lifecycle.noConfusion down) ?_ events
  intro c e h
  exact @Acts.keep _ (fun i => i.lifecycle = .closed → i.Inert) Act.downIsInert _ _ _
    (stepActs c e) h

theorem runRests {c : Connection μ} (h : c.inward.Inert) (events : List (Event μ)) :
    c.inward.Rests ((c.history events).filterMap Occurrence.enrolment?)
      (c.run events).inward := by
  refine afterHistory (fun past d => c.inward.Rests (past.filterMap Occurrence.enrolment?)
    d.inward) ⟨h, rfl, .refl _, rfl⟩ ?_ events
  intro past d e earlier
  have later := (stepActs d e).rests earlier.inert
  refine ⟨later.inert, ?_, later.inboxes.trans earlier.inboxes,
    later.inbound.trans earlier.inbound⟩
  rw [List.filterMap_append, earlier.made, later.made]
  rfl

omit [Message μ] in
theorem standing {c : Connection μ} (h : c.outward.Standing) :
    (c.lifecycle = .live ∧ c.metrics.closes = 0 ∧ c.table.closed = false) ∨
      (c.lifecycle = .closed ∧ c.metrics.closes = 1 ∧ c.table.closed = true) := by
  rcases h with up | down
  · exact .inl ⟨up.lifecycle, up.closes, up.refusing⟩
  · exact .inr ⟨down.lifecycle, down.closes, down.refusing⟩

/-- Whoever begins something on a connection that is down is told so, and nothing else happens. -/
structure Refuses (d : Connection μ) : Prop where
  attach : d.attach = .error .connectionClosed
  submit : ∀ call purpose request,
    d.submit call purpose request = ⟨d, request, some (.error .connectionClosed)⟩
  exchange : ∀ call request,
    d.sendAndReceive call request = ⟨d, request, some (.error .connectionClosed)⟩

theorem downRefuses {d : Connection μ} (down : d.lifecycle = .closed) : d.Refuses := by
  have notLive : d.isLive = false := beq_eq_false_iff_ne.mpr (by rw [down]; nofun)
  have submit (call : CallId) (purpose : Purpose) (request : μ) :
      d.submit call purpose request = ⟨d, request, some (.error .connectionClosed)⟩ := by
    unfold Connection.submit
    rw [if_pos (by simp [notLive])]
  refine ⟨?_, submit, fun call => submit call _⟩
  unfold Connection.attach
  rw [if_pos (by simp [notLive])]

theorem closedForGood (s : Setting μ) (events : List (Event μ)) :
    let c := s.start.run events
    (c.lifecycle = .live ∧ c.metrics.closes = 0 ∨
        c.lifecycle = .closed ∧ c.metrics.closes = 1) ∧
      (∀ fate, c.table.register fate = .error .connectionClosed ↔ c.lifecycle = .closed) ∧
      (c.lifecycle = .closed → c.table.size = 0 ∧ ∀ later,
        let d := c.run later
        d.lifecycle = .closed ∧ d.metrics = c.metrics ∧ d.written = c.written ∧
          d.table.entries = [] ∧ (c.history later).filterMap Occurrence.registered? = [] ∧
          d.inboxes.Sublist c.inboxes ∧ d.Refuses) := by
  intro c
  have books := standing (runStanding s events)
  refine ⟨?_, fun fate => ?_, fun closed => ⟨?_, fun later => ?_⟩⟩
  · exact books.imp (fun up => ⟨up.1, up.2.1⟩) (fun down => ⟨down.1, down.2.1⟩)
  · rw [PendingTable.refusesIff]
    rcases books with ⟨live, _, accepting⟩ | ⟨closed, _, refusing⟩
    · simp only [c, live, accepting, Bool.false_eq_true, reduceCtorEq]
    · simp only [c, closed, refusing]
  · exact congrArg List.length (runDownIsInert s events closed).empty
  · have rests := runRests (runDownIsInert s events closed) later
    have down : c.outward.IsDown := by
      rcases runStanding s events with up | down
      · have live : c.lifecycle = .live := up.lifecycle
        rw [closed] at live
        contradiction
      · exact down
    obtain ⟨still, unsent⟩ := downUnsent down later
    refine ⟨still.lifecycle, ?_, unsent.written, rests.inert.empty, ?_, rests.inboxes,
      downRefuses still.lifecycle⟩
    · exact Metrics.ofParts rests.inbound unsent.sent unsent.bytes
        (still.closes.trans down.closes.symm)
    · have made := rests.made
      rw [List.filterMap_eq_nil_iff] at made ⊢
      intro o member
      have silent := made o member
      cases o <;> first | rfl | contradiction

end Connection
end ServiceMux
