import ServiceMux.Proofs.Inward
import ServiceMux.Proofs.Tracking
/-! Where that which is on the table and in the inboxes comes from. Main statements: what is
outstanding was so before or was registered since (`runSince`), also as an inbound frame finds it
(`foundSince`); an error in an inbox was brought by a frame, by an interruption or by the teardown
(`runFaults`). -/
namespace ServiceMux
variable {μ : Type}

namespace Inward
variable {i j : Inward μ} {made new : List Enrolment}

/-- What is outstanding is one of these entries, or was registered in one of these ways. -/
def Since (entries : List (UInt32 × Slot)) (made : List Enrolment) (t : PendingTable) : Prop :=
  ∀ e ∈ t.entries, e ∈ entries ∨
    ∃ r fate, (r, fate) ∈ made ∧ e = (r.correlationId, ⟨r.ticket, fate⟩)

section Since
variable {entries : List (UInt32 × Slot)} {t t' : PendingTable}

theorem Since.refl (t : PendingTable) : Since t.entries [] t := fun _ => .inl

theorem Since.fewer (h : Since entries made t) (sub : t'.entries.Sublist t.entries) :
    Since entries made t' := fun e member => h e (sub.subset member)

theorem Since.more (h : Since entries made t) (new : List Enrolment) :
    Since entries (made ++ new) t := by
  intro e member
  rcases h e member with old | ⟨r, fate, inside, same⟩
  · exact .inl old
  · exact .inr ⟨r, fate, List.mem_append_left _ inside, same⟩

theorem Since.register (h : Since entries made t) {r : Registration} {fate : Fate}
    (ok : t.register fate = .ok (r, t')) : Since entries (made ++ [(r, fate)]) t' := by
  obtain ⟨_, _, _, rfl⟩ := PendingTable.registered ok
  intro e member
  rcases List.mem_append.mp member with old | added
  · exact h.more _ e old
  · exact .inr ⟨r, fate, by simp, List.mem_singleton.mp added⟩

theorem Act.since (act : Act i new j) (h : Since entries made i.table) :
    Since entries (made ++ new) j.table := by
  cases act with
  | allocate ok =>
    obtain ⟨_, rfl⟩ := PendingTable.allocated ok
    exact h.more []
  | register live ok => exact h.register ok
  | cancel r => exact (h.fewer (i.table.cancelSublist r)).more []
  | interrupt => exact (h.fewer (i.table.cancelSublist _)).more []
  | count => exact h.more []
  | route up id => exact (h.fewer (i.table.takeSublist id)).more []
  | close => exact fun _ member => by contradiction

theorem Acts.since (acts : Acts i new j) (h : Since entries made i.table) :
    Since entries (made ++ new) j.table := by
  induction acts with
  | still => exact h.more []
  | next _ act ih =>
    rw [← List.append_assoc]
    exact act.since ih

end Since

/-- An error in an inbox is about a frame, an interruption or, once the connection is down, its
loss. -/
def Faults (i : Inward μ) : Prop :=
  ∀ inbox ∈ i.inboxes, ∀ e, inbox.result = some (.error e) →
    (∃ reason, e = .protocol reason) ∨ (∃ id, e = .interrupted id) ∨
      e = .connectionLost ∧ i.lifecycle = .closed

theorem Act.faults (act : Act i new j) (h : i.Faults) : j.Faults := by
  intro inbox member e failed
  cases act with
  | allocate | count => exact h inbox member e failed
  | register live ok added =>
    rcases added inbox member with old | rfl
    · exact h inbox old e failed
    · contradiction
  | cancel r fewer => exact h inbox (fewer.subset member) e failed
  | interrupt held told =>
    rcases told inbox member with old | new
    · exact h inbox old e failed
    · rw [new] at failed
      cases failed
      exact .inr (.inl ⟨_, rfl⟩)
  | route up id plain told =>
    rcases told inbox member with old | new
    · exact h inbox old e failed
    · rw [new] at failed
      exact .inl (plain e (Option.some.inj failed))
  | close live told =>
    rcases told inbox member with old | new
    · rcases h inbox old e failed with frame | interrupted | ⟨_, down⟩
      · exact .inl frame
      · exact .inr (.inl interrupted)
      · rw [live] at down
        contradiction
    · rw [new] at failed
      cases failed
      exact .inr (.inr ⟨rfl, rfl⟩)

end Inward

namespace Connection
open Inward
variable [Message μ]

theorem runSince (c : Connection μ) (events : List (Event μ)) :
    Since c.table.entries ((c.history events).filterMap Occurrence.enrolment?)
      (c.run events).table := by
  refine afterHistory (fun past d => Since c.table.entries
    (past.filterMap Occurrence.enrolment?) d.table) (Since.refl c.table) ?_ events
  intro past d e earlier
  rw [List.filterMap_append]
  exact (stepActs d e).since earlier

theorem routeFinds (t : PendingTable) (d : Connection μ) (frame : Frame)
    (fewer : d.table.entries.Sublist t.entries) :
    (d.route frame).table.entries.Sublist t.entries := by
  rw [routeEq]
  exact (d.table.takeSublist _).trans fewer

theorem routingsFind {c found : Connection μ} {frames : List Frame} {frame : Frame}
    (member : .routed found frame ∈ c.routings frames) :
    found.table.entries.Sublist c.table.entries :=
  routingsKeep (fun d => d.table.entries.Sublist c.table.entries) (routeFinds c.table) (.refl _)
    member

theorem occurrencesFind {c found : Connection μ} {e : Event μ} {frame : Frame}
    (member : .routed found frame ∈ c.occurrences e) :
    found.table.entries.Sublist c.table.entries :=
  occurrencesKeep (fun d => d.table.entries.Sublist c.table.entries) (routeFinds c.table)
    (fun _ => .refl _) member

/-- Also while more frames of the same read were routed, nothing else came onto the table. -/
theorem foundSince (c : Connection μ) (events : List (Event μ)) {e : Event μ}
    {found : Connection μ} {frame : Frame}
    (member : .routed found frame ∈ (c.run events).occurrences e) :
    Since c.table.entries ((c.history events).filterMap Occurrence.enrolment?) found.table :=
  (runSince c events).fewer (occurrencesFind member)

theorem runFaults (s : Setting μ) (events : List (Event μ)) :
    (s.start.run events).inward.Faults := by
  have nothing : s.start.inward.Faults := fun _ member => absurd member List.not_mem_nil
  exact afterRun (fun c => c.inward.Faults) nothing
    (fun c e h => (stepActs c e).keep Act.faults h) events

end Connection
end ServiceMux
