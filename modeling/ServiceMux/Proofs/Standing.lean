import ServiceMux.Proofs.Outward
/-! Up or down, and nothing in between. Main statements: a connection at rest is all up or all down
(`runStanding`), and one that is down stays so and writes no more (`downForGood`). -/
namespace ServiceMux
variable {μ : Type}

namespace Outward

structure IsUp (o : Outward) : Prop where
  lifecycle : o.lifecycle = .live
  shutdown : o.shutdown = false
  refusing : o.refusing = false
  closes : o.closes = 0
  writeHalf : o.writeHalf = true
  reader : Turn.release ∉ o.line

structure IsDown (o : Outward) : Prop where
  lifecycle : o.lifecycle = .closed
  shutdown : o.shutdown = true
  refusing : o.refusing = true
  closes : o.closes = 1

def Standing (o : Outward) : Prop := o.IsUp ∨ o.IsDown

variable {o o' : Outward} {marks : List Mark}

theorem goesDown (live : o.lifecycle = .live) (closes : o.closes = 0) : o.down.IsDown := by
  unfold Outward.down
  rw [if_pos live]
  exact ⟨rfl, rfl, rfl, by simp [closes]⟩

theorem IsDown.down (h : o.IsDown) : o.down = o := by
  unfold Outward.down
  rw [if_neg (by simp [h.lifecycle])]

theorem IsDown.leave (h : o.IsDown) : o.leave.IsDown := by
  unfold Outward.leave
  split <;> exact ⟨h.lifecycle, h.shutdown, h.refusing, h.closes⟩

/-- Nothing was handed over in between. -/
structure Unsent (o' o : Outward) : Prop where
  written : o'.written = o.written
  sent : o'.requestsSent = o.requestsSent
  bytes : o'.bytesWritten = o.bytesWritten

theorem leaveUnsent (o : Outward) : o.leave.Unsent o := by
  unfold Outward.leave
  split <;> exact ⟨rfl, rfl, rfl⟩

theorem IsDown.noWrite (h : o.IsDown) {call : CallId} {frame : List UInt8} {before : Nat}
    {after : Outward} : ¬ o.Writes call frame before after := by
  intro writes
  have up := writes.up
  rw [h.shutdown] at up
  contradiction

theorem abandoned (h : o.Standing) : IsDown (Outward.down { o with writeHalf := false }) := by
  rcases h with up | down
  · exact goesDown up.lifecycle up.closes
  · rw [IsDown.down] <;> exact ⟨down.lifecycle, down.shutdown, down.refusing, down.closes⟩

theorem IsDown.move (h : o.IsDown) (move : Move o marks o') : o'.IsDown ∧ o'.Unsent o := by
  have unsent : o.Unsent o := ⟨rfl, rfl, rfl⟩
  cases move with
  | still => exact ⟨h, unsent⟩
  | down => rw [h.down]; exact ⟨h, unsent⟩
  | join live =>
    rw [h.lifecycle] at live
    contradiction
  | goUnsent first late =>
    exact ⟨⟨h.lifecycle, h.shutdown, h.refusing, h.closes⟩, ⟨rfl, rfl, rfl⟩⟩
  | stall writes => exact absurd writes h.noWrite
  | complete writes => exact absurd writes h.noWrite
  | fail writes => exact absurd writes h.noWrite
  | giveUp idle first =>
    exact ⟨⟨h.lifecycle, h.shutdown, h.refusing, h.closes⟩, ⟨rfl, rfl, rfl⟩⟩
  | abandon busy =>
    have down := abandoned (.inr h)
    exact ⟨⟨down.lifecycle, down.shutdown, down.refusing, down.closes⟩,
      ⟨downWritten _, downSent _, downBytes _⟩⟩
  | step call behind =>
    exact ⟨⟨h.lifecycle, h.shutdown, h.refusing, h.closes⟩, ⟨rfl, rfl, rfl⟩⟩
  | leave told => exact ⟨h.leave, leaveUnsent o⟩
  | downAndLeave => rw [h.down]; exact ⟨h.leave, leaveUnsent o⟩
  | release first => exact ⟨⟨h.lifecycle, h.shutdown, h.refusing, h.closes⟩, ⟨rfl, rfl, rfl⟩⟩

theorem Writes.standing {call : CallId} {frame : List UInt8} {before : Nat} {after : Outward}
    (writes : o.Writes call frame before after) (h : o.IsUp) :
    after.IsUp ∧ after = o ∨ after.IsDown := by
  rcases writes.after with same | down
  · rw [same]
    exact .inl ⟨h, rfl⟩
  · rw [down]
    exact .inr (goesDown h.lifecycle h.closes)

theorem Writes.failed {call : CallId} {frame : List UInt8} {before : Nat} {after : Outward}
    (writes : o.Writes call frame before after) (h : o.IsUp) (written : List UInt8) :
    IsDown (Outward.down { after.pass with written, writeHalf := false }) := by
  rcases writes.standing h with ⟨up, rfl⟩ | down
  · exact goesDown h.lifecycle h.closes
  · rw [IsDown.down] <;> exact ⟨down.lifecycle, down.shutdown, down.refusing, down.closes⟩

theorem IsUp.notLate (h : o.IsUp) : ¬(o.shutdown = true ∨
    o.progress = none ∧ (o.lifecycle ≠ .live ∨ o.writeHalf = false)) := by
  rintro (told | ⟨_, down | gone⟩)
  · simp [h.shutdown] at told
  · exact down h.lifecycle
  · simp [h.writeHalf] at gone

theorem IsUp.move (h : o.IsUp) (move : Move o marks o') : o'.Standing := by
  have tail : Turn.release ∉ o.line.tail := fun member => h.reader (List.mem_of_mem_tail member)
  cases move with
  | still => exact .inl h
  | down => exact .inr (goesDown h.lifecycle h.closes)
  | join live call frame errand =>
    refine .inl ⟨h.lifecycle, h.shutdown, h.refusing, h.closes, h.writeHalf, ?_⟩
    simp [h.reader]
  | goUnsent first late => exact absurd late h.notLate
  | stall writes =>
    rcases writes.standing h with ⟨up, rfl⟩ | down
    · exact .inl ⟨h.lifecycle, h.shutdown, h.refusing, h.closes, h.writeHalf, h.reader⟩
    · exact .inr ⟨down.lifecycle, down.shutdown, down.refusing, down.closes⟩
  | complete writes =>
    rcases writes.standing h with ⟨up, rfl⟩ | down
    · refine .inl ⟨h.lifecycle, h.shutdown, h.refusing, h.closes, ?_, tail⟩
      simp [h.writeHalf, h.shutdown, h.lifecycle]
    · exact .inr ⟨down.lifecycle, down.shutdown, down.refusing, down.closes⟩
  | fail writes taken => exact .inr (writes.failed h _)
  | giveUp idle first =>
    exact .inl ⟨h.lifecycle, h.shutdown, h.refusing, h.closes, h.writeHalf, tail⟩
  | abandon busy =>
    have down := abandoned (.inl h)
    exact .inr ⟨down.lifecycle, down.shutdown, down.refusing, down.closes⟩
  | step call behind =>
    refine .inl ⟨h.lifecycle, h.shutdown, h.refusing, h.closes, h.writeHalf, fun member => ?_⟩
    exact h.reader (List.mem_of_mem_filter member)
  | leave told =>
    rw [h.shutdown] at told
    contradiction
  | downAndLeave => exact .inr (goesDown h.lifecycle h.closes).leave
  -- The reader stands in line only on its way out, and that of a connection that is up stays.
  | release first => exact absurd (by simp [first]) h.reader

theorem Standing.move (h : o.Standing) (move : Move o marks o') : o'.Standing := by
  rcases h with up | down
  · exact up.move move
  · exact .inr (down.move move).1

end Outward

namespace Connection
open Outward

theorem startUp (s : Setting μ) : s.start.outward.IsUp :=
  ⟨rfl, rfl, rfl, rfl, rfl, List.not_mem_nil⟩

variable [Message μ]

theorem runStanding (s : Setting μ) (events : List (Event μ)) :
    (s.start.run events).outward.Standing :=
  afterRun (fun c => c.outward.Standing) (.inl (startUp s))
    (fun c e h => h.move (stepMoves c e)) events

theorem downUnsent {c : Connection μ} (h : c.outward.IsDown) (events : List (Event μ)) :
    (c.run events).outward.IsDown ∧ (c.run events).outward.Unsent c.outward := by
  refine afterRun (fun d => d.outward.IsDown ∧ d.outward.Unsent c.outward)
    ⟨h, ⟨rfl, rfl, rfl⟩⟩ ?_ events
  intro d e ⟨down, same⟩
  obtain ⟨still, unsent⟩ := down.move (stepMoves d e)
  exact ⟨still, unsent.written.trans same.written, unsent.sent.trans same.sent,
    unsent.bytes.trans same.bytes⟩

theorem downForGood {c : Connection μ} (h : c.outward.IsDown) (events : List (Event μ)) :
    (c.run events).outward.IsDown ∧ (c.run events).written = c.written :=
  ⟨(downUnsent h events).1, (downUnsent h events).2.written⟩

end Connection
end ServiceMux
