import ServiceMux.Proofs.Inert
import ServiceMux.Proofs.Notices
import ServiceMux.Proofs.Outbound
/-! The line of a connection that is down. Main statements: nobody joins it, and its first stays the
one that was writing, or has begun nothing (`runSettled`); let run one after the other, all who
stand in it come to be first (`drains`). So each way of going down tells every caller what has
become of the call (`teardownTells`). -/
namespace ServiceMux
variable {μ : Type}

namespace Outward
variable {o o' : Outward} {marks : List Mark}

/-- No call stands behind the reader on its way out. -/
def Ordered (o : Outward) : Prop := o.line.Pairwise fun a b => a = .release → b = .release

theorem Ordered.fewer (h : o.Ordered) (line : o'.line.Sublist o.line) : o'.Ordered :=
  List.Pairwise.sublist line h

theorem Ordered.leave (h : o.Ordered) : o.leave.Ordered := by
  unfold Outward.leave
  split
  · exact h
  · refine List.pairwise_append.mpr ⟨h, List.pairwise_singleton _ _, fun a _ b last _ => ?_⟩
    exact List.mem_singleton.mp last

theorem Ordered.move (h : o.Ordered) (standing : o.Standing) (move : Move o marks o') :
    o'.Ordered := by
  have down : o.down.Ordered := h.fewer (by rw [downLine])
  have passed : o.line.tail.Sublist o.line := List.tail_sublist _
  cases move with
  | still => exact h
  | down => exact down
  | join live call frame errand =>
    refine List.pairwise_append.mpr ⟨h, List.pairwise_singleton _ _, fun a inside b _ gone => ?_⟩
    subst gone
    rcases standing with up | fallen
    · exact absurd inside up.reader
    · rw [fallen.lifecycle] at live
      contradiction
  | goUnsent | giveUp | release => exact h.fewer passed
  | stall writes => exact h.fewer (by rw [writes.line])
  | complete writes => exact h.fewer (by simpa [pass, writes.line] using passed)
  | fail writes => exact h.fewer (by simpa [pass, writes.line] using passed)
  | abandon => exact h.fewer (by simpa [pass] using passed)
  | step call => exact h.fewer List.filter_sublist
  | leave => exact h.leave
  | downAndLeave => exact down.leave

/-- The first in line is as far as it was, or nobody has begun to write. -/
def Settled (o o' : Outward) : Prop :=
  o'.progress = none ∨ o'.progress = o.progress ∧ o'.line.head? = o.line.head?

theorem leaveSettled (o : Outward) : o.Settled o.leave := by
  refine .inr ?_
  unfold Outward.leave
  split
  · exact ⟨rfl, rfl⟩
  · rename_i some
    refine ⟨rfl, ?_⟩
    cases line : o.line with
    | nil => simp [line] at some
    | cons turn rest => rfl

theorem IsDown.settled (h : o.IsDown) (move : Move o marks o') : o.Settled o' := by
  have same : o.Settled o := .inr ⟨rfl, rfl⟩
  cases move with
  | still => exact same
  | down => rw [h.down]; exact same
  | join live =>
    rw [h.lifecycle] at live
    contradiction
  | stall writes | complete writes | fail writes => exact absurd writes h.noWrite
  | goUnsent | giveUp | release | abandon => exact .inl rfl
  | step call behind =>
    refine .inr ⟨rfl, ?_⟩
    cases line : o.line with
    | nil => rfl
    | cons turn rest =>
      have other : turn.call? ≠ some call := behind turn (by rw [line]; rfl)
      dsimp only
      rw [List.filter_cons_of_pos (by simpa using other)]
      rfl
  | leave => exact leaveSettled o
  | downAndLeave => rw [h.down]; exact leaveSettled o

end Outward

namespace Connection
open Outward

structure Sunk (c : Connection μ) : Prop where
  down : c.outward.IsDown
  ordered : c.outward.Ordered
  apart : c.callers.Nodup

variable [Message μ]

theorem Sunk.step {c : Connection μ} (h : c.Sunk) (e : Event μ) : (c.step e).Sunk :=
  ⟨(h.down.move (stepMoves c e)).1, h.ordered.move (.inr h.down) (stepMoves c e),
    stepCallers h.apart e⟩

theorem runOrdered (s : Setting μ) (events : List (Event μ)) :
    (s.start.run events).outward.Ordered := by
  have empty : s.start.outward.Ordered := List.Pairwise.nil
  exact (afterRun (fun c => c.outward.Standing ∧ c.outward.Ordered) ⟨.inl (startUp s), empty⟩
    (fun c e ⟨standing, ordered⟩ =>
      ⟨standing.move (stepMoves c e), ordered.move standing (stepMoves c e)⟩) events).2

theorem runSettled {c : Connection μ} (down : c.outward.IsDown) (events : List (Event μ)) :
    c.outward.Settled (c.run events).outward := by
  refine (afterRun (fun d => d.outward.IsDown ∧ c.outward.Settled d.outward)
    ⟨down, .inr ⟨rfl, rfl⟩⟩ ?_ events).2
  intro d e ⟨gone, earlier⟩
  have move := stepMoves d e
  refine ⟨(gone.move move).1, ?_⟩
  rcases gone.settled move with idle | ⟨progress, first⟩
  · exact .inl idle
  · rcases earlier with idle | ⟨before, head⟩
    · exact .inl (progress.trans idle)
    · exact .inr ⟨progress.trans before, first.trans head⟩

def polls (calls : List CallId) (now : Instant) (attempt : WriteAttempt) : List (Event μ) :=
  calls.map fun call => .poll call now attempt

theorem drains {c : Connection μ} (h : c.Sunk) {front back : List Turn} {call : CallId}
    {frame : List UInt8} {errand : Errand}
    (line : c.line = front ++ .write call frame errand :: back) (now : Instant)
    (attempt : WriteAttempt) :
    let d := c.run (polls (front.filterMap Turn.call?) now attempt)
    d.Sunk ∧ d.line = .write call frame errand :: back ∧ (front ≠ [] → d.progress = none) := by
  -- On those in front: the first of them goes, and the line that is left is one shorter.
  induction front generalizing c with
  | nil => exact ⟨h, line, fun some => absurd rfl some⟩
  | cons turn front ih =>
    cases turn with
    | release =>
      -- The reader never stands in front of a call.
      have ordered : c.line.Pairwise fun a b => a = .release → b = .release := h.ordered
      rw [line, List.cons_append] at ordered
      have behind := (List.pairwise_cons.mp ordered).1 (.write call frame errand) (by simp) rfl
      contradiction
    | write first bytes errand' =>
      have polled : c.step (.poll first now attempt) =
          ({ c with writeHalf := false }.stepAside).letGo errand' := by
        dsimp only [step]
        rw [pollFirst h.apart line, takeTurnDown h.down]
      have same := letGoOutward ({ c with writeHalf := false }.stepAside) errand'
      have passed : (c.step (.poll first now attempt)).line =
          front ++ .write call frame errand :: back := by
        rw [polled]
        refine (congrArg Outward.line same).trans ?_
        show c.line.tail = _
        rw [line]
        rfl
      have idle : (c.step (.poll first now attempt)).progress = none := by
        rw [polled]
        exact congrArg Outward.progress same
      obtain ⟨sunk, next, later⟩ := ih (h.step (.poll first now attempt)) passed
      refine ⟨sunk, next, fun _ => ?_⟩
      by_cases last : front = []
      · subst last
        exact idle
      · exact later last

/-! What callers learn of a teardown, and when. -/

/-- What going down does to those who have nothing to do with it: the pending replies that callers
have in hand, and the calls that stand in line. -/
structure Reports (c b d : Connection μ) (own : Option CallId) : Prop where
  lost : ∀ i ∈ b.inboxes, c.Returned i.registration → b.IsAwaited i →
    Inbox.mk i.registration (some (.error .connectionLost)) ∈ d.inboxes
  kept : ∀ i ∈ b.inboxes, c.Returned i.registration → i.result ≠ none → i ∈ d.inboxes
  line : ∀ turn ∈ c.line, turn.call? ≠ own → turn ∈ d.line
  progress : own = none → d.progress = c.progress ∧ c.line <+: d.line

omit [Message μ] in
theorem Leaves.reports {b c d : Connection μ} {own : Option CallId} (h : Leaves c b d own) :
    Reports c b d own := by
  refine ⟨fun i inside returned awaited => ?_, fun i inside returned decided => ?_, h.line,
    h.progress⟩
  · have filled := h.inboxes i inside returned
    have ticket : i.registration.ticket ∈ b.table.awaited :=
      PendingTable.memAwaited.mpr ⟨_, PendingTable.memOfGet awaited.1⟩
    rwa [Inbox.fillAll, if_pos ⟨ticket, awaited.2⟩] at filled
  · have filled := h.inboxes i inside returned
    rwa [Inbox.fillAll, if_neg fun told => decided told.2] at filled

/-- What a connection that went down, and has come to this, tells those who are left. -/
structure Tells (d now : Connection μ) : Prop where
  written : now.written = d.written
  settled : d.outward.Settled now.outward
  /-- Whoever waits, now or later, gets what lay in the inbox then. -/
  filled : ∀ i ∈ d.inboxes, ∃ result, i.result = some result ∧
    ∀ w ∈ now.waits, w.registration = i.registration →
      ∀ time attempt, (now.poll w.call time attempt).2 = some (result.map .reply)
  waits : ∀ w ∈ now.waits, ∃ i ∈ d.inboxes, i.registration = w.registration
  /-- In turn, the one in the middle of its frame first. -/
  line : ∀ front call frame errand back, now.line = front ++ .write call frame errand :: back →
    ∀ time attempt,
      let reached := now.run (polls (front.filterMap Turn.call?) time attempt)
      reached.line = .write call frame errand :: back ∧
        (reached.poll call time attempt).2 = some (.error
          (if front = [] ∧ now.progress.isSome then .connectionLost else downError errand))

theorem Sunk.lineTells {c : Connection μ} (h : c.Sunk) {front back : List Turn} {call : CallId}
    {frame : List UInt8} {errand : Errand}
    (line : c.line = front ++ .write call frame errand :: back) (now : Instant)
    (attempt : WriteAttempt) :
    let d := c.run (polls (front.filterMap Turn.call?) now attempt)
    d.line = .write call frame errand :: back ∧
      (d.poll call now attempt).2 = some (.error
        (if front = [] ∧ c.progress.isSome then .connectionLost else downError errand)) := by
  intro d
  obtain ⟨sunk, first, idle⟩ := drains h line now attempt
  refine ⟨first, ?_⟩
  have told : d.lineError errand =
      if front = [] ∧ c.progress.isSome then .connectionLost else downError errand := by
    unfold lineError
    by_cases last : front = []
    · subst last
      simp [d, polls, run]
    · rw [idle last]
      simp [last]
  rw [pollFirst sunk.apart first, takeTurnDown sunk.down, ← told]

omit [Message μ] in
theorem filledTells {d now : Connection μ} (before : d.Coherent) (empty : d.table.entries = [])
    (coherent : now.Coherent) (sunk : now.Sunk) (inert : now.table.entries = [])
    (fewer : now.inboxes.Sublist d.inboxes) {i : Inbox μ} (inside : i ∈ d.inboxes) :
    ∃ result, i.result = some result ∧
      ∀ w ∈ now.waits, w.registration = i.registration →
        ∀ time attempt, (now.poll w.call time attempt).2 = some (result.map .reply) := by
  cases found : i.result with
  | none =>
    have entry := before.matched.waiting i inside found
    rw [empty] at entry
    contradiction
  | some result =>
    refine ⟨result, rfl, fun w waits own time attempt => ?_⟩
    obtain ⟨j, there, same, answer, filled, polled⟩ := waitsDown coherent inert waits
    have equal : j = i := before.matched.sameTicket (fewer.subset there) inside (by rw [same, own])
    rw [equal, found] at filled
    cases filled
    rw [pollWaits sunk.apart waits]
    exact congrArg Prod.snd (polled time)

theorem downTells {d : Connection μ} (sunk : d.Sunk) (coherent : d.Coherent)
    (inert : d.inward.Inert) (later : List (Event μ)) : d.Tells (d.run later) := by
  have rests := runRests inert later
  have still : (d.run later).Sunk := afterRun Sunk sunk (fun _ e h => h.step e) later
  have books : (d.run later).Coherent := afterRun Coherent coherent (fun _ e h => h.step e) later
  refine ⟨(downUnsent sunk.down later).2.written, runSettled sunk.down later, fun i inside => ?_,
    fun w waits => ?_, fun _ _ _ _ _ line time attempt => still.lineTells line time attempt⟩
  · exact filledTells coherent inert.empty books still rests.inert.empty rests.inboxes inside
  · obtain ⟨j, there, same, _⟩ := books.waitHas waits
    exact ⟨j, rests.inboxes.subset there, same⟩

theorem teardownTells (s : Setting μ) (events : List (Event μ)) :
    let c := s.start.run events
    let past := (s.start.history events).filterMap Occurrence.mark?
    (∀ call now attempt cause, (c.poll call now attempt).2 = some (.error (.stream cause)) ↔
        c.FailsToWrite call attempt cause) ∧
      (∀ call now attempt e, (c.poll call now attempt).2 = some (.error e) →
        e.tellsDown = true → (c.poll call now attempt).1.lifecycle = .closed ∧
          (c.poll call now attempt).1.table.entries = []) ∧
      (∀ call purpose request e, (c.submit call purpose request).outcome = some (.error e) →
        e.tellsDown = true → c.lifecycle = .closed) ∧
      c.written <+: bytesOf (past.filterMap Mark.locked?) ∧
      (past.filterMap Mark.locked? ++ c.outward.unlocked).Sublist (past.filterMap Mark.queued?) ∧
      (c.lifecycle = .live → ∀ e, (c.step e).lifecycle = .closed →
        ∃ reason b, c.Falls e reason b ∧ c.Reports b (c.step e) e.caller? ∧
          ∀ later, (c.step e).Tells ((c.step e).run later)) := by
  intro c past
  have standing : c.outward.Standing := runStanding s events
  have coherent : c.Coherent := runCoherent s events
  have apart : c.callers.Nodup := runCallers s events
  have faults : c.inward.Faults := runFaults s events
  have further (e : Event μ) : c.step e = s.start.run (events ++ [e]) :=
    (s.start.runLast events e).symm
  refine ⟨fun call now attempt cause => streamIff standing coherent apart faults,
    fun call now attempt e told tells => ?_, fun call purpose request e told tells => ?_, ?_, ?_,
    fun live e closed => ?_⟩
  · have down := pollTells standing coherent faults told tells
    have after : (c.poll call now attempt).1 = s.start.run (events ++ [.poll call now attempt]) :=
      further (.poll call now attempt)
    rw [after] at down ⊢
    have gone := (downOf (runStanding s _) down).lifecycle
    exact ⟨gone, (runDownIsInert s _ gone).empty⟩
  · exact (downOf standing (submitTells standing told tells)).lifecycle
  · exact (runOutbound s events).2.1.begins
  · exact (runOutbound s events).2.2.1
  · obtain ⟨reason, b, falls⟩ := (fallsIff s events live e).mp closed
    have left := falls.leaves (upOf standing live) coherent apart
    refine ⟨reason, b, falls, left.reports, fun later => ?_⟩
    have down := downOf (standing.move (stepMoves c e)) left.down
    have sunk : (c.step e).Sunk :=
      ⟨down, (runOrdered s events).move standing (stepMoves c e), stepCallers apart e⟩
    have inert := runDownIsInert s (events ++ [e])
    rw [← further] at inert
    exact downTells sunk (coherent.step e) (inert down.lifecycle) later

end Connection
end ServiceMux
