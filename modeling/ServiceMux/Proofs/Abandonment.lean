import ServiceMux.Bench.Datastream
import ServiceMux.Proofs.Callers
import ServiceMux.Proofs.Waiters
/-! A call given up while it stands in line, before it has handed anything over. Main statements:
it leaves the line, and nothing is written or closed (`Queued.abandon`); with it goes its entry if
it holds an inbox, and no other entry (`queuedCallLeaves`). A call that discards its reply holds
none, and leaves its entry behind (`discardIsLeftBehind`). -/
namespace ServiceMux

namespace PendingTable
variable {t : PendingTable} {r : Registration}

theorem Distinct.cancelEntries (h : t.Distinct)
    (own : ∀ e ∈ t.entries, e.2.ticket = r.ticket → e.1 = r.correlationId) :
    (t.cancel r).2.entries = t.entries.filter (·.2.ticket != r.ticket) := by
  by_cases held : t.holds r = true
  · obtain ⟨fate, entry⟩ := h.holds.mp held
    have found := h.get.mpr entry
    unfold PendingTable.cancel PendingTable.take
    rw [if_pos held, found]
    refine List.filter_congr fun e member => ?_
    rw [Bool.eq_iff_iff, bne_iff_ne, bne_iff_ne, not_iff_not]
    exact ⟨fun same => by rw [h.sameId member entry same], own e member⟩
  · unfold PendingTable.cancel
    rw [if_neg held]
    refine (List.filter_eq_self.mpr fun e member => ?_).symm
    rw [bne_iff_ne]
    intro same
    refine held (h.holds.mpr ⟨e.2.fate, ?_⟩)
    rw [← same, ← own e member same]
    exact member

end PendingTable

variable {μ : Type}

theorem Matched.entryOf {t : PendingTable} {inboxes : List (Inbox μ)} (h : Matched t inboxes)
    {i : Inbox μ} (inside : i ∈ inboxes) {e : UInt32 × Slot} (member : e ∈ t.entries)
    (same : e.2.ticket = i.registration.ticket) : e.1 = i.registration.correlationId := by
  cases found : i.result with
  | none => rw [h.distinct.sameTicket member (h.waiting i inside found) same]
  | some result => exact absurd same (h.decided i inside (by simp [found]) e member)

namespace Connection

/-- A call stands in line, between these, and has not taken the write half. -/
structure Queued (c : Connection μ) (call : CallId) (errand : Errand) (front back : List Turn) :
    Prop where
  inLine : ∃ frame, c.line = front ++ .write call frame errand :: back
  idle : front = [] → c.progress = none

namespace Queued
variable {c : Connection μ} {call : CallId} {errand : Errand} {front back : List Turn}
  (h : c.Queued call errand front back) (apart : c.callers.Nodup)
include h apart

theorem absent : (∀ turn ∈ front ++ back, turn.call? ≠ some call) ∧
    ∀ w ∈ c.waits, w.call ≠ call := by
  obtain ⟨frame, line⟩ := h.inLine
  simp only [callers, line, List.filterMap_append, List.filterMap_cons, Turn.call?,
    List.append_assoc, List.cons_append] at apart
  have once := (List.nodup_cons.mp (List.nodup_middle.mp apart)).1
  rw [← List.append_assoc, ← List.filterMap_append, List.mem_append, not_or] at once
  exact ⟨fun turn member named => once.1 (List.mem_filterMap.mpr ⟨turn, member, named⟩),
    fun w member named => once.2 (List.mem_map.mpr ⟨w, member, named⟩)⟩

theorem leaveLine : c.leaveLine call = { c with line := front ++ back }.letGo errand := by
  obtain ⟨others, _⟩ := h.absent apart
  obtain ⟨frame, line⟩ := h.inLine
  have own : (Turn.write call frame errand).call? = some call := rfl
  have before : ∀ turn ∈ front, ¬(turn.call? == some call) = true := fun turn member =>
    fun same => others turn (List.mem_append_left _ member) (beq_iff_eq.mp same)
  have found : c.line.find? (·.call? == some call) = some (.write call frame errand) := by
    rw [line, List.find?_append, List.find?_eq_none.mpr before]
    simp [own]
  have left : c.line.filter (·.call? != some call) = front ++ back := by
    have stay : (front ++ back).filter (·.call? != some call) = front ++ back :=
      List.filter_eq_self.mpr fun turn member => bne_iff_ne.mpr (others turn member)
    rw [line, List.filter_append, List.filter_cons_of_neg (by simp [own]), ← List.filter_append]
    exact stay
  unfold Connection.leaveLine
  rw [found]
  dsimp only
  rw [left]

theorem abandon : c.abandon call = { c with line := front ++ back }.letGo errand := by
  obtain ⟨others, waits⟩ := h.absent apart
  have elsewhere : c.waits.find? (·.call == call) = none :=
    List.find?_eq_none.mpr fun w member named => waits w member (beq_iff_eq.mp named)
  have leaves := h.leaveLine apart
  obtain ⟨frame, line⟩ := h.inLine
  unfold Connection.abandon
  rw [elsewhere]
  dsimp only
  cases front with
  | nil =>
    have aside : c.stepAside = { c with line := back, progress := none } := by
      unfold stepAside
      rw [line]
      rfl
    rw [line]
    dsimp only [List.nil_append]
    rw [if_pos (beq_self_eq_true call), h.idle rfl, ← aside]
    rfl
  | cons turn rest =>
    have other := others turn List.mem_cons_self
    rw [line, List.cons_append]
    cases turn with
    | release => exact leaves
    | write first bytes errand' =>
      dsimp only
      rw [if_neg (fun same => other (congrArg some (beq_iff_eq.mp same)))]
      exact leaves

end Queued

variable [Message μ]

theorem queuedCallLeaves (s : Setting μ) (events : List (Event μ)) {call : CallId}
    {errand : Errand} {front back : List Turn}
    (queued : (s.start.run events).Queued call errand front back) :
    let c := s.start.run events
    let d := c.step (.abandon call)
    d.lifecycle = c.lifecycle ∧ d.line = front ++ back ∧ d.waits = c.waits ∧
      d.written = c.written ∧ d.metrics = c.metrics ∧
      d.table.entries = match errand.inbox? with
        | some r => c.table.entries.filter (·.2.ticket != r.ticket)
        | none => c.table.entries := by
  intro c d
  have coherent : c.Coherent := runCoherent s events
  have same : d = { c with line := front ++ back }.letGo errand :=
    queued.abandon (runCallers s events)
  rw [same]
  unfold letGo
  cases found : errand.inbox? with
  | none => exact ⟨rfl, rfl, rfl, rfl, rfl, rfl⟩
  | some r =>
    refine ⟨rfl, rfl, rfl, rfl, rfl, ?_⟩
    obtain ⟨frame, line⟩ := queued.inLine
    have has := coherent.owned.inLine r
      (List.mem_filterMap.mpr ⟨.write call frame errand, by simp [c, line], found⟩)
    obtain ⟨i, inside, own⟩ := List.mem_map.mp has
    refine coherent.matched.distinct.cancelEntries fun e member ticket => ?_
    rw [← own] at ticket ⊢
    exact coherent.matched.entryOf inside member ticket

/-! A call behind a send that the transport does not take. -/

def stalled : List (Event Bench.Datastream) :=
  [.submit 0 .send ⟨0, .request 0x1001 0 [] none⟩, .poll 0 0 ⟨.stalled 0, false⟩]

def stalledThen (purpose : Purpose) : List (Event Bench.Datastream) :=
  stalled ++ [.submit 1 purpose ⟨0, .request 0x1001 0 [] none⟩]

def stalledSetting : Setting Bench.Datastream := ⟨1, .file, .empty, {}, none, none⟩

theorem requestTakesItsEntry :
    let c := stalledSetting.start.run (stalledThen .request)
    c.lifecycle = .live ∧ c.table.entries = [(2, ⟨1, .awaited⟩)] ∧
      c.Queued 1 (.handOut ⟨2, 1⟩) (stalledSetting.start.run stalled).line [] ∧
      (c.step (.abandon 1)).lifecycle = .live ∧ (c.step (.abandon 1)).table.entries = [] := by
  have busy : (stalledSetting.start.run stalled).line ≠ [] := by decide
  have queued : Queued (stalledSetting.start.run (stalledThen .request)) 1 (.handOut ⟨2, 1⟩)
      (stalledSetting.start.run stalled).line [] := ⟨⟨_, rfl⟩, fun none => absurd none busy⟩
  have leaves := queuedCallLeaves stalledSetting (stalledThen .request) queued
  have live : (stalledSetting.start.run (stalledThen .request)).lifecycle = .live := by decide
  have own : (stalledSetting.start.run (stalledThen .request)).table.entries =
      [(2, ⟨1, .awaited⟩)] := by decide
  refine ⟨live, own, queued, leaves.1.trans live, leaves.2.2.2.2.2.trans ?_⟩
  dsimp only [Errand.inbox?]
  rw [own]
  decide

/-- A call that would have discarded its reply does not. -/
theorem discardIsLeftBehind :
    let c := stalledSetting.start.run (stalledThen .discard)
    c.lifecycle = .live ∧
      c.Queued 1 (.discard ⟨2, 1⟩) (stalledSetting.start.run stalled).line [] ∧
      (stalledSetting.start.run stalled).table.entries = [] ∧
      (c.step (.abandon 1)).line = (stalledSetting.start.run stalled).line ∧
      (c.step (.abandon 1)).table.entries = [(2, ⟨1, .dropped⟩)] := by
  have busy : (stalledSetting.start.run stalled).line ≠ [] := by decide
  exact ⟨by decide, ⟨⟨_, rfl⟩, fun none => absurd none busy⟩, by decide, by decide, by decide⟩

end Connection
end ServiceMux
