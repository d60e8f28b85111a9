import ServiceMux.Bench.Datastream
import ServiceMux.Proofs.Waiters
/-! Frames in another order. Main statements: a frame finds what it found before frames with other
ids (`findsAfter`), so frames with different ids can change places (`routeSwap`), and all frames can
come in any order that keeps the order of those with one id (`anyOrder`). -/
namespace ServiceMux

/-- The same frames, and those with one id in the same order. -/
structure Reorders (ys xs : List Frame) : Prop where
  perm : ys.Perm xs
  order : ∀ id, ys.filter (·.header.correlationId == id) =
    xs.filter (·.header.correlationId == id)

/-- The frame that comes first on one side can be found on the other, behind frames with other
ids only. -/
theorem Reorders.first {ys xs : List Frame} {frame : Frame} (h : Reorders ys (frame :: xs)) :
    ∃ front back, ys = front ++ frame :: back ∧
      (∀ g ∈ front, g.header.correlationId ≠ frame.header.correlationId) ∧
      Reorders (front ++ back) xs := by
  have own := h.order frame.header.correlationId
  rw [List.filter_cons_of_pos (by simp)] at own
  obtain ⟨front, back, rfl, others, _, later⟩ := List.filter_eq_cons_iff.mp own
  have apart : ∀ g ∈ front, g.header.correlationId ≠ frame.header.correlationId :=
    fun g member => by simpa using others g member
  refine ⟨front, back, rfl, apart, (List.perm_middle.symm.trans h.perm).cons_inv, fun id => ?_⟩
  have order := h.order id
  rw [List.filter_append] at order ⊢
  by_cases same : frame.header.correlationId = id
  · subst same
    rw [List.filter_eq_nil_iff.mpr others, List.nil_append, later]
  · simpa only [List.filter_cons, beq_iff_eq, same, if_false] using order

namespace PendingTable

theorem takeErase (t : PendingTable) (id : UInt32) : (t.take id).2 = t.erase id := by
  unfold take
  split
  · rfl
  · rename_i free
    have kept : t.entries.filter (·.1 != id) = t.entries :=
      List.filter_eq_self.mpr fun e member => by simpa using freeOfGet free e member
    unfold erase
    rw [kept]

theorem takeTake (t : PendingTable) (a b : UInt32) :
    ((t.take a).2.take b).2 = ((t.take b).2.take a).2 := by
  simp only [takeErase, erase, List.filter_filter, Bool.and_comm]

theorem getTake {t : PendingTable} (distinct : t.Distinct) {a b : UInt32} (apart : a ≠ b) :
    (t.take a).2.get? b = t.get? b := by
  ext slot
  rw [(distinct.take a).get, distinct.get, memTake]
  exact and_iff_left apart.symm

end PendingTable

variable {μ : Type}

namespace Inbox

/-- The inbox once a frame under this id has brought a result. -/
def answer (t : PendingTable) (id : UInt32) (result : Except ServerError (Reply μ))
    (i : Inbox μ) : Inbox μ :=
  match t.get? id with
  | some ⟨ticket, .awaited⟩ => i.fill ticket result
  | _ => i

variable {t : PendingTable} {a b : UInt32} {x y : Except ServerError (Reply μ)} {i : Inbox μ}

@[simp] theorem answerRegistration : (i.answer t a x).registration = i.registration := by
  unfold answer
  split
  · exact fillRegistration
  · rfl

theorem answerAs {t' : PendingTable} (same : t'.get? a = t.get? a) :
    Inbox.answer t' a x = Inbox.answer t a x := by
  funext i
  simp only [answer, same]

theorem answerAwaited {ticket : Nat} (held : t.get? a = some ⟨ticket, .awaited⟩) :
    Inbox.answer t a x = Inbox.fill ticket x := by
  funext i
  simp only [answer, held]

theorem answerUnawaited (unawaited : ∀ ticket, t.get? a ≠ some ⟨ticket, .awaited⟩) :
    Inbox.answer t a x = fun i => i := by
  funext i
  unfold answer
  split
  · exact absurd ‹_› (unawaited _)
  · rfl

theorem fillFill {m n : Nat} (apart : m ≠ n) :
    (i.fill m x).fill n y = (i.fill n y).fill m x := by
  obtain ⟨r, found⟩ := i
  cases found with
  | some _ => simp [fill]
  | none =>
    by_cases first : r.ticket = m
    · have second : r.ticket ≠ n := fun second => apart (first.symm.trans second)
      simp [fill, first, apart]
    · by_cases second : r.ticket = n <;> simp [fill, first, second, apart.symm]

-- Different ids have different tickets, so the two results go into different inboxes.
theorem answerAnswer (distinct : t.Distinct) (apart : a ≠ b) :
    (i.answer t a x).answer t b y = (i.answer t b y).answer t a x := by
  unfold answer
  cases first : t.get? a <;> cases second : t.get? b <;> try rfl
  rename_i m n
  obtain ⟨m, fate⟩ := m
  obtain ⟨n, fate'⟩ := n
  cases fate <;> cases fate' <;> try rfl
  refine fillFill fun same => apart ?_
  have left := PendingTable.memOfGet first
  have right := PendingTable.memOfGet second
  exact (Prod.mk.inj (distinct.sameTicket left right same)).1

end Inbox

namespace Connection

theorem answeredPerm {c : Connection μ} (apart : c.Apart) (id : UInt32)
    (result : Except ServerError (Reply μ)) :
    (c.answered id result).Perm (c.inboxes.map (Inbox.answer c.table id result)) := by
  unfold answered
  split
  · rename_i ticket found
    rw [Inbox.answerAwaited found]
    exact deliverPerm ticket result apart
  · rename_i unawaited
    rw [Inbox.answerUnawaited unawaited, List.map_id']

/-- The same but for the order of inboxes and of what was reported. -/
structure Alike (d c : Connection μ) : Prop where
  inboxes : d.inboxes.Perm c.inboxes
  warnings : d.warnings.Perm c.warnings
  rest : d = { c with inboxes := d.inboxes, warnings := d.warnings }

namespace Alike
variable {b c d : Connection μ}

theorem refl (c : Connection μ) : c.Alike c := ⟨.refl _, .refl _, rfl⟩

theorem trans (left : d.Alike c) (right : c.Alike b) : d.Alike b := by
  refine ⟨left.inboxes.trans right.inboxes, left.warnings.trans right.warnings, ?_⟩
  rw [left.rest, right.rest]

theorem apart (h : d.Alike c) (apart : c.Apart) : d.Apart :=
  (h.inboxes.map _).nodup_iff.mpr apart

theorem inboxOf (h : d.Alike c) (apart : c.Apart) (r : Registration) :
    d.inboxOf r = c.inboxOf r := by
  ext i
  rw [(h.apart apart).inboxOf, apart.inboxOf, h.inboxes.mem_iff]

theorem finds (h : d.Alike c) (id : UInt32) : d.FindsAs c id := by
  have told (ticket : Nat) (result : Except ServerError (Reply μ)) :
      (d.deliver ticket result).2 = (c.deliver ticket result).2 := by
    rw [Bool.eq_iff_iff, deliverTold, deliverTold]
    simp only [h.inboxes.mem_iff]
  have rest := h.rest
  generalize d.inboxes = inboxes, d.warnings = warnings at rest
  subst rest
  exact ⟨rfl, rfl, rfl, rfl, fun ticket _ => told ticket⟩

end Alike

theorem Coherent.told {c : Connection μ} (h : c.Coherent) {id : UInt32} {ticket : Nat}
    (held : c.table.get? id = some ⟨ticket, .awaited⟩) (result : Except ServerError (Reply μ)) :
    (c.deliver ticket result).2 = true :=
  (deliverTold _ _ _).mpr ⟨_, h.matched.served _ (PendingTable.memOfGet held) rfl, rfl, rfl⟩

section Frames
variable [Message μ] {c d : Connection μ}

theorem tallyAdds (c : Connection μ) (frame : Frame) : ∃ delivered discarded faults, ∀ m,
    c.tally frame m =
      { m with
        repliesDelivered := m.repliesDelivered + delivered
        repliesDiscarded := m.repliesDiscarded + discarded
        protocolErrors := m.protocolErrors + faults } := by
  unfold tally failedTally decodedTally
  dsimp only
  split
  · split
    · split
      · split
        · exact ⟨1, 0, 0, fun _ => rfl⟩
        · exact ⟨0, 1, 0, fun _ => rfl⟩
      · split
        · exact ⟨0, 0, 1, fun _ => rfl⟩
        · exact ⟨0, 1, 1, fun _ => rfl⟩
    · exact ⟨0, 1, 0, fun _ => rfl⟩
  · split
    · exact ⟨0, 1, 1, fun _ => rfl⟩
    · exact ⟨0, 0, 1, fun _ => rfl⟩

theorem tallyTally (c : Connection μ) (f g : Frame) (m : Metrics) :
    c.tally f (c.tally g m) = c.tally g (c.tally f m) := by
  obtain ⟨_, _, _, first⟩ := tallyAdds c f
  obtain ⟨_, _, _, second⟩ := tallyAdds c g
  simp only [first, second, Nat.add_right_comm]

theorem Alike.route (h : d.Alike c) (apart : c.Apart) (frame : Frame) :
    (d.route frame).Alike (c.route frame) := by
  have found := h.finds frame.header.correlationId
  have table : d.table = c.table := by rw [h.rest]
  have metrics : d.metrics = c.metrics := by rw [h.rest]
  have left := answeredPerm (h.apart apart) frame.header.correlationId (d.verdict frame)
  have right := answeredPerm apart frame.header.correlationId (c.verdict frame)
  rw [table, found.verdict] at left
  refine ⟨?_, ?_, ?_⟩
  · simp only [routeEq, found.verdict]
    exact left.trans ((h.inboxes.map _).trans right.symm)
  · simpa only [routeEq, found.reports] using h.warnings.append_right _
  · rw [routeEq d, routeEq c, found.tally, table, metrics, h.rest]

theorem Alike.routeAll (h : d.Alike c) (coherent : c.Coherent) (frames : List Frame) :
    (frames.foldl Connection.route d).Alike (frames.foldl Connection.route c) := by
  induction frames generalizing c d with
  | nil => exact h
  | cons frame rest ih => exact ih (h.route coherent.apart frame) (coherent.route frame)

/-! Two frames with different ids. -/

theorem findsAfter (h : c.Coherent) (frame : Frame) {id : UInt32}
    (apart : frame.header.correlationId ≠ id) : (c.route frame).FindsAs c id := by
  have entry : (c.route frame).table.get? id = c.table.get? id := by
    rw [routeTable, PendingTable.getTake h.matched.distinct apart]
  refine ⟨by rw [routeEq], by rw [routeEq], by rw [routeEq], entry, fun ticket held result => ?_⟩
  rw [(h.route frame).told held, h.told (entry ▸ held)]

theorem routeInboxes (apart : c.Apart) (frame : Frame) : (c.route frame).inboxes.Perm
    (c.inboxes.map (Inbox.answer c.table frame.header.correlationId (c.verdict frame))) := by
  rw [routeEq]
  exact answeredPerm apart _ _

theorem routeTwice (h : c.Coherent) {f g : Frame}
    (apart : f.header.correlationId ≠ g.header.correlationId) :
    ((c.route f).route g).inboxes.Perm (c.inboxes.map fun i =>
        (i.answer c.table f.header.correlationId (c.verdict f)).answer c.table
          g.header.correlationId (c.verdict g)) ∧
      (c.route f).route g =
        { c with
          table := ((c.table.take f.header.correlationId).2.take g.header.correlationId).2
          inboxes := ((c.route f).route g).inboxes
          metrics := c.tally g (c.tally f c.metrics)
          warnings := c.warnings ++ c.reports f ++ c.reports g } := by
  have found := findsAfter h f apart
  constructor
  · have first := (routeInboxes h.apart f).map
      (Inbox.answer (c.route f).table g.header.correlationId ((c.route f).verdict g))
    rw [found.verdict, Inbox.answerAs found.entry, List.map_map] at first
    have second := routeInboxes (h.route f).apart g
    rw [found.verdict, Inbox.answerAs found.entry] at second
    exact second.trans first
  · rw [routeEq (c.route f), found.tally, found.reports, routeEq c f]

theorem routeSwap (h : c.Coherent) {f g : Frame}
    (apart : f.header.correlationId ≠ g.header.correlationId) :
    ((c.route f).route g).Alike ((c.route g).route f) := by
  obtain ⟨filled, left⟩ := routeTwice h apart
  obtain ⟨filled', right⟩ := routeTwice h apart.symm
  have reported : ∀ r s : List Warning, (c.warnings ++ r ++ s).Perm (c.warnings ++ s ++ r) := by
    intro r s
    rw [List.append_assoc, List.append_assoc]
    exact List.perm_append_comm.append_left _
  refine ⟨?_, ?_, ?_⟩
  · simp only [Inbox.answerAnswer h.matched.distinct apart.symm] at filled'
    exact filled.trans filled'.symm
  · rw [left, right]
    exact reported _ _
  · rw [left, right, PendingTable.takeTake, tallyTally]

-- The frame passes those in front of it one by one, from the last to the first.
theorem toFront (h : c.Coherent) {front : List Frame} (back : List Frame) {frame : Frame}
    (apart : ∀ g ∈ front, g.header.correlationId ≠ frame.header.correlationId) :
    ((front ++ frame :: back).foldl route c).Alike
      ((front ++ back).foldl route (c.route frame)) := by
  induction front generalizing c with
  | nil => exact .refl _
  | cons g front ih =>
    obtain ⟨swap, others⟩ := List.forall_mem_cons.mp apart
    have later := ih (h.route g) others
    exact later.trans ((routeSwap h swap).routeAll ((h.route frame).route g) (front ++ back))

theorem reordered (h : c.Coherent) {xs ys : List Frame} (same : Reorders ys xs) :
    (ys.foldl route c).Alike (xs.foldl route c) := by
  induction xs generalizing c ys with
  | nil =>
    rw [same.perm.eq_nil]
    exact .refl c
  | cons frame xs ih =>
    obtain ⟨front, back, rfl, apart, rest⟩ := same.first
    exact (toFront h back apart).trans (ih (h.route frame) rest)

theorem anyOrder (s : Setting μ) (events : List (Event μ)) {xs ys : List Frame}
    (same : Reorders ys xs) :
    let c := s.start.run events
    (ys.foldl route c).Alike (xs.foldl route c) ∧
      ∀ r, (ys.foldl route c).inboxOf r = (xs.foldl route c).inboxOf r := by
  intro c
  have coherent : c.Coherent := runCoherent s events
  have alike := reordered coherent same
  exact ⟨alike, alike.inboxOf (coherent.routeAll xs).apart⟩

end Frames

/-! Two requests. The host answers the first one twice, and the second one in between or before. -/

def bothWait : List (Event Bench.Datastream) :=
  [.addPrototype 0x8001 Bench.ReplyType.pong.prototype,
    .submit 0 .request ⟨0, .request 0x1001 0 [] none⟩,
    .submit 1 .request ⟨0, .request 0x1001 0 [] none⟩]

def pong (id : UInt32) (value : UInt8) : Frame :=
  ⟨⟨24, 0, 0xE008, 0, id, 4, 0x8001⟩, [0, 0, 0, value]⟩

theorem secondAnsweredFirst :
    let c := (⟨1, .command, .empty, {}, none, none⟩ : Setting Bench.Datastream).start.run bothWait
    let xs := [pong 1 7, pong 2 8, pong 1 9]
    let ys := [pong 2 8, pong 1 7, pong 1 9]
    Reorders ys xs ∧ (xs.foldl route c).metrics.repliesDelivered = 2 ∧
      (xs.foldl route c).metrics.repliesDiscarded = 1 ∧
      (ys.foldl route c).Alike (xs.foldl route c) ∧
      ∀ r, (ys.foldl route c).inboxOf r = (xs.foldl route c).inboxOf r := by
  have reorders : Reorders [pong 2 8, pong 1 7, pong 1 9] [pong 1 7, pong 2 8, pong 1 9] := by
    refine ⟨by decide, fun id => ?_⟩
    by_cases first : 1 = id
    · subst first
      rfl
    · simp [pong, List.filter_cons, first]
  exact ⟨reorders, rfl, rfl, anyOrder _ bothWait reorders⟩

end Connection
end ServiceMux
