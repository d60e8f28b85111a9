import ServiceMux.PendingTable
import Mathlib.Data.List.Nodup
/-! What is outstanding: no id and no ticket is on the table twice, and no ticket is handed out
twice. Main statements: what each operation does to the entries (`registered`, `memTake`,
`memCancel`), and that all of them keep the entries apart. -/
namespace ServiceMux.PendingTable

structure Distinct (t : PendingTable) : Prop where
  ids : (t.entries.map Prod.fst).Nodup
  tickets : (t.entries.map fun e => e.2.ticket).Nodup
  issued : ∀ e ∈ t.entries, e.2.ticket < t.nextTicket

theorem ofLimitDistinct (limit : UInt32) : (ofLimit limit).Distinct :=
  ⟨by simp [ofLimit], by simp [ofLimit], by simp [ofLimit]⟩

variable {t t' : PendingTable}

theorem Distinct.sublist (h : t.Distinct) (entries : t'.entries.Sublist t.entries)
    (tickets : t'.nextTicket = t.nextTicket) : t'.Distinct :=
  ⟨h.ids.sublist (entries.map _), h.tickets.sublist (entries.map _),
    fun e member => by rw [tickets]; exact h.issued e (entries.subset member)⟩

theorem Distinct.sameTicket (h : t.Distinct) {a b : UInt32 × Slot} (left : a ∈ t.entries)
    (right : b ∈ t.entries) (same : a.2.ticket = b.2.ticket) : a = b :=
  List.inj_on_of_nodup_map h.tickets left right same

theorem Distinct.sameId (h : t.Distinct) {a b : UInt32 × Slot} (left : a ∈ t.entries)
    (right : b ∈ t.entries) (same : a.1 = b.1) : a = b :=
  List.inj_on_of_nodup_map h.ids left right same

theorem memOfGet {id : UInt32} {slot : Slot} (h : t.get? id = some slot) :
    (id, slot) ∈ t.entries := by
  obtain ⟨front, back, split, _⟩ := List.lookup_eq_some_iff.mp h
  simp [split]

theorem Distinct.get (h : t.Distinct) {id : UInt32} {slot : Slot} :
    t.get? id = some slot ↔ (id, slot) ∈ t.entries := by
  refine ⟨memOfGet, fun member => ?_⟩
  cases found : t.get? id with
  | none =>
    have absent := List.lookup_eq_none_iff.mp found _ member
    simp at absent
  | some other =>
    have same := h.sameId (memOfGet found) member rfl
    rw [(Prod.mk.inj same).2]

theorem freeOfGet {id : UInt32} (h : t.get? id = none) : ∀ e ∈ t.entries, e.1 ≠ id := by
  intro e member same
  have absent := List.lookup_eq_none_iff.mp h e member
  simp [same] at absent

/-! Handing out. -/

theorem firstFreeIsFree {fuel : Nat} {id free : UInt32} (h : t.firstFree fuel id = some free) :
    t.get? free = none := by
  induction fuel generalizing id with
  | zero => simp [firstFree] at h
  | succ fuel ih =>
    simp only [firstFree] at h
    split at h
    · cases h; assumption
    · exact ih h

theorem allocated {id : UInt32} (h : t.allocate = .ok (id, t')) :
    t.get? id = none ∧ t' = { t with next := t.successor id } := by
  simp only [allocate] at h
  split at h
  · contradiction
  · split at h
    · rename_i found
      cases h
      exact ⟨firstFreeIsFree found, rfl⟩
    · contradiction

theorem registered {fate : Fate} {r : Registration} (h : t.register fate = .ok (r, t')) :
    t.closed = false ∧ r.ticket = t.nextTicket ∧ t.get? r.correlationId = none ∧
      t' = { t with
        entries := t.entries ++ [(r.correlationId, ⟨r.ticket, fate⟩)]
        next := t.successor r.correlationId
        nextTicket := t.nextTicket + 1 } := by
  simp only [register] at h
  split at h
  · contradiction
  · rename_i accepting
    split at h
    · contradiction
    · rename_i id after found
      obtain ⟨free, rfl⟩ := allocated found
      cases h
      exact ⟨by simpa using accepting, rfl, free, rfl⟩

theorem Distinct.register (h : t.Distinct) {fate : Fate} {r : Registration}
    (ok : t.register fate = .ok (r, t')) : t'.Distinct := by
  obtain ⟨_, ticket, free, rfl⟩ := registered ok
  have unused := freeOfGet free
  refine ⟨?_, ?_, ?_⟩
  · simp only [List.map_append, List.map_cons, List.map_nil, List.nodup_append, h.ids, true_and]
    simpa using fun id slot member => unused _ member
  · simp only [List.map_append, List.map_cons, List.map_nil, List.nodup_append, h.tickets, true_and]
    simp only [List.nodup_singleton, List.mem_map, List.mem_singleton, true_and]
    rintro _ ⟨e, member, rfl⟩ _ rfl
    have := h.issued e member
    omega
  · intro e member
    rcases List.mem_append.mp member with old | new
    · have := h.issued e old
      simp only
      omega
    · simp only [List.mem_singleton] at new
      subst new
      simp only
      omega

/-! Removing. -/

theorem eraseSublist (t : PendingTable) (id : UInt32) : (t.erase id).entries.Sublist t.entries :=
  List.filter_sublist

theorem memErase {id : UInt32} {e : UInt32 × Slot} :
    e ∈ (t.erase id).entries ↔ e ∈ t.entries ∧ e.1 ≠ id := by
  simp [erase, List.mem_filter]

theorem memTake {id : UInt32} {e : UInt32 × Slot} :
    e ∈ (t.take id).2.entries ↔ e ∈ t.entries ∧ e.1 ≠ id := by
  unfold take
  split
  · exact memErase
  · rename_i free
    exact ⟨fun member => ⟨member, freeOfGet free e member⟩, And.left⟩

theorem takeFrees (t : PendingTable) (id : UInt32) : (t.take id).2.get? id = none := by
  cases found : (t.take id).2.get? id with
  | none => rfl
  | some slot => exact absurd rfl (memTake.mp (memOfGet found)).2

theorem Distinct.holds (h : t.Distinct) {r : Registration} :
    t.holds r = true ↔ ∃ fate, (r.correlationId, ⟨r.ticket, fate⟩) ∈ t.entries := by
  unfold PendingTable.holds
  constructor
  · intro held
    split at held
    · rename_i slot found
      obtain ⟨ticket, fate⟩ := slot
      obtain rfl : ticket = r.ticket := by simpa using held
      exact ⟨fate, memOfGet found⟩
    · contradiction
  · rintro ⟨fate, member⟩
    rw [h.get.mpr member]
    simp

theorem Distinct.memCancel (h : t.Distinct) {r : Registration} {e : UInt32 × Slot} :
    e ∈ (t.cancel r).2.entries ↔
      e ∈ t.entries ∧ ¬(e.1 = r.correlationId ∧ e.2.ticket = r.ticket) := by
  unfold cancel
  split
  · rename_i held
    obtain ⟨fate, member⟩ := h.holds.mp held
    rw [memTake]
    refine ⟨fun ⟨inside, other⟩ => ⟨inside, fun same => other same.1⟩, fun ⟨inside, other⟩ => ?_⟩
    refine ⟨inside, fun same => other ⟨same, ?_⟩⟩
    rw [h.sameId inside member same]
  · rename_i free
    refine ⟨fun inside => ⟨inside, fun same => free (h.holds.mpr ⟨e.2.fate, ?_⟩)⟩, And.left⟩
    rw [← same.1, ← same.2]
    exact inside

theorem cancelOwn {r : Registration} {fate : Fate}
    (entry : t.get? r.correlationId = some ⟨r.ticket, fate⟩) :
    t.holds r = true ∧ t.cancel r = (some ⟨r.ticket, fate⟩, t.erase r.correlationId) := by
  have held : t.holds r = true := by
    unfold holds
    rw [entry]
    exact beq_self_eq_true _
  refine ⟨held, ?_⟩
  unfold cancel take
  rw [if_pos held, entry]

@[simp] theorem takeNextTicket (t : PendingTable) (id : UInt32) :
    (t.take id).2.nextTicket = t.nextTicket := by
  unfold take; split <;> rfl

@[simp] theorem cancelNextTicket (t : PendingTable) (r : Registration) :
    (t.cancel r).2.nextTicket = t.nextTicket := by
  unfold cancel; split <;> simp

@[simp] theorem takeClosed (t : PendingTable) (id : UInt32) : (t.take id).2.closed = t.closed := by
  unfold take; split <;> rfl

@[simp] theorem cancelClosed (t : PendingTable) (r : Registration) :
    (t.cancel r).2.closed = t.closed := by
  unfold cancel; split <;> simp

theorem takeShape (t : PendingTable) (id : UInt32) :
    (t.take id).2 = { t with entries := (t.take id).2.entries } := by
  unfold take; split <;> rfl

theorem cancelShape (t : PendingTable) (r : Registration) :
    (t.cancel r).2 = { t with entries := (t.cancel r).2.entries } := by
  unfold cancel
  split
  · exact takeShape t r.correlationId
  · rfl

theorem takeSublist (t : PendingTable) (id : UInt32) :
    (t.take id).2.entries.Sublist t.entries := by
  unfold take
  split
  · exact eraseSublist t id
  · exact .refl _

theorem cancelSublist (t : PendingTable) (r : Registration) :
    (t.cancel r).2.entries.Sublist t.entries := by
  unfold cancel
  split
  · exact takeSublist t _
  · exact .refl _

theorem Distinct.take (h : t.Distinct) (id : UInt32) : (t.take id).2.Distinct :=
  h.sublist (takeSublist t id) (takeNextTicket t id)

theorem Distinct.cancel (h : t.Distinct) (r : Registration) : (t.cancel r).2.Distinct :=
  h.sublist (cancelSublist t r) (cancelNextTicket t r)

theorem memAwaited {ticket : Nat} :
    ticket ∈ t.awaited ↔ ∃ id, (id, ⟨ticket, .awaited⟩) ∈ t.entries := by
  simp only [awaited, List.mem_filterMap]
  constructor
  · rintro ⟨⟨id, slot⟩, member, found⟩
    obtain ⟨ticket, fate⟩ := slot
    simp only [Option.ite_none_right_eq_some, Option.some.injEq] at found
    obtain ⟨rfl, rfl⟩ := found
    exact ⟨id, member⟩
  · rintro ⟨id, member⟩
    exact ⟨_, member, by simp⟩

end ServiceMux.PendingTable
