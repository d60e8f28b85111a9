import Mathlib.Data.List.Perm.Subperm
import Mathlib.Data.Nat.ModEq
import ServiceMux.Proofs.Issuing
/-! The search for a free id: around the circle of ids, one after the other. Main statements: as
many steps as there are ids come to all of them (`aroundTurns`), so a search finds one that is free
unless all are outstanding (`exhaustedIff`). -/
namespace ServiceMux.PendingTable
variable {t : PendingTable} {id : UInt32}

/-- All that can be handed out. -/
def ids (t : PendingTable) : List UInt32 := (List.range' 1 t.limit.toNat).map UInt32.ofNat

def Exhausted (t : PendingTable) : Prop := ∀ id, t.InLimit id → ∃ slot, (id, slot) ∈ t.entries

theorem inLimitIff : t.InLimit id ↔ 1 ≤ id.toNat ∧ id.toNat ≤ t.limit.toNat := by
  simp only [InLimit, UInt32.le_iff_toNat_le, UInt32.toNat_one]

theorem ofNatExact {n : Nat} (within : n ∈ List.range' 1 t.limit.toNat) :
    (UInt32.ofNat n).toNat = n ∧ 1 ≤ n ∧ n ≤ t.limit.toNat := by
  have bound : t.limit.toNat < UInt32.size := t.limit.toNat_lt
  rw [List.mem_range'_1] at within
  exact ⟨UInt32.toNat_ofNat_of_lt' (by omega), by omega, by omega⟩

theorem memIds : id ∈ t.ids ↔ t.InLimit id := by
  rw [inLimitIff]
  simp only [ids, List.mem_map]
  constructor
  · rintro ⟨n, within, rfl⟩
    obtain ⟨exact, range⟩ := ofNatExact within
    rw [exact]
    exact range
  · intro within
    exact ⟨id.toNat, List.mem_range'_1.mpr (by omega), UInt32.ofNat_toNat⟩

theorem idsNodup (t : PendingTable) : t.ids.Nodup := by
  refine List.Nodup.map_on ?_ List.nodup_range'
  intro m within n within' same
  have exact := congrArg UInt32.toNat same
  rwa [(ofNatExact within).1, (ofNatExact within').1] at exact

theorem idsLength (t : PendingTable) : t.ids.length = t.limit.toNat := by
  simp [ids]

theorem memFirsts {entries : List (UInt32 × Slot)} :
    id ∈ entries.map Prod.fst ↔ ∃ slot, (id, slot) ∈ entries := by
  simp

/-- So many entries are on the table as there are ids just when all of them are outstanding. -/
theorem fullIff (h : t.Within) (distinct : t.Distinct) : t.limit.toNat ≤ t.size ↔ t.Exhausted := by
  have size : t.size = (t.entries.map Prod.fst).length := (List.length_map _).symm
  rw [size, ← t.idsLength]
  constructor
  · intro full id within
    by_contra free
    have more : (id :: t.entries.map Prod.fst).Nodup :=
      List.nodup_cons.mpr ⟨fun member => free (memFirsts.mp member), distinct.ids⟩
    have inside : id :: t.entries.map Prod.fst ⊆ t.ids := by
      intro other member
      rcases List.mem_cons.mp member with rfl | held
      · exact memIds.mpr within
      · obtain ⟨e, entry, rfl⟩ := List.mem_map.mp held
        exact memIds.mpr (h.ids e entry)
    have fewer := (List.subperm_of_subset more inside).length_le
    rw [List.length_cons] at fewer
    omega
  · intro exhausted
    refine (List.subperm_of_subset t.idsNodup fun id member => ?_).length_le
    exact memFirsts.mpr (exhausted id (memIds.mp member))

/-! Around the circle. -/

/-- The id so many steps further. -/
def around (t : PendingTable) (id : UInt32) : Nat → UInt32
  | 0 => id
  | k + 1 => t.around (t.successor id) k

theorem successorTurns (h : t.InLimit id) :
    (t.successor id).toNat = id.toNat % t.limit.toNat + 1 := by
  obtain ⟨positive, bounded⟩ := inLimitIff.mp h
  by_cases below : id < t.limit
  · have less := UInt32.lt_iff_toNat_lt.mp below
    rw [(successorExact below).2, Nat.mod_eq_of_lt less]
  · have last : id.toNat = t.limit.toNat := by
      rw [UInt32.lt_iff_toNat_lt] at below
      omega
    unfold successor
    rw [if_pos (by simpa using below), last, Nat.mod_self, UInt32.toNat_one]

theorem aroundTurns (h : t.InLimit id) (k : Nat) :
    (t.around id k).toNat = (id.toNat - 1 + k) % t.limit.toNat + 1 := by
  have limit : 1 ≤ t.limit := UInt32.le_trans h.1 h.2
  induction k generalizing id with
  | zero =>
    obtain ⟨positive, bounded⟩ := inLimitIff.mp h
    rw [around, Nat.mod_eq_of_lt (by omega)]
    omega
  | succ k ih =>
    rw [around, ih (successorInLimit limit id), successorTurns h, Nat.add_sub_cancel,
      Nat.mod_add_mod]
    have positive := (inLimitIff.mp h).1
    congr 2
    omega

/-- The first steps around, fewer than there are ids, come to different ids. -/
theorem aroundApart (h : t.InLimit id) {n : Nat} (fits : n ≤ t.limit.toNat) :
    ((List.range n).map (t.around id)).Nodup := by
  refine List.Nodup.map_on ?_ List.nodup_range
  intro k below l below' same
  have turns := congrArg UInt32.toNat same
  rw [List.mem_range] at below below'
  rw [aroundTurns h, aroundTurns h, Nat.add_right_cancel_iff] at turns
  exact (Nat.ModEq.add_left_cancel' _ turns).eq_of_lt_of_lt (by omega) (by omega)

theorem firstFreeFails {fuel : Nat} (h : t.firstFree fuel id = none) :
    ∀ k < fuel, ∃ slot, t.get? (t.around id k) = some slot := by
  induction fuel generalizing id with
  | zero => nofun
  | succ fuel ih =>
    unfold firstFree at h
    split at h
    · contradiction
    · rename_i slot taken
      intro k below
      cases k with
      | zero => exact ⟨slot, taken⟩
      | succ k => exact ih h k (by omega)

theorem firstFreeFinds (h : t.Within) (room : t.size < t.limit.toNat) :
    ∃ id, t.firstFree (t.size + 1) t.next = some id := by
  cases found : t.firstFree (t.size + 1) t.next with
  | some id => exact ⟨id, rfl⟩
  | none =>
    have inside : (List.range (t.size + 1)).map (t.around t.next) ⊆ t.entries.map Prod.fst := by
      intro id member
      obtain ⟨k, below, rfl⟩ := List.mem_map.mp member
      obtain ⟨slot, taken⟩ := firstFreeFails found k (List.mem_range.mp below)
      exact memFirsts.mpr ⟨slot, memOfGet taken⟩
    have fewer := (List.subperm_of_subset (aroundApart h.next (by omega)) inside).length_le
    simp only [List.length_map, List.length_range] at fewer
    have size : t.size = t.entries.length := rfl
    omega

theorem exhaustedIff (h : t.Within) (distinct : t.Distinct) :
    t.allocate = .error (.idsExhausted t.limit) ↔ t.Exhausted := by
  rw [← fullIff h distinct]
  unfold allocate
  split
  · simp [*]
  · rename_i room
    obtain ⟨id, found⟩ := firstFreeFinds h (by omega)
    simp [found, room]

end ServiceMux.PendingTable
