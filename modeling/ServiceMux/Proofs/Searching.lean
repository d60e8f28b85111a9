import ServiceMux.Proofs.Allocating
/-! The search for a free id as it goes on, one id after the other, until one is free; nothing else
bounds it. Main statements: what is allocated is what the search comes to (`allocateSearches`), the
search passes over each outstanding id once at most (`searchShort`) and comes to the first free id
around the circle (`searchFirst`), and it ends unless all ids are outstanding (`searchEnds`). -/
namespace ServiceMux.PendingTable

/-- From an id on, the counter passes over these ids, which are outstanding, to one that is free. -/
inductive Searches (t : PendingTable) : UInt32 → List UInt32 → UInt32 → Prop where
  | found {id : UInt32} (free : t.get? id = none) : Searches t id [] id
  | passed {id free : UInt32} {slot : Slot} {skipped : List UInt32} (taken : t.get? id = some slot)
      (onward : Searches t (t.successor id) skipped free) : Searches t id (id :: skipped) free

/-- All ids in the order in which the search looks at them: those from the counter on, then those
before it. -/
def circle (t : PendingTable) : List UInt32 :=
  t.ids.drop (t.next.toNat - 1) ++ t.ids.take (t.next.toNat - 1)

def isFree (t : PendingTable) (id : UInt32) : Bool := (t.get? id).isNone

variable {t : PendingTable} {id free : UInt32} {skipped : List UInt32}

theorem searchedFree (h : t.Searches id skipped free) : t.get? free = none := by
  induction h with
  | found free => exact free
  | passed taken onward ih => exact ih

theorem searchedTaken (h : t.Searches id skipped free) :
    ∀ other ∈ skipped, ∃ slot, t.get? other = some slot := by
  induction h with
  | found => simp
  | passed taken onward ih =>
    intro other member
    rcases List.mem_cons.mp member with rfl | later
    · exact ⟨_, taken⟩
    · exact ih other later

theorem searchUnique {skipped' : List UInt32} {free' : UInt32} (h : t.Searches id skipped free)
    (h' : t.Searches id skipped' free') : skipped = skipped' ∧ free = free' := by
  induction h generalizing skipped' with
  | found here =>
    cases h' with
    | found => exact ⟨rfl, rfl⟩
    | passed taken => simp [here] at taken
  | passed taken onward ih =>
    cases h' with
    | found here => simp [taken] at here
    | passed _ onward' =>
      obtain ⟨same, last⟩ := ih onward'
      exact ⟨congrArg _ same, last⟩

theorem searchAround (h : t.Searches id skipped free) :
    skipped = (List.range skipped.length).map (t.around id) ∧
      free = t.around id skipped.length := by
  induction h with
  | found => simp [around]
  | passed taken onward ih =>
    obtain ⟨steps, last⟩ := ih
    refine ⟨?_, last⟩
    rw [List.length_cons, List.range_succ_eq_map, List.map_cons, List.map_map]
    exact congrArg _ steps

/-! With a bound, as it is carried out. -/

theorem firstFreeSearches {fuel : Nat} (h : t.firstFree fuel id = some free) :
    ∃ skipped, t.Searches id skipped free ∧ skipped.length < fuel := by
  induction fuel generalizing id with
  | zero => simp [firstFree] at h
  | succ fuel ih =>
    simp only [firstFree] at h
    split at h
    · rename_i here
      cases h
      exact ⟨[], .found here, by simp⟩
    · rename_i taken
      obtain ⟨skipped, onward, short⟩ := ih h
      exact ⟨_, .passed taken onward, by simpa using short⟩

theorem allocateSearches {t' : PendingTable} (h : t.allocate = .ok (free, t')) :
    ∃ skipped, t.Searches t.next skipped free ∧ skipped.length ≤ t.size := by
  unfold allocate at h
  split at h
  · contradiction
  · split at h
    · rename_i found
      cases h
      obtain ⟨skipped, search, short⟩ := firstFreeSearches found
      exact ⟨skipped, search, by omega⟩
    · contradiction

theorem allocatesUnless (h : t.Within) (distinct : t.Distinct) (room : ¬t.Exhausted) :
    ∃ id, t.allocate = .ok (id, { t with next := t.successor id }) := by
  rw [← fullIff h distinct] at room
  obtain ⟨id, found⟩ := firstFreeFinds h (by omega)
  exact ⟨id, by simp [allocate, room, found]⟩

/-! Around the circle. -/

theorem searchedInLimit (start : t.InLimit id) (h : t.Searches id skipped free) :
    t.InLimit free := by
  have limit : 1 ≤ t.limit := UInt32.le_trans start.1 start.2
  induction h with
  | found => exact start
  | passed taken onward ih => exact ih (successorInLimit limit _)

theorem searchEnds (h : t.Within) (distinct : t.Distinct) :
    (∃ skipped id, t.Searches t.next skipped id) ↔ ¬t.Exhausted := by
  constructor
  · rintro ⟨skipped, id, search⟩ exhausted
    obtain ⟨slot, taken⟩ := exhausted id (searchedInLimit h.next search)
    have free := searchedFree search
    simp [distinct.get.mpr taken] at free
  · intro room
    obtain ⟨id, ok⟩ := allocatesUnless h distinct room
    obtain ⟨skipped, search, -⟩ := allocateSearches ok
    exact ⟨skipped, id, search⟩

theorem searchAllocates (h : t.Within) (distinct : t.Distinct)
    (search : t.Searches t.next skipped id) :
    t.allocate = .ok (id, { t with next := t.successor id }) := by
  obtain ⟨id', ok⟩ := allocatesUnless h distinct ((searchEnds h distinct).mp ⟨skipped, id, search⟩)
  obtain ⟨skipped', search', -⟩ := allocateSearches ok
  obtain ⟨-, rfl⟩ := searchUnique search search'
  exact ok

theorem searchShort (h : t.Within) (distinct : t.Distinct)
    (search : t.Searches t.next skipped id) : skipped.length ≤ t.size := by
  obtain ⟨skipped', search', short⟩ := allocateSearches (searchAllocates h distinct search)
  obtain ⟨rfl, -⟩ := searchUnique search search'
  exact short

theorem idsAt {k : Nat} (inside : k < t.ids.length) : t.ids[k].toNat = k + 1 := by
  have member : k + 1 ∈ List.range' 1 t.limit.toNat := by
    simp only [idsLength] at inside
    simp
    omega
  simp only [ids, List.getElem_map, List.getElem_range']
  rw [Nat.one_mul, Nat.add_comm]
  exact (ofNatExact member).1

theorem circleAround (h : t.InLimit t.next) :
    t.circle = (List.range t.limit.toNat).map (t.around t.next) := by
  obtain ⟨positive, bounded⟩ := inLimitIff.mp h
  refine List.ext_getElem ?_ fun k inside _ => UInt32.toNat_inj.mp ?_
  · simp [circle, idsLength]
    omega
  · -- The k-th id is one from the counter on, or one of those before it.
    have within : k < t.limit.toNat := by
      simp [circle, idsLength] at inside
      omega
    simp only [circle, List.getElem_append, List.getElem_map, List.getElem_range,
      List.length_drop, idsLength]
    rw [aroundTurns h]
    split
    · rename_i before
      rw [List.getElem_drop, idsAt, Nat.mod_eq_of_lt (by omega)]
    · rename_i wrapped
      rw [List.getElem_take, idsAt, Nat.mod_eq_sub_mod (by omega), Nat.mod_eq_of_lt (by omega)]
      omega

example : ((ofLimit 4).after [.allocate, .allocate]).circle = [3, 4, 1, 2] := by decide

theorem searchFirst (h : t.InLimit t.next) (search : t.Searches t.next skipped id)
    (short : skipped.length < t.limit.toNat) : t.circle.find? t.isFree = some id := by
  obtain ⟨steps, last⟩ := searchAround search
  obtain ⟨later, split⟩ : ∃ later, t.limit.toNat = skipped.length + (later + 1) :=
    ⟨t.limit.toNat - skipped.length - 1, by omega⟩
  have looked : ∃ rest, t.circle = skipped ++ id :: rest := by
    rw [circleAround h, split, List.range_add, List.range_succ_eq_map, List.map_append, ← steps,
      List.map_cons, List.map_cons, Nat.add_zero, ← last]
    exact ⟨_, rfl⟩
  obtain ⟨rest, parts⟩ := looked
  have passed : ∀ other ∈ skipped, t.isFree other = false := by
    intro other member
    obtain ⟨slot, taken⟩ := searchedTaken search other member
    simp [isFree, taken]
  simp only [List.find?_eq_some_iff_append]
  exact ⟨by simp [isFree, searchedFree search], skipped, rest, parts, by simpa using passed⟩

theorem allocatesFirstFree (limit : UInt32) (operations : List Operation) :
    let t := (ofLimit limit).after operations
    t.limit = max limit 1 ∧
      (t.allocate = .error (.idsExhausted t.limit) ↔ t.Exhausted) ∧
      (t.Exhausted → t.perform .allocate = t) ∧
      ((∃ skipped id, t.Searches t.next skipped id) ↔ ¬t.Exhausted) ∧
      ∀ skipped id, t.Searches t.next skipped id →
        skipped.length + 1 ≤ t.size + 1 ∧ t.circle.find? t.isFree = some id ∧
          t.allocate = .ok (id, { t with next := t.successor id }) ∧
          (t.successor id).toNat = id.toNat % t.limit.toNat + 1 := by
  intro t
  have within : t.Within := afterWithin limit operations
  have distinct : t.Distinct := afterDistinct limit operations
  refine ⟨afterLimit _ operations, exhaustedIff within distinct, fun exhausted => ?_,
    searchEnds within distinct, fun skipped id search => ?_⟩
  · simp [perform, (exhaustedIff within distinct).mpr exhausted]
  · have short := searchShort within distinct search
    have room : ¬t.Exhausted := (searchEnds within distinct).mp ⟨skipped, id, search⟩
    rw [← fullIff within distinct] at room
    exact ⟨by omega, searchFirst within.next search (by omega),
      searchAllocates within distinct search,
      successorTurns (searchedInLimit within.next search)⟩

end ServiceMux.PendingTable
