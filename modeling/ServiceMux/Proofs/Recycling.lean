import ServiceMux.Proofs.Searching
/-! How late an id comes back. Main statements: in the course of any operations the counter goes
around the circle, and each id it comes to is handed out or passed over (`runAround`); so before an
id is handed out again, it has come to all others (`reusedLate`). -/
namespace ServiceMux.PendingTable

/-- The ids that are handed out, one after the other. -/
def handOuts (t : PendingTable) : List Operation → List UInt32
  | [] => []
  | o :: rest => (t.handsOut? o).toList ++ (t.perform o).handOuts rest

/-- The search for the id that is handed out passes over this one. -/
def PassesOver (t : PendingTable) (o : Operation) (other : UInt32) : Prop :=
  ∃ skipped id, t.handsOut? o = some id ∧ t.Searches t.next skipped id ∧ other ∈ skipped

/-- The counter comes to this id. -/
def Visits (t : PendingTable) (operations : List Operation) (id : UInt32) : Prop :=
  id ∈ t.handOuts operations ∨ ∃ earlier o later,
    operations = earlier ++ o :: later ∧ (t.after earlier).PassesOver o id

variable {t t' : PendingTable} {o : Operation} {id other : UInt32} {operations : List Operation}

theorem handOutsAppend (t : PendingTable) (operations later : List Operation) :
    t.handOuts (operations ++ later) =
      t.handOuts operations ++ (t.after operations).handOuts later := by
  induction operations generalizing t with
  | nil => rfl
  | cons o rest ih =>
    simp only [List.cons_append, handOuts, ih, List.append_assoc]
    rfl

theorem Visits.later {rest : List Operation} (h : (t.perform o).Visits rest id) :
    t.Visits (o :: rest) id := by
  rcases h with handed | ⟨earlier, o', later, split, passes⟩
  · exact .inl (by simp [handOuts, handed])
  · exact .inr ⟨o :: earlier, o', later, by simp [split], passes⟩

theorem Visits.earlier (h : t.Visits operations id) (later : List Operation) :
    t.Visits (operations ++ later) id := by
  rcases h with handed | ⟨before, o, after, split, passes⟩
  · exact .inl (by simp [handOutsAppend, handed])
  · exact .inr ⟨before, o, after ++ later, by simp [split], passes⟩

theorem passedTaken (h : t.PassesOver o other) : ∃ slot, (other, slot) ∈ t.entries := by
  obtain ⟨skipped, id, handed, search, member⟩ := h
  obtain ⟨slot, taken⟩ := searchedTaken search other member
  exact ⟨slot, memOfGet taken⟩

/-! Around the circle, one operation after the other. -/

theorem successorLimit (same : t'.limit = t.limit) (id : UInt32) :
    t'.successor id = t.successor id := by
  simp [successor, same]

theorem aroundLimit (same : t'.limit = t.limit) (id : UInt32) (k : Nat) :
    t'.around id k = t.around id k := by
  induction k generalizing id with
  | zero => rfl
  | succ k ih => simp [around, ih, successorLimit same]

theorem aroundAdd (t : PendingTable) (id : UInt32) (n k : Nat) :
    t.around id (n + k) = t.around (t.around id n) k := by
  induction n generalizing id with
  | zero => simp [around]
  | succ n ih =>
    rw [Nat.succ_add]
    exact ih _

theorem aroundBack (h : t.InLimit id) {n : Nat} (moved : 0 < n) (back : t.around id n = id) :
    t.limit.toNat ≤ n := by
  have turns : (t.around id n).toNat = (t.around id 0).toNat := congrArg _ back
  rw [aroundTurns h, aroundTurns h, Nat.add_right_cancel_iff] at turns
  have round : n ≡ 0 [MOD t.limit.toNat] := Nat.ModEq.add_left_cancel' _ turns
  exact Nat.le_of_dvd moved (Nat.modEq_zero_iff_dvd.mp round)

theorem circleMem : other ∈ t.circle ↔ t.InLimit other := by
  rw [circle, List.mem_append, or_comm, ← List.mem_append, List.take_append_drop, memIds]

theorem aroundReaches (h : t.InLimit t.next) (within : t.InLimit other) :
    ∃ k < t.limit.toNat, t.around t.next k = other := by
  have member := circleMem.mpr within
  rw [circleAround h] at member
  simpa using member

theorem registerSearches {fate : Fate} {r : Registration} (h : t.register fate = .ok (r, t')) :
    ∃ skipped, t.Searches t.next skipped r.correlationId := by
  unfold register at h
  split at h
  · contradiction
  · split at h
    · contradiction
    · rename_i found
      cases h
      obtain ⟨skipped, search, -⟩ := allocateSearches found
      exact ⟨skipped, search⟩

theorem handsOutSearches (h : t.handsOut? o = some id) :
    (t.perform o).next = t.successor id ∧ ∃ skipped, t.Searches t.next skipped id := by
  cases o with
  | allocate =>
    simp only [handsOut?] at h
    split at h
    · rename_i ok
      cases h
      obtain ⟨skipped, search, -⟩ := allocateSearches ok
      simp only [perform, ok]
      rw [(allocated ok).2]
      exact ⟨rfl, skipped, search⟩
    · contradiction
  | register fate =>
    simp only [handsOut?, makes?] at h
    split at h
    · rename_i ok
      cases h
      simp only [perform, ok]
      rw [(registered ok).2.2.2]
      exact ⟨rfl, registerSearches ok⟩
    · contradiction
  | take | cancel | close => contradiction

theorem idleNext (h : t.handsOut? o = none) : (t.perform o).next = t.next := by
  have done := outcome t o
  generalize t.perform o = t' at done ⊢
  cases done with
  | failed | closed => rfl
  | allocated ok => simp [handsOut?, ok] at h
  | registered ok => simp [handsOut?, makes?, ok] at h
  | taken id => rw [t.takeShape id]
  | cancelled r => rw [t.cancelShape r]

theorem performAround (t : PendingTable) (o : Operation) :
    ∃ n, (t.handsOut? o).toList.length ≤ n ∧ (t.perform o).next = t.around t.next n ∧
      ∀ k < n, t.Visits [o] (t.around t.next k) := by
  cases handed : t.handsOut? o with
  | none => exact ⟨0, by simp, idleNext handed, by simp⟩
  | some id =>
    obtain ⟨next, skipped, search⟩ := handsOutSearches handed
    obtain ⟨steps, last⟩ := searchAround search
    refine ⟨skipped.length + 1, by simp, ?_, fun k below => ?_⟩
    · rw [next, aroundAdd, ← last]
      rfl
    · by_cases here : k = skipped.length
      · exact .inl (by simp [handOuts, handed, here, last])
      · have passed : t.around t.next k ∈ skipped := by
          rw [steps]
          exact List.mem_map_of_mem (List.mem_range.mpr (by omega))
        exact .inr ⟨[], o, [], rfl, skipped, id, handed, search, passed⟩

theorem runAround (t : PendingTable) (operations : List Operation) :
    ∃ n, (t.handOuts operations).length ≤ n ∧ (t.after operations).next = t.around t.next n ∧
      ∀ k < n, t.Visits operations (t.around t.next k) := by
  induction operations generalizing t with
  | nil => exact ⟨0, by simp [handOuts], rfl, by simp⟩
  | cons o rest ih =>
    obtain ⟨n, handed, next, first⟩ := performAround t o
    obtain ⟨m, handed', next', later⟩ := ih (t.perform o)
    have further (k : Nat) :
        (t.perform o).around (t.perform o).next k = t.around t.next (n + k) := by
      rw [aroundLimit (performLimit t o), next, aroundAdd]
    refine ⟨n + m, ?_, ?_, fun k below => ?_⟩
    · simp only [handOuts, List.length_append]
      omega
    · rw [← further, ← next']
      rfl
    · by_cases early : k < n
      · exact (first k early).earlier rest
      · have visits := later (k - n) (by omega)
        rw [further, Nat.add_sub_cancel' (by omega)] at visits
        exact visits.later

/-! What is not handed out has been outstanding since the start. -/

theorem outstandingHandedOut {r : Registration} {fate : Fate}
    (h : Outstanding t operations r fate) : r.correlationId ∈ t.handOuts operations := by
  induction h with
  | made ok kept => simp [handOuts, handsOut?, makesOne ok]
  | later next ih => simp [handOuts, ih]

theorem outstandingSince (distinct : t.Distinct) {slot : Slot}
    (member : (id, slot) ∈ (t.after operations).entries) :
    id ∈ t.entries.map Prod.fst ∨ id ∈ t.handOuts operations := by
  have held : entry ⟨id, slot.ticket⟩ slot.fate ∈ (t.after operations).entries := member
  rcases (onTable distinct operations).mp held with ⟨old, -⟩ | made
  · exact .inl (List.mem_map.mpr ⟨_, old, rfl⟩)
  · exact .inr (outstandingHandedOut made)

theorem visitedAll {first second : Operation} {between : List Operation} (within : t.Within)
    (handed : t.handsOut? first = some id)
    (again : ((t.perform first).after between).handsOut? second = some id)
    (inLimit : t.InLimit other) : (t.perform first).Visits (between ++ [second]) other := by
  have later := within.perform first
  have limit : (t.perform first).limit = t.limit := performLimit t first
  have ended : ((t.perform first).after between).limit = t.limit :=
    (afterLimit _ between).trans limit
  obtain ⟨n, many, around, visits⟩ := runAround (t.perform first) (between ++ [second])
  have moved : 0 < n := by
    simp [handOutsAppend, handOuts, again] at many
    omega
  have back : (t.perform first).around (t.perform first).next n = (t.perform first).next := by
    rw [← around, (handsOutSearches handed).1]
    have last := (handsOutSearches again).1
    rw [successorLimit ended] at last
    rw [← last]
    simp [after]
  -- The counter is back where it was, so it has come to every id.
  have round := aroundBack later.next moved back
  obtain ⟨k, below, rfl⟩ := aroundReaches later.next (by simpa [InLimit, limit] using inLimit)
  exact visits k (by omega)

theorem beforeLast {between earlier later : List Operation} {second : Operation}
    (split : between ++ [second] = earlier ++ o :: later) : ∃ rest, between = earlier ++ rest := by
  have inside : earlier <+: between ++ [second] := ⟨o :: later, split.symm⟩
  rcases List.prefix_concat_iff.mp inside with whole | ⟨rest, same⟩
  · simp [whole] at split
  · exact ⟨rest, same.symm⟩

theorem handedOrPassed {start : PendingTable} {between : List Operation} {second : Operation}
    (again : (start.after between).handsOut? second = some id) (another : other ≠ id)
    (visits : start.Visits (between ++ [second]) other) :
    other ∈ start.handOuts between ∨ ∃ earlier o later slot,
      between ++ [second] = earlier ++ o :: later ∧ (start.after earlier).PassesOver o other ∧
        (other, slot) ∈ (start.after earlier).entries := by
  rcases visits with came | ⟨earlier, o, later, split, passes⟩
  · rw [handOutsAppend] at came
    rcases List.mem_append.mp came with came | last
    · exact .inl came
    · simp [handOuts, again] at last
      exact absurd last another
  · obtain ⟨slot, taken⟩ := passedTaken passes
    exact .inr ⟨earlier, o, later, slot, split, passes, taken⟩

theorem reusedLate (limit : UInt32) (before between : List Operation) {first second : Operation}
    {id : UInt32} (handed : ((ofLimit limit).after before).handsOut? first = some id)
    (again : ((((ofLimit limit).after before).perform first).after between).handsOut? second =
      some id) :
    let t := (ofLimit limit).after before
    let start := t.perform first
    (∀ other, t.InLimit other → other ≠ id →
        other ∈ start.handOuts between ∨ ∃ earlier o later slot,
          between ++ [second] = earlier ++ o :: later ∧
            (start.after earlier).PassesOver o other ∧
            (other, slot) ∈ (start.after earlier).entries) ∧
      ∀ k, start.size ≤ k →
        t.limit.toNat - 1 - k ≤ ((start.handOuts between).filter (· != id)).length := by
  intro t start
  have within : t.Within := afterWithin limit before
  have distinct : start.Distinct := (afterDistinct limit before).perform first
  have others (other : UInt32) (inLimit : t.InLimit other) (another : other ≠ id) :=
    handedOrPassed again another (visitedAll within handed again inLimit)
  refine ⟨others, fun k few => ?_⟩
  -- An id that was passed over was outstanding then: from the first, or it was handed out since.
  have accounted : t.ids ⊆
      id :: ((start.handOuts between).filter (· != id) ++ start.entries.map Prod.fst) := by
    intro other member
    by_cases another : other = id
    · simp [another]
    · have among : other ∈ start.handOuts between ∨ other ∈ start.entries.map Prod.fst := by
        rcases others other (memIds.mp member) another with came | passed
        · exact .inl came
        · obtain ⟨earlier, o, later, slot, split, -, held⟩ := passed
          obtain ⟨rest, rfl⟩ := beforeLast split
          rcases outstandingSince distinct held with old | new
          · exact .inr old
          · exact .inl (by simp [handOutsAppend, new])
      simpa [another] using among
  have counted := (List.subperm_of_subset t.idsNodup accounted).length_le
  have size : start.size = start.entries.length := rfl
  simp only [idsLength, List.length_cons, List.length_append, List.length_map] at counted
  omega

/-- On its way back to 2 the counter comes to 3, and passes over 1, which is still awaited. -/
theorem comesBackToTwo :
    let t := (ofLimit 3).after [.register .awaited]
    let start := t.perform (.register .dropped)
    let between : List Operation := [.take 2, .allocate]
    t.handsOut? (.register .dropped) = some 2 ∧
      (start.after between).handsOut? .allocate = some 2 ∧ start.handOuts between = [3] ∧
      (∀ other, t.InLimit other → other ≠ 2 →
        other ∈ start.handOuts between ∨ ∃ earlier o later slot,
          between ++ [.allocate] = earlier ++ o :: later ∧
            (start.after earlier).PassesOver o other ∧
            (other, slot) ∈ (start.after earlier).entries) ∧
      ∀ k, start.size ≤ k →
        t.limit.toNat - 1 - k ≤ ((start.handOuts between).filter (· != 2)).length := by
  intro t start between
  have handed : t.handsOut? (.register .dropped) = some 2 := by decide
  have again : (start.after between).handsOut? .allocate = some 2 := by decide
  exact ⟨handed, again, by decide, reusedLate 3 [.register .awaited] between handed again⟩

end ServiceMux.PendingTable
