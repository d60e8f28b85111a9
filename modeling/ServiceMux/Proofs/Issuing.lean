import ServiceMux.Proofs.Outstanding
/-! The life of a table: all that is done to it, one operation after the other. Main statements: ids
stay within the limit (`Within.perform`), tickets number the registrations (`issuedTickets`), on the
table is what was registered and has not been removed since (`onTable`), and an id that is
outstanding is not handed out (`outstandingNotHandedOut`). -/
namespace ServiceMux.PendingTable

inductive Operation where
  | allocate
  | register (fate : Fate)
  | take (id : UInt32)
  | cancel (registration : Registration)
  | close
  deriving DecidableEq, Repr

/-- Whether it takes this registration off a table that has it. -/
def Operation.removes (r : Registration) : Operation → Bool
  | allocate | register _ => false
  | take id => id == r.correlationId
  | cancel other => other == r
  | close => true

/-- An operation that fails leaves the table as it was. -/
def perform (t : PendingTable) : Operation → PendingTable
  | .allocate => match t.allocate with | .ok (_, t) => t | .error _ => t
  | .register fate => match t.register fate with | .ok (_, t) => t | .error _ => t
  | .take id => (t.take id).2
  | .cancel r => (t.cancel r).2
  | .close => t.close

def after (t : PendingTable) (operations : List Operation) : PendingTable :=
  operations.foldl perform t

def makes? (t : PendingTable) : Operation → Option Registration
  | .register fate => match t.register fate with | .ok (r, _) => some r | .error _ => none
  | _ => none

def handsOut? (t : PendingTable) : Operation → Option UInt32
  | .allocate => match t.allocate with | .ok (id, _) => some id | .error _ => none
  | o => (t.makes? o).map Registration.correlationId

def issued (t : PendingTable) : List Operation → List Registration
  | [] => []
  | o :: rest => (t.makes? o).toList ++ (t.perform o).issued rest

def entry (r : Registration) (fate : Fate) : UInt32 × Slot :=
  (r.correlationId, ⟨r.ticket, fate⟩)

theorem entryInj {r r' : Registration} {fate fate' : Fate} :
    entry r fate = entry r' fate' ↔ r = r' ∧ fate = fate' := by
  cases r
  cases r'
  simp [entry, and_assoc]

/-- The registration was made, and no operation since has removed it. -/
inductive Outstanding : PendingTable → List Operation → Registration → Fate → Prop where
  | made {t t' : PendingTable} {fate : Fate} {r : Registration} {rest : List Operation}
      (ok : t.register fate = .ok (r, t')) (kept : ∀ o ∈ rest, o.removes r = false) :
      Outstanding t (.register fate :: rest) r fate
  | later {t : PendingTable} {o : Operation} {rest : List Operation} {r : Registration}
      {fate : Fate} (next : Outstanding (t.perform o) rest r fate) :
      Outstanding t (o :: rest) r fate

inductive Outcome (t : PendingTable) : Operation → PendingTable → Prop where
  | failed {o : Operation} (keeps : ∀ r, o.removes r = false) (none : t.makes? o = none) :
      Outcome t o t
  | allocated {t' : PendingTable} {id : UInt32} (ok : t.allocate = .ok (id, t')) :
      Outcome t .allocate t'
  | registered {t' : PendingTable} {fate : Fate} {r : Registration}
      (ok : t.register fate = .ok (r, t')) : Outcome t (.register fate) t'
  | taken (id : UInt32) : Outcome t (.take id) (t.take id).2
  | cancelled (r : Registration) : Outcome t (.cancel r) (t.cancel r).2
  | closed : Outcome t .close t.close

variable {t t' : PendingTable} {o : Operation}

theorem outcome (t : PendingTable) (o : Operation) : t.Outcome o (t.perform o) := by
  cases o with
  | allocate =>
    cases answer : t.allocate with
    | error e => simpa only [perform, answer] using .failed (fun _ => rfl) rfl
    | ok taken => simpa only [perform, answer] using .allocated answer
  | register fate =>
    cases answer : t.register fate with
    | error e =>
      have none : t.makes? (.register fate) = none := by simp only [makes?, answer]
      simpa only [perform, answer] using .failed (fun _ => rfl) none
    | ok taken => simpa only [perform, answer] using .registered answer
  | take id => exact .taken id
  | cancel r => exact .cancelled r
  | close => exact .closed

theorem makesOne {fate : Fate} {r : Registration} (ok : t.register fate = .ok (r, t')) :
    t.makes? (.register fate) = some r := by
  simp only [makes?, ok]

theorem handedOut {id : UInt32} (h : t.handsOut? o = some id) :
    (∃ t', t.allocate = .ok (id, t')) ∨
      ∃ fate r t', t.register fate = .ok (r, t') ∧ r.correlationId = id := by
  cases o with
  | allocate =>
    simp only [handsOut?] at h
    split at h
    · rename_i ok
      cases h
      exact .inl ⟨_, ok⟩
    · contradiction
  | register fate =>
    simp only [handsOut?, makes?] at h
    split at h
    · rename_i ok
      cases h
      exact .inr ⟨fate, _, _, ok, rfl⟩
    · contradiction
  | _ => contradiction

theorem handedOutIsFree {id : UInt32} (h : t.handsOut? o = some id) : t.get? id = none := by
  rcases handedOut h with ⟨t', ok⟩ | ⟨fate, r, t', ok, rfl⟩
  · exact (allocated ok).1
  · exact (registered ok).2.2.1

/-! Within the limit. -/

def InLimit (t : PendingTable) (id : UInt32) : Prop := 1 ≤ id ∧ id ≤ t.limit

structure Within (t : PendingTable) : Prop where
  next : t.InLimit t.next
  ids : ∀ e ∈ t.entries, t.InLimit e.1

theorem successorExact {id : UInt32} (below : id < t.limit) :
    id.toNat + 1 < UInt32.size ∧ (t.successor id).toNat = id.toNat + 1 := by
  have room : id.toNat + 1 < UInt32.size := by
    have := t.limit.toNat_lt
    have := UInt32.lt_iff_toNat_lt.mp below
    simp only [UInt32.size]
    omega
  refine ⟨room, ?_⟩
  unfold successor
  rw [if_neg (by simpa using below), UInt32.toNat_add]
  exact Nat.mod_eq_of_lt room

theorem successorInLimit (limit : 1 ≤ t.limit) (id : UInt32) : t.InLimit (t.successor id) := by
  by_cases below : id < t.limit
  · obtain ⟨_, exact⟩ := successorExact below
    have := UInt32.lt_iff_toNat_lt.mp below
    refine ⟨UInt32.le_iff_toNat_le.mpr ?_, UInt32.le_iff_toNat_le.mpr ?_⟩
    · rw [exact, UInt32.toNat_one]
      omega
    · omega
  · unfold successor
    rw [if_pos (by simpa using below)]
    exact ⟨UInt32.le_refl _, limit⟩

theorem firstFreeInLimit {fuel : Nat} {id free : UInt32} (start : t.InLimit id)
    (h : t.firstFree fuel id = some free) : t.InLimit free := by
  induction fuel generalizing id with
  | zero => simp [firstFree] at h
  | succ fuel ih =>
    simp only [firstFree] at h
    split at h
    · cases h
      exact start
    · exact ih (successorInLimit (UInt32.le_trans start.1 start.2) id) h

theorem Within.allocates (h : t.Within) {id : UInt32} (ok : t.allocate = .ok (id, t')) :
    t.InLimit id := by
  unfold allocate at ok
  split at ok
  · contradiction
  · split at ok
    · rename_i found
      cases ok
      exact firstFreeInLimit h.next found
    · contradiction

theorem Within.registers (h : t.Within) {fate : Fate} {r : Registration}
    (ok : t.register fate = .ok (r, t')) : t.InLimit r.correlationId := by
  unfold register at ok
  split at ok
  · contradiction
  · split at ok
    · contradiction
    · rename_i found
      cases ok
      exact h.allocates found

theorem Within.handsOut (h : t.Within) {id : UInt32} (handed : t.handsOut? o = some id) :
    t.InLimit id := by
  rcases handedOut handed with ⟨t', ok⟩ | ⟨fate, r, t', ok, rfl⟩
  · exact h.allocates ok
  · exact h.registers ok

theorem Within.fewer (h : t.Within) (shape : t' = { t with entries := t'.entries })
    (entries : t'.entries.Sublist t.entries) : t'.Within := by
  rw [shape]
  exact ⟨h.next, fun e member => h.ids e (entries.subset member)⟩

theorem Within.perform (h : t.Within) (o : Operation) : (t.perform o).Within := by
  have done := outcome t o
  generalize t.perform o = t' at done ⊢
  have limit : 1 ≤ t.limit := UInt32.le_trans h.next.1 h.next.2
  cases done with
  | failed => exact h
  | allocated ok =>
    obtain ⟨_, rfl⟩ := PendingTable.allocated ok
    exact ⟨successorInLimit limit _, h.ids⟩
  | @registered _ fate r ok =>
    have range := h.registers ok
    obtain ⟨_, _, _, rfl⟩ := PendingTable.registered ok
    refine ⟨successorInLimit limit _, fun e member => ?_⟩
    rcases List.mem_append.mp member with old | new
    · exact h.ids e old
    · rw [List.mem_singleton.mp new]
      exact range
  | taken id => exact h.fewer (t.takeShape id) (t.takeSublist id)
  | cancelled r => exact h.fewer (t.cancelShape r) (t.cancelSublist r)
  | closed => exact ⟨h.next, nofun⟩

theorem Distinct.perform (h : t.Distinct) (o : Operation) : (t.perform o).Distinct := by
  have done := outcome t o
  generalize t.perform o = t' at done ⊢
  cases done with
  | failed => exact h
  | allocated ok =>
    obtain ⟨_, rfl⟩ := PendingTable.allocated ok
    exact h.sublist (.refl _) rfl
  | registered ok => exact h.register ok
  | taken id => exact h.take id
  | cancelled r => exact h.cancel r
  | closed => exact h.sublist (List.nil_sublist _) rfl

/-! A whole run. -/

theorem afterRun (holds : PendingTable → Prop) (start : holds t)
    (step : ∀ t o, holds t → holds (t.perform o)) (operations : List Operation) :
    holds (t.after operations) := by
  unfold after
  induction operations generalizing t with
  | nil => exact start
  | cons o rest ih => exact ih (step t o start)

theorem performTickets (t : PendingTable) (o : Operation) :
    (t.perform o).nextTicket = t.nextTicket + (t.makes? o).toList.length ∧
      ∀ r, t.makes? o = some r → r.ticket = t.nextTicket := by
  have done := outcome t o
  generalize t.perform o = t' at done ⊢
  cases done with
  | failed keeps none => simp [none]
  | allocated ok =>
    obtain ⟨_, rfl⟩ := PendingTable.allocated ok
    exact ⟨rfl, nofun⟩
  | registered ok =>
    obtain ⟨_, ticket, _, after⟩ := PendingTable.registered ok
    rw [makesOne ok, after]
    exact ⟨rfl, fun r same => Option.some.inj same ▸ ticket⟩
  | taken id => exact ⟨t.takeNextTicket id, nofun⟩
  | cancelled r => exact ⟨t.cancelNextTicket r, nofun⟩
  | closed => exact ⟨rfl, nofun⟩

theorem issuedTickets (t : PendingTable) (operations : List Operation) :
    (t.issued operations).map Registration.ticket =
        List.range' t.nextTicket (t.issued operations).length ∧
      (t.after operations).nextTicket = t.nextTicket + (t.issued operations).length := by
  unfold after
  induction operations generalizing t with
  | nil => exact ⟨rfl, rfl⟩
  | cons o rest ih =>
    obtain ⟨later, last⟩ := ih (t.perform o)
    obtain ⟨next, first⟩ := performTickets t o
    rw [issued, List.foldl_cons, last, next, List.map_append, later, next]
    cases made : t.makes? o with
    | none => simp
    | some r =>
      simp only [Option.toList_some, List.map_cons, List.map_nil, List.singleton_append,
        List.length_cons, List.length_nil, List.range'_succ, first r made, true_and]
      omega

theorem onTableNext (h : t.Distinct) (o : Operation) {r : Registration} {fate : Fate} :
    entry r fate ∈ (t.perform o).entries ↔
      (entry r fate ∈ t.entries ∧ o.removes r = false) ∨
        ∃ t', o = .register fate ∧ t.register fate = .ok (r, t') := by
  have done := outcome t o
  generalize t.perform o = t' at done ⊢
  cases done with
  | failed keeps none =>
    have unmade : ¬ ∃ t', o = .register fate ∧ t.register fate = .ok (r, t') := by
      rintro ⟨t', rfl, ok⟩
      rw [makesOne ok] at none
      contradiction
    simp [keeps r, unmade]
  | allocated ok =>
    obtain ⟨_, rfl⟩ := PendingTable.allocated ok
    simp [Operation.removes]
  | @registered _ fate' made ok =>
    obtain ⟨_, _, _, after⟩ := PendingTable.registered ok
    have added : t'.entries = t.entries ++ [entry made fate'] := by
      rw [after]
      rfl
    have own : entry r fate = entry made fate' ↔
        ∃ t', Operation.register fate' = .register fate ∧ t.register fate = .ok (r, t') := by
      rw [entryInj]
      constructor
      · rintro ⟨rfl, rfl⟩
        exact ⟨_, rfl, ok⟩
      · rintro ⟨_, same, ok'⟩
        cases same
        rw [ok] at ok'
        cases ok'
        exact ⟨rfl, rfl⟩
    rw [added, List.mem_append, List.mem_singleton, own]
    simp [Operation.removes]
  | taken id =>
    rw [memTake]
    simp [Operation.removes, entry, ne_comm]
  | cancelled other =>
    have same : other = r ↔ (entry r fate).1 = other.correlationId ∧
        (entry r fate).2.ticket = other.ticket := by
      cases r
      cases other
      simp [entry, eq_comm]
    rw [h.memCancel, ← same]
    simp [Operation.removes]
  | closed => simp [Operation.removes, PendingTable.close]

theorem outstandingCons {rest : List Operation} {r : Registration} {fate : Fate} :
    Outstanding t (o :: rest) r fate ↔
      (∃ t', o = .register fate ∧ t.register fate = .ok (r, t') ∧
        ∀ o ∈ rest, o.removes r = false) ∨ Outstanding (t.perform o) rest r fate := by
  constructor
  · intro h
    cases h with
    | made ok kept => exact .inl ⟨_, rfl, ok, kept⟩
    | later next => exact .inr next
  · rintro (⟨_, rfl, ok, kept⟩ | next)
    · exact .made ok kept
    · exact .later next

-- An entry that was there at the start stays for as long as no operation removes it; any other was
-- made by one of the operations. After each operation the rest starts from another table.
theorem onTable (h : t.Distinct) (operations : List Operation) {r : Registration} {fate : Fate} :
    entry r fate ∈ (t.after operations).entries ↔
      (entry r fate ∈ t.entries ∧ ∀ o ∈ operations, o.removes r = false) ∨
        Outstanding t operations r fate := by
  unfold after
  induction operations generalizing t with
  | nil =>
    have none : ¬Outstanding t [] r fate := nofun
    simp [none]
  | cons o rest ih =>
    rw [List.foldl_cons, ih (h.perform o), onTableNext h, outstandingCons, List.forall_mem_cons]
    grind

theorem performLimit (t : PendingTable) (o : Operation) : (t.perform o).limit = t.limit := by
  have done := outcome t o
  generalize t.perform o = t' at done ⊢
  cases done with
  | failed | closed => rfl
  | allocated ok =>
    obtain ⟨_, rfl⟩ := PendingTable.allocated ok
    rfl
  | registered ok =>
    obtain ⟨_, _, _, rfl⟩ := PendingTable.registered ok
    rfl
  | taken id => rw [t.takeShape id]
  | cancelled r => rw [t.cancelShape r]

theorem ofLimitWithin (limit : UInt32) : (ofLimit limit).Within := by
  have limit : 1 ≤ max limit 1 := by
    simp only [Max.max]
    split <;> grind
  exact ⟨⟨UInt32.le_refl 1, limit⟩, nofun⟩

theorem afterLimit (t : PendingTable) (operations : List Operation) :
    (t.after operations).limit = t.limit :=
  afterRun (fun u => u.limit = t.limit) rfl (fun u o same => (performLimit u o).trans same)
    operations

theorem afterWithin (limit : UInt32) (operations : List Operation) :
    ((ofLimit limit).after operations).Within :=
  afterRun _ (ofLimitWithin limit) (fun _ o kept => kept.perform o) operations

theorem afterDistinct (limit : UInt32) (operations : List Operation) :
    ((ofLimit limit).after operations).Distinct :=
  afterRun _ (ofLimitDistinct limit) (fun _ o kept => kept.perform o) operations

theorem outstandingNotHandedOut (limit : UInt32) (operations : List Operation) :
    let start := ofLimit limit
    let t := start.after operations
    let made := start.issued operations
    t.limit = max limit 1 ∧ t.Within ∧
      (∀ o id, t.handsOut? o = some id → t.InLimit id ∧ ∀ slot, (id, slot) ∉ t.entries) ∧
      (t.entries.map Prod.fst).Nodup ∧ (t.entries.map fun e => e.2.ticket).Nodup ∧
      (∀ e ∈ t.entries, e.2.ticket < t.nextTicket) ∧ t.nextTicket = made.length + 1 ∧
      (made.map Registration.ticket).Nodup ∧
      (∀ r fate, entry r fate ∈ t.entries ↔ Outstanding start operations r fate) ∧
      ∀ id < t.limit, id.toNat + 1 < UInt32.size ∧ (t.successor id).toNat = id.toNat + 1 := by
  intro start t made
  have sameLimit : t.limit = max limit 1 := afterLimit start operations
  have within : t.Within := afterWithin limit operations
  have distinct : t.Distinct := afterDistinct limit operations
  have handsOut : ∀ o id, t.handsOut? o = some id → t.InLimit id ∧ ∀ slot, (id, slot) ∉ t.entries :=
    fun o id handed => ⟨within.handsOut handed,
      fun slot member => freeOfGet (handedOutIsFree handed) _ member rfl⟩
  obtain ⟨tickets, next⟩ := issuedTickets start operations
  have issuedOnce : (made.map Registration.ticket).Nodup := by
    rw [tickets]
    exact List.nodup_range'
  have held : ∀ r fate, entry r fate ∈ t.entries ↔ Outstanding start operations r fate := by
    intro r fate
    have nothing : entry r fate ∉ start.entries := nofun
    simp only [t, onTable (ofLimitDistinct limit), start] at nothing ⊢
    simp only [nothing, false_and, false_or]
  exact ⟨sameLimit, within, handsOut, distinct.ids, distinct.tickets, distinct.issued,
    next.trans (Nat.add_comm _ _), issuedOnce, held, fun _ => successorExact⟩

end ServiceMux.PendingTable
