import ServiceMux.Proofs.Issuing
/-! Registrations taken back. Main statements: the entry of a registration is on the table until an
operation removes it, and never again after that (`heldSince`); so whoever takes a registration back
removes its own entry or nothing, whatever has become of its id (`staleTouchesNothing`). -/
namespace ServiceMux.PendingTable
variable {t t' : PendingTable} {o : Operation} {operations since : List Operation}
  {r : Registration} {fate : Fate}

theorem Distinct.cancelsOne (h : t.Distinct) (held : entry r fate ∈ t.entries) :
    ∃ front back, t.entries = front ++ entry r fate :: back ∧
      t.cancel r = (some ⟨r.ticket, fate⟩, { t with entries := front ++ back }) := by
  obtain ⟨front, back, split⟩ := List.append_of_mem held
  refine ⟨front, back, split, ?_⟩
  have once := h.ids
  rw [split, List.map_append, List.map_cons] at once
  have absent := (List.nodup_cons.mp (List.nodup_middle.mp once)).1
  rw [← List.map_append, List.mem_map] at absent
  have others : ∀ e ∈ front ++ back, e.1 ≠ r.correlationId :=
    fun e member same => absent ⟨e, member, same⟩
  have left : t.entries.filter (·.1 != r.correlationId) = front ++ back := by
    rw [split, List.filter_append, List.filter_cons_of_neg (by simp [entry]), ← List.filter_append]
    exact List.filter_eq_self.mpr fun e member => bne_iff_ne.mpr (others e member)
  rw [(cancelOwn (h.get.mpr held)).2, erase, left]

theorem Distinct.cancelsNone (h : t.Distinct) (gone : ∀ fate, entry r fate ∉ t.entries) :
    t.cancel r = (none, t) := by
  unfold PendingTable.cancel
  refine if_neg fun held => ?_
  obtain ⟨fate, member⟩ := h.holds.mp held
  exact gone fate member

/-! From the registration on. -/

/-- The registration is made in the course of the operations, and these are the ones after it. -/
def Makes (t : PendingTable) (operations : List Operation) (r : Registration) (fate : Fate)
    (since : List Operation) : Prop :=
  ∃ before, operations = before ++ .register fate :: since ∧
    (t.after before).makes? (.register fate) = some r

theorem madeOk (made : t.makes? o = some r) :
    ∃ fate t', o = .register fate ∧ t.register fate = .ok (r, t') ∧ t.perform o = t' := by
  cases o with
  | register fate =>
    simp only [makes?] at made
    split at made
    · rename_i ok
      cases made
      exact ⟨fate, _, rfl, ok, by simp only [perform, ok]⟩
    · contradiction
  | allocate | take | cancel | close => contradiction

theorem makesCons : t.Makes (o :: operations) r fate since ↔
    (o = .register fate ∧ operations = since ∧ t.makes? o = some r) ∨
      (t.perform o).Makes operations r fate since := by
  constructor
  · rintro ⟨before, split, made⟩
    cases before with
    | nil =>
      obtain ⟨rfl, rfl⟩ := List.cons.inj split
      exact .inl ⟨rfl, rfl, made⟩
    | cons first rest =>
      obtain ⟨rfl, rfl⟩ := List.cons.inj split
      exact .inr ⟨rest, rfl, made⟩
  · rintro (⟨rfl, rfl, made⟩ | ⟨before, rfl, made⟩)
    · exact ⟨[], rfl, made⟩
    · exact ⟨o :: before, rfl, made⟩

theorem issuedIff : r ∈ t.issued operations ↔ ∃ fate since, t.Makes operations r fate since := by
  induction operations generalizing t with
  | nil =>
    refine ⟨fun none => by contradiction, fun ⟨fate, since, before, split, _⟩ => ?_⟩
    simp at split
  | cons o rest ih =>
    simp only [issued, List.mem_append, Option.mem_toList, ih, makesCons]
    constructor
    · rintro (made | ⟨fate, since, later⟩)
      · obtain ⟨fate, _, rfl, -⟩ := madeOk made
        exact ⟨fate, rest, .inl ⟨rfl, rfl, made⟩⟩
      · exact ⟨fate, since, .inr later⟩
    · rintro ⟨fate, since, ⟨-, -, made⟩ | later⟩
      · exact .inl made
      · exact .inr ⟨fate, since, later⟩

theorem ticketRange (made : r ∈ t.issued operations) :
    t.nextTicket ≤ r.ticket ∧ r.ticket < t.nextTicket + (t.issued operations).length := by
  have numbered := List.mem_map_of_mem (f := Registration.ticket) made
  rw [(issuedTickets t operations).1] at numbered
  exact List.mem_range'_1.mp numbered

theorem outstandingIssued (h : Outstanding t operations r fate) : r ∈ t.issued operations := by
  induction h with
  | made ok kept => simp [issued, makesOne ok]
  | later next ih => simp [issued, ih]

theorem heldSince (distinct : t.Distinct) (made : t.Makes operations r fate since) {fate' : Fate} :
    entry r fate' ∈ (t.after operations).entries ↔
      fate' = fate ∧ ∀ o ∈ since, o.removes r = false := by
  obtain ⟨before, rfl, made⟩ := made
  have start : (t.after before).Distinct := afterRun _ distinct (fun _ o kept => kept.perform o) before
  obtain ⟨_, t', same, ok, performed⟩ := madeOk made
  cases same
  have whole : t.after (before ++ .register fate :: since) = t'.after since := by
    rw [after, List.foldl_append, List.foldl_cons, ← performed]
    rfl
  obtain ⟨-, ticket, -, shape⟩ := registered ok
  -- No later registration has this ticket.
  have once : ¬Outstanding t' since r fate' := by
    intro again
    have later := (ticketRange (outstandingIssued again)).1
    rw [shape] at later
    simp only at later
    omega
  have new : entry r fate' ∈ t'.entries ↔ fate' = fate := by
    have unused : entry r fate' ∉ (t.after before).entries := by
      intro old
      have earlier := start.issued _ old
      simp only [entry] at earlier
      omega
    rw [shape]
    refine List.mem_append.trans ((or_iff_right unused).trans ?_)
    rw [List.mem_singleton]
    exact entryInj.trans (and_iff_right rfl)
  rw [whole, onTable (start.register ok), new]
  simp [once]

theorem staleTouchesNothing (limit : UInt32) (operations : List Operation) :
    let start := ofLimit limit
    let t := start.after operations
    let made := start.issued operations
    (∀ r ∈ made, 1 ≤ r.ticket ∧ r.ticket ≤ made.length) ∧
      (∀ r, r ∈ made ↔ ∃ fate since, start.Makes operations r fate since) ∧
      ∀ r fate since, start.Makes operations r fate since →
        ((∀ o ∈ since, o.removes r = false) → ∃ front back,
          t.entries = front ++ entry r fate :: back ∧
            t.cancel r = (some ⟨r.ticket, fate⟩, { t with entries := front ++ back })) ∧
        ((∃ o ∈ since, o.removes r = true) → t.cancel r = (none, t)) ∧
        ∀ r' fate', r' ≠ r →
          (entry r' fate' ∈ (t.cancel r).2.entries ↔ entry r' fate' ∈ t.entries) := by
  intro start t made
  have distinct : t.Distinct := afterDistinct limit operations
  refine ⟨fun r member => ?_, fun r => issuedIff, fun r fate since makes => ⟨?_, ?_, ?_⟩⟩
  · obtain ⟨first, last⟩ := ticketRange member
    exact ⟨first, Nat.lt_one_add_iff.mp last⟩
  · intro kept
    exact distinct.cancelsOne ((heldSince (ofLimitDistinct limit) makes).mpr ⟨rfl, kept⟩)
  · rintro ⟨o, among, removed⟩
    refine distinct.cancelsNone fun fate' held => ?_
    have kept := ((heldSince (ofLimitDistinct limit) makes).mp held).2 o among
    rw [removed] at kept
    contradiction
  · intro r' fate' other
    rw [distinct.memCancel]
    exact and_iff_left fun ⟨id, ticket⟩ => other (congrArg₂ Registration.mk id ticket)

/-- There is one id only: a second registration has had it in between, and a third has it now. -/
theorem recycledTwice :
    let start := ofLimit 1
    let since : List Operation := [.take 1, .register .dropped, .take 1, .register .awaited]
    let operations := .register .awaited :: since
    start.Makes operations ⟨1, 1⟩ .awaited since ∧
      (∃ o ∈ since, o.removes ⟨1, 1⟩ = true) ∧
      (start.after operations).entries = [(1, ⟨3, .awaited⟩)] ∧
      (start.after operations).cancel ⟨1, 1⟩ = (none, start.after operations) := by
  intro start since operations
  have makes : start.Makes operations ⟨1, 1⟩ .awaited since := ⟨[], rfl, by decide⟩
  have removed : ∃ o ∈ since, o.removes ⟨1, 1⟩ = true := ⟨.take 1, by decide, by decide⟩
  exact ⟨makes, removed, by decide,
    ((staleTouchesNothing 1 operations).2.2 ⟨1, 1⟩ .awaited since makes).2.1 removed⟩

end ServiceMux.PendingTable
