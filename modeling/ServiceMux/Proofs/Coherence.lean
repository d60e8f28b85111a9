import ServiceMux.Proofs.Delivery
/-! The two books kept on waiting callers. Main statements: `Matched` says that what is outstanding
and what lies in the inboxes agree, `Owned` that each inbox a call has in hand is its own; every
way of registering, answering and letting go keeps both. -/
namespace ServiceMux
variable {μ : Type}

/-- An inbox is empty as long as its entry is outstanding, and filled as soon as it is not. -/
structure Matched (t : PendingTable) (inboxes : List (Inbox μ)) : Prop where
  distinct : t.Distinct
  apart : (inboxes.map (·.registration.ticket)).Nodup
  issued : ∀ i ∈ inboxes, i.registration.ticket < t.nextTicket
  served : ∀ e ∈ t.entries, e.2.fate = .awaited → Inbox.mk ⟨e.1, e.2.ticket⟩ none ∈ inboxes
  waiting : ∀ i ∈ inboxes, i.result = none →
    (i.registration.correlationId, ⟨i.registration.ticket, .awaited⟩) ∈ t.entries
  decided : ∀ i ∈ inboxes, i.result ≠ none → ∀ e ∈ t.entries, e.2.ticket ≠ i.registration.ticket

namespace Matched
variable {t t' : PendingTable} {inboxes inboxes' : List (Inbox μ)}

theorem perm (h : Matched t inboxes) (same : inboxes'.Perm inboxes) : Matched t inboxes' :=
  ⟨h.distinct, (same.map _).nodup_iff.mpr h.apart,
    fun i member => h.issued i (same.mem_iff.mp member),
    fun e member awaited => same.mem_iff.mpr (h.served e member awaited),
    fun i member => h.waiting i (same.mem_iff.mp member),
    fun i member => h.decided i (same.mem_iff.mp member)⟩

theorem sameTicket (h : Matched t inboxes) {i j : Inbox μ} (left : i ∈ inboxes)
    (right : j ∈ inboxes) (ticket : i.registration.ticket = j.registration.ticket) : i = j :=
  List.inj_on_of_nodup_map h.apart left right ticket

theorem shrink (h : Matched t inboxes) (entries : t'.entries.Sublist t.entries)
    (tickets : t'.nextTicket = t.nextTicket)
    (kept : ∀ e ∈ t.entries, e.2.fate = .awaited → e ∈ t'.entries) : Matched t' inboxes :=
  ⟨h.distinct.sublist entries tickets, h.apart,
    fun i member => by rw [tickets]; exact h.issued i member,
    fun e member => h.served e (entries.subset member),
    fun i member empty => kept _ (h.waiting i member empty) rfl,
    fun i member filled e inside => h.decided i member filled e (entries.subset inside)⟩

theorem registerAwaited (h : Matched t inboxes) {r : Registration}
    (ok : t.register .awaited = .ok (r, t')) : Matched t' (inboxes ++ [⟨r, none⟩]) := by
  have distinct := h.distinct.register ok
  obtain ⟨_, ticket, free, rfl⟩ := PendingTable.registered ok
  refine ⟨distinct, ?_, ?_, ?_, ?_, ?_⟩
  · simp only [List.map_append, List.map_cons, List.map_nil, List.nodup_append, h.apart, true_and,
      List.nodup_singleton, List.mem_map, List.mem_singleton]
    rintro _ ⟨i, member, rfl⟩ _ rfl
    have := h.issued i member
    omega
  · intro i member
    rcases List.mem_append.mp member with old | new
    · have := h.issued i old
      dsimp only
      omega
    · rw [List.mem_singleton.mp new]
      dsimp only
      omega
  · intro e member awaited
    rcases List.mem_append.mp member with old | new
    · exact List.mem_append_left _ (h.served e old awaited)
    · rw [List.mem_singleton.mp new]
      simp
  · intro i member empty
    rcases List.mem_append.mp member with old | new
    · exact List.mem_append_left _ (h.waiting i old empty)
    · rw [List.mem_singleton.mp new]
      simp
  · intro i member filled e inside
    rcases List.mem_append.mp member with old | new
    · rcases List.mem_append.mp inside with before | added
      · exact h.decided i old filled e before
      · have := h.issued i old
        rw [List.mem_singleton.mp added]
        dsimp only
        omega
    · rw [List.mem_singleton.mp new] at filled
      contradiction

theorem registerDropped (h : Matched t inboxes) {r : Registration}
    (ok : t.register .dropped = .ok (r, t')) : Matched t' inboxes := by
  have distinct := h.distinct.register ok
  obtain ⟨_, ticket, free, rfl⟩ := PendingTable.registered ok
  refine ⟨distinct, h.apart, ?_, ?_, ?_, ?_⟩
  · intro i member
    have := h.issued i member
    dsimp only
    omega
  · intro e member awaited
    rcases List.mem_append.mp member with old | new
    · exact h.served e old awaited
    · rw [List.mem_singleton.mp new] at awaited
      contradiction
  · intro i member empty
    exact List.mem_append_left _ (h.waiting i member empty)
  · intro i member filled e inside
    rcases List.mem_append.mp inside with before | added
    · exact h.decided i member filled e before
    · have := h.issued i member
      rw [List.mem_singleton.mp added]
      dsimp only
      omega

theorem answer (h : Matched t inboxes) {id : UInt32} {ticket : Nat}
    (held : t.get? id = some ⟨ticket, .awaited⟩) (result : Except ServerError (Reply μ)) :
    Matched (t.take id).2 (inboxes.map (Inbox.fill ticket result)) := by
  have entry := PendingTable.memOfGet held
  have other : ∀ e ∈ (t.take id).2.entries, e ∈ t.entries ∧ e.2.ticket ≠ ticket := by
    intro e member
    obtain ⟨inside, different⟩ := PendingTable.memTake.mp member
    refine ⟨inside, fun same => different ?_⟩
    exact congrArg Prod.fst (h.distinct.sameTicket inside entry same)
  refine ⟨h.distinct.take id, ?_, ?_, ?_, ?_, ?_⟩
  · simpa [List.map_map, Function.comp_def] using h.apart
  · intro j member
    obtain ⟨i, inside, rfl⟩ := List.mem_map.mp member
    simpa using h.issued i inside
  · intro e member awaited
    obtain ⟨inside, different⟩ := other e member
    refine List.mem_map.mpr ⟨_, h.served e inside awaited, ?_⟩
    simp [Inbox.fill, different]
  · intro j member empty
    obtain ⟨i, inside, rfl⟩ := List.mem_map.mp member
    by_cases target : i.registration.ticket = ticket ∧ i.result = none
    · simp [Inbox.fill, target] at empty
    · simp only [Inbox.fill, if_neg target] at empty ⊢
      have waits := h.waiting i inside empty
      refine PendingTable.memTake.mpr ⟨waits, fun same => target ⟨?_, empty⟩⟩
      have equal := h.distinct.sameId waits entry same
      exact congrArg (fun e : UInt32 × Slot => e.2.ticket) equal
  · intro j member filled e within
    obtain ⟨i, inside, rfl⟩ := List.mem_map.mp member
    obtain ⟨before, different⟩ := other e within
    by_cases target : i.registration.ticket = ticket ∧ i.result = none
    · simpa [target.1] using different
    · simp only [Inbox.fill, if_neg target] at filled ⊢
      exact h.decided i inside filled e before

theorem drop (h : Matched t inboxes) {r : Registration}
    (own : ∀ i ∈ inboxes, i.registration.ticket = r.ticket → i.registration = r) :
    Matched (t.cancel r).2 (inboxes.filter (·.registration.ticket != r.ticket)) := by
  have stays {i : Inbox μ} : i ∈ inboxes.filter (·.registration.ticket != r.ticket) ↔
      i ∈ inboxes ∧ i.registration.ticket ≠ r.ticket := by simp [List.mem_filter]
  refine ⟨h.distinct.cancel r, h.apart.sublist (List.filter_sublist.map _), ?_, ?_, ?_, ?_⟩
  · intro i member
    simpa using h.issued i (stays.mp member).1
  · intro e member awaited
    obtain ⟨inside, other⟩ := h.distinct.memCancel.mp member
    have inbox := h.served e inside awaited
    refine stays.mpr ⟨inbox, fun same => other ?_⟩
    have equal := own _ inbox same
    exact ⟨congrArg Registration.correlationId equal, same⟩
  · intro i member empty
    obtain ⟨inside, other⟩ := stays.mp member
    exact h.distinct.memCancel.mpr ⟨h.waiting i inside empty, fun same => other same.2⟩
  · intro i member filled e within
    exact h.decided i (stays.mp member).1 filled e (h.distinct.memCancel.mp within).1

theorem withdraw (h : Matched t inboxes) {r : Registration}
    (foreign : ∀ i ∈ inboxes, i.registration.ticket ≠ r.ticket) :
    Matched (t.cancel r).2 inboxes := by
  refine h.shrink (t.cancelSublist r) (t.cancelNextTicket r) fun e member awaited => ?_
  exact h.distinct.memCancel.mpr
    ⟨member, fun same => foreign _ (h.served e member awaited) same.2⟩

theorem close (h : Matched t inboxes) (result : Except ServerError (Reply μ)) :
    Matched t.close (inboxes.map (Inbox.fillAll t.awaited result)) := by
  have empty : t.close.entries = [] := rfl
  refine ⟨⟨by simp [empty], by simp [empty], by simp [empty]⟩, ?_, ?_, by simp [empty], ?_,
    by simp [empty]⟩
  · simpa [List.map_map, Function.comp_def] using h.apart
  · intro j member
    obtain ⟨i, inside, rfl⟩ := List.mem_map.mp member
    simpa [PendingTable.close] using h.issued i inside
  · intro j member empty
    obtain ⟨i, inside, rfl⟩ := List.mem_map.mp member
    exfalso
    by_cases target : i.registration.ticket ∈ t.awaited ∧ i.result = none
    · simp [Inbox.fillAll, target] at empty
    · simp only [Inbox.fillAll, if_neg target] at empty
      exact target ⟨PendingTable.memAwaited.mpr ⟨_, h.waiting i inside empty⟩, empty⟩

end Matched

/-! Who has an inbox in hand. -/

namespace Turn

def registration? : Turn → Option Registration
  | write _ _ errand => errand.registration?
  | release => none

def discard? : Turn → Option Registration
  | write _ _ (.discard r) => some r
  | _ => none

theorem inboxOrDiscard {turn : Turn} {r : Registration} :
    turn.registration? = some r ↔ turn.inbox? = some r ∨ turn.discard? = some r := by
  cases turn with
  | release => simp [registration?, Turn.inbox?, discard?]
  | write call frame errand =>
    cases errand <;> simp [registration?, Turn.inbox?, discard?, Errand.registration?,
      Errand.inbox?]

end Turn

/-- The registrations of calls under way. -/
def held (line : List Turn) (waits : List Wait) : List Registration :=
  line.filterMap Turn.registration? ++ waits.map Wait.registration

/-- No two calls under way have one registration, and the inbox of each is there. -/
structure Owned (next : Nat) (handles : List Registration) (line : List Turn)
    (waits : List Wait) : Prop where
  once : ((held line waits).map Registration.ticket).Nodup
  issued : ∀ r ∈ held line waits, r.ticket < next
  inLine : ∀ r ∈ line.filterMap Turn.inbox?, r ∈ handles
  inWait : ∀ w ∈ waits, w.registration ∈ handles
  discards : ∀ r ∈ line.filterMap Turn.discard?, ∀ handle ∈ handles, handle.ticket ≠ r.ticket

namespace Owned
variable {next next' : Nat} {handles handles' : List Registration} {line line' : List Turn}
  {waits waits' : List Wait}

theorem heldSublist (lines : line'.Sublist line) (waiting : waits'.Sublist waits) :
    (held line' waits').Sublist (held line waits) :=
  (lines.filterMap _).append (waiting.map _)

theorem shrink (h : Owned next handles line waits) (lines : line'.Sublist line)
    (waiting : waits'.Sublist waits) : Owned next handles line' waits' :=
  ⟨h.once.sublist ((heldSublist lines waiting).map _),
    fun r member => h.issued r ((heldSublist lines waiting).subset member),
    fun r member => h.inLine r ((lines.filterMap _).subset member),
    fun w member => h.inWait w (waiting.subset member),
    fun r member => h.discards r ((lines.filterMap _).subset member)⟩

theorem congr (h : Owned next handles line waits) (later : next ≤ next')
    (same : ∀ r, r ∈ handles' ↔ r ∈ handles) : Owned next' handles' line waits :=
  ⟨h.once, fun r member => Nat.lt_of_lt_of_le (h.issued r member) later,
    fun r member => (same r).mpr (h.inLine r member),
    fun w member => (same _).mpr (h.inWait w member),
    fun r member handle inside => h.discards r member handle ((same handle).mp inside)⟩

theorem inLineHeld {r : Registration} (h : r ∈ line.filterMap Turn.inbox?) :
    r ∈ held line waits := by
  obtain ⟨turn, member, found⟩ := List.mem_filterMap.mp h
  have registered := Turn.inboxOrDiscard.mpr (.inl found)
  exact List.mem_append_left _ (List.mem_filterMap.mpr ⟨turn, member, registered⟩)

theorem drop (h : Owned next handles line waits) {r : Registration}
    (unheld : ∀ other ∈ held line waits, other.ticket ≠ r.ticket) :
    Owned next (handles.filter (·.ticket != r.ticket)) line waits := by
  have stays {handle : Registration} : handle ∈ handles.filter (·.ticket != r.ticket) ↔
      handle ∈ handles ∧ handle.ticket ≠ r.ticket := by simp [List.mem_filter]
  refine ⟨h.once, h.issued, ?_, ?_, ?_⟩
  · exact fun other member => stays.mpr ⟨h.inLine other member, unheld other (inLineHeld member)⟩
  · intro w member
    refine stays.mpr ⟨h.inWait w member, unheld _ ?_⟩
    exact List.mem_append_right _ (List.mem_map.mpr ⟨w, member, rfl⟩)
  · exact fun other member handle inside => h.discards other member handle (stays.mp inside).1

theorem add (h : Owned next handles line waits) {r : Registration} (ticket : r.ticket = next) :
    Owned (next + 1) (handles ++ [r]) line waits := by
  refine ⟨h.once, fun other member => Nat.lt_succ_of_lt (h.issued other member), ?_, ?_, ?_⟩
  · exact fun other member => List.mem_append_left _ (h.inLine other member)
  · exact fun w member => List.mem_append_left _ (h.inWait w member)
  · intro other member handle inside
    rcases List.mem_append.mp inside with old | new
    · exact h.discards other member handle old
    · rw [List.mem_singleton.mp new, ticket]
      obtain ⟨turn, within, found⟩ := List.mem_filterMap.mp member
      have registered := Turn.inboxOrDiscard.mpr (.inr found)
      have := h.issued other
        (List.mem_append_left _ (List.mem_filterMap.mpr ⟨turn, within, registered⟩))
      omega

/-! Taking a registration in hand, and letting it go. -/

/-- No call under way has a registration with this one's ticket. -/
structure Unheld (next : Nat) (line : List Turn) (waits : List Wait) (r : Registration) :
    Prop where
  issued : r.ticket < next
  apart : ∀ other ∈ held line waits, other.ticket ≠ r.ticket

theorem push (h : Owned next handles line waits) {turn : Turn}
    (unheld : ∀ r, turn.registration? = some r → Unheld next line waits r)
    (has : ∀ r, turn.inbox? = some r → r ∈ handles)
    (foreign : ∀ r, turn.discard? = some r → ∀ handle ∈ handles, handle.ticket ≠ r.ticket) :
    Owned next handles (line ++ [turn]) waits := by
  have split :
      (held (line ++ [turn]) waits).Perm (turn.registration?.toList ++ held line waits) := by
    unfold held
    rw [List.filterMap_append, ← List.append_assoc]
    refine List.Perm.append_right _ ?_
    cases found : turn.registration? with
    | none => simp [found]
    | some r => simp [found]
  have mem {r : Registration} : r ∈ held (line ++ [turn]) waits ↔
      turn.registration? = some r ∨ r ∈ held line waits := by
    rw [split.mem_iff]; simp
  refine ⟨?_, ?_, ?_, h.inWait, ?_⟩
  · rw [(split.map _).nodup_iff]
    cases found : turn.registration? with
    | none => simpa using h.once
    | some r =>
      simp only [Option.toList_some, List.singleton_append, List.map_cons, List.nodup_cons]
      refine ⟨fun member => ?_, h.once⟩
      obtain ⟨other, inside, same⟩ := List.mem_map.mp member
      exact (unheld r found).apart other inside same
  · intro r member
    rcases mem.mp member with found | old
    · exact (unheld r found).issued
    · exact h.issued r old
  · intro r member
    rw [List.filterMap_append] at member
    rcases List.mem_append.mp member with old | new
    · exact h.inLine r old
    · exact has r (by simpa using new)
  · intro r member
    rw [List.filterMap_append] at member
    rcases List.mem_append.mp member with old | new
    · exact h.discards r old
    · exact foreign r (by simpa using new)

theorem await (h : Owned next handles line waits) {w : Wait}
    (unheld : Unheld next line waits w.registration) (has : w.registration ∈ handles) :
    Owned next handles line (waits ++ [w]) := by
  have split : (held line (waits ++ [w])).Perm (w.registration :: held line waits) := by
    unfold held
    rw [List.map_append, ← List.append_assoc]
    exact List.perm_append_singleton _ _
  refine ⟨?_, ?_, h.inLine, ?_, h.discards⟩
  · rw [(split.map _).nodup_iff, List.map_cons, List.nodup_cons]
    refine ⟨fun member => ?_, h.once⟩
    obtain ⟨other, inside, same⟩ := List.mem_map.mp member
    exact unheld.apart other inside same
  · intro r member
    rcases List.mem_cons.mp (split.mem_iff.mp member) with rfl | old
    · exact unheld.issued
    · exact h.issued r old
  · intro other member
    rcases List.mem_append.mp member with old | new
    · exact h.inWait other old
    · rw [List.mem_singleton.mp new]
      exact has

theorem leftLine (h : Owned next handles line waits) {front back : List Turn} {turn : Turn}
    (split : line = front ++ turn :: back) (lines : line'.Sublist (front ++ back))
    {r : Registration} (found : turn.registration? = some r) : Unheld next line' waits r := by
  have same : (held line waits).Perm (r :: held (front ++ back) waits) := by
    simp only [held, split, List.filterMap_append, List.filterMap_cons, found,
      List.append_assoc, List.cons_append]
    exact List.perm_middle
  have once := (same.map Registration.ticket).nodup_iff.mp h.once
  rw [List.map_cons, List.nodup_cons] at once
  refine ⟨h.issued r (same.mem_iff.mpr List.mem_cons_self), fun other member equal => once.1 ?_⟩
  have inside := (heldSublist lines (List.Sublist.refl waits)).subset member
  exact List.mem_map.mpr ⟨other, inside, equal⟩

theorem leftWaits (h : Owned next handles line waits) {front back : List Wait} {w : Wait}
    (split : waits = front ++ w :: back) (waiting : waits'.Sublist (front ++ back)) :
    Unheld next line waits' w.registration := by
  have same : (held line waits).Perm (w.registration :: held line (front ++ back)) := by
    simp only [held, split, List.map_append, List.map_cons]
    rw [← List.append_assoc, ← List.append_assoc]
    exact List.perm_middle
  have once := (same.map Registration.ticket).nodup_iff.mp h.once
  rw [List.map_cons, List.nodup_cons] at once
  refine ⟨h.issued _ (same.mem_iff.mpr List.mem_cons_self), fun other member equal => once.1 ?_⟩
  have inside := (heldSublist (List.Sublist.refl line) waiting).subset member
  exact List.mem_map.mpr ⟨other, inside, equal⟩

/-- What a call has in hand that is in neither book of calls under way. -/
structure Free (next : Nat) (handles : List Registration) (line : List Turn) (waits : List Wait)
    (errand : Errand) : Prop where
  unheld : ∀ r, errand.registration? = some r → Unheld next line waits r
  own : ∀ r, errand.inbox? = some r → ∀ handle ∈ handles, handle.ticket = r.ticket → handle = r
  foreign : ∀ r, errand = .discard r → ∀ handle ∈ handles, handle.ticket ≠ r.ticket

theorem Free.fewer {errand : Errand} (h : Free next handles line waits errand)
    (later : next ≤ next') (fewer : handles' ⊆ handles) : Free next' handles' line waits errand :=
  ⟨fun r found => ⟨Nat.lt_of_lt_of_le (h.unheld r found).issued later, (h.unheld r found).apart⟩,
    fun r found handle inside => h.own r found handle (fewer inside),
    fun r found handle inside => h.foreign r found handle (fewer inside)⟩

theorem inboxIsRegistered {errand : Errand} {r : Registration} (h : errand.inbox? = some r) :
    errand.registration? = some r := by
  cases errand <;> simp_all [Errand.inbox?, Errand.registration?]

theorem freed (h : Owned next handles line waits) {front back : List Turn} {call : CallId}
    {frame : List UInt8} {errand : Errand}
    (split : line = front ++ .write call frame errand :: back)
    (apart : (handles.map Registration.ticket).Nodup) (lines : line'.Sublist (front ++ back)) :
    Free next handles line' waits errand := by
  refine ⟨fun r found => h.leftLine split lines found, fun r found handle inside same => ?_,
    fun r found => ?_⟩
  · have has := h.inLine r
      (List.mem_filterMap.mpr ⟨.write call frame errand, by simp [split], found⟩)
    exact List.inj_on_of_nodup_map apart inside has same
  · subst found
    exact h.discards r
      (List.mem_filterMap.mpr ⟨.write call frame (.discard r), by simp [split], rfl⟩)

end Owned
end ServiceMux
