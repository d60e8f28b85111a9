import ServiceMux.Connection.Basic
import ServiceMux.Proofs.Outstanding
/-! Results put into inboxes. Main statements: up to their order, a delivery fills the one empty
inbox with its ticket (`deliverPerm`) and tells whether there was one (`deliverTold`), and a
teardown fills the empty inbox of every outstanding
registration (`closeInboxes`) and does the rest of its work once (`closeLive`). -/
namespace ServiceMux
variable {μ : Type}

namespace Inbox

def fill (ticket : Nat) (result : Except ServerError (Reply μ)) (i : Inbox μ) : Inbox μ :=
  if i.registration.ticket = ticket ∧ i.result = none then { i with result := some result } else i

def fillAll (tickets : List Nat) (result : Except ServerError (Reply μ)) (i : Inbox μ) : Inbox μ :=
  if i.registration.ticket ∈ tickets ∧ i.result = none then { i with result := some result } else i

variable {ticket : Nat} {tickets : List Nat} {result : Except ServerError (Reply μ)} {i : Inbox μ}

@[simp] theorem fillRegistration : (i.fill ticket result).registration = i.registration := by
  unfold fill; split <;> rfl

@[simp] theorem fillAllRegistration : (i.fillAll tickets result).registration = i.registration := by
  unfold fillAll; split <;> rfl

theorem fillAllNil : i.fillAll [] result = i := by simp [fillAll]

theorem fillAllCons : (i.fill ticket result).fillAll tickets result =
    i.fillAll (ticket :: tickets) result := by
  obtain ⟨r, found⟩ := i
  cases found with
  | some _ => simp [fill, fillAll]
  | none => by_cases same : r.ticket = ticket <;> simp [fill, fillAll, same]

end Inbox

namespace Connection

/-- No two inboxes have one ticket. -/
def Apart (c : Connection μ) : Prop := (c.inboxes.map (·.registration.ticket)).Nodup

theorem Apart.perm {c d : Connection μ} (h : c.Apart) {f : Inbox μ → Inbox μ}
    (keeps : ∀ i, (f i).registration = i.registration) (same : d.inboxes.Perm (c.inboxes.map f)) :
    d.Apart := by
  have tickets := same.map (fun i : Inbox μ => i.registration.ticket)
  simp only [List.map_map, Function.comp_def, keeps] at tickets
  exact tickets.nodup_iff.mpr h

theorem Apart.inboxOf {c : Connection μ} (apart : c.Apart) {r : Registration} {i : Inbox μ} :
    c.inboxOf r = some i ↔ i ∈ c.inboxes ∧ i.registration.ticket = r.ticket := by
  constructor
  · intro found
    exact ⟨List.mem_of_find?_eq_some found, by simpa using List.find?_some found⟩
  · rintro ⟨member, same⟩
    unfold Connection.inboxOf
    cases found : c.inboxes.find? (·.registration.ticket == r.ticket) with
    | none =>
      have absent := List.find?_eq_none.mp found i member
      simp [same] at absent
    | some j =>
      have named : j.registration.ticket = r.ticket := by simpa using List.find?_some found
      rw [List.inj_on_of_nodup_map apart (List.mem_of_find?_eq_some found) member
        (named.trans same.symm)]

theorem Apart.others {c : Connection μ} (apart : c.Apart) {front back : List (Inbox μ)}
    {i : Inbox μ} (split : c.inboxes = front ++ i :: back) :
    ∀ j ∈ front ++ back, j.registration.ticket ≠ i.registration.ticket := by
  unfold Apart at apart
  rw [split, List.map_append, List.map_cons] at apart
  intro j member same
  refine (List.nodup_cons.mp (List.nodup_middle.mp apart)).1 ?_
  rw [← List.map_append]
  exact List.mem_map.mpr ⟨j, member, same⟩

/-- A result goes to the one that waits for it, and to nobody else. -/
theorem Apart.fillOne {c : Connection μ} (apart : c.Apart) {front back : List (Inbox μ)}
    {r : Registration} (split : c.inboxes = front ++ ⟨r, none⟩ :: back)
    (result : Except ServerError (Reply μ)) :
    c.inboxes.map (Inbox.fill r.ticket result) = front ++ ⟨r, some result⟩ :: back := by
  have kept : (front ++ back).map (Inbox.fill r.ticket result) = front ++ back := by
    refine (List.map_congr_left fun j member => ?_).trans (List.map_id _)
    simp [Inbox.fill, apart.others split j member]
  rw [List.map_append] at kept
  rw [split, List.map_append, List.map_cons, List.append_inj_left kept (by simp),
    List.append_inj_right kept (by simp)]
  simp [Inbox.fill]

variable (c : Connection μ) (ticket : Nat) (result : Except ServerError (Reply μ))

theorem deliverAs {c d : Connection μ} (same : d.inboxes = c.inboxes) :
    d.deliver ticket result =
      ({ d with inboxes := (c.deliver ticket result).1.inboxes }, (c.deliver ticket result).2) := by
  unfold deliver
  dsimp only
  rw [same]
  split
  · rfl
  · rw [← same]

theorem deliverShape : (c.deliver ticket result).1 =
    { c with inboxes := (c.deliver ticket result).1.inboxes } :=
  congrArg Prod.fst (deliverAs ticket result rfl)

theorem deliverPerm {c : Connection μ} (h : c.Apart) :
    (c.deliver ticket result).1.inboxes.Perm (c.inboxes.map (Inbox.fill ticket result)) := by
  unfold deliver
  dsimp only
  -- The filled inbox moves to the end, so the lists agree only up to their order.
  split
  · rename_i i found
    obtain ⟨awaits, front, back, split, -⟩ := List.find?_eq_some_iff_append.mp found
    simp only [Bool.and_eq_true, beq_iff_eq, Option.isNone_iff_eq_none] at awaits
    obtain ⟨r, empty⟩ := i
    obtain ⟨rfl, rfl⟩ := awaits
    have others := h.others split
    have stay : (front ++ back).filter (fun j => !(j.registration.ticket == r.ticket &&
        j.result.isNone)) = front ++ back :=
      List.filter_eq_self.mpr fun j member => by simp [others j member]
    rw [h.fillOne split, split]
    simp only [List.filter_append, List.filter_cons, beq_self_eq_true, Option.isNone_none,
      Bool.and_self, Bool.not_true, Bool.false_eq_true, if_false] at stay ⊢
    rw [stay]
    exact (List.perm_append_singleton _ _).trans List.perm_middle.symm
  · rename_i missing
    rw [(List.map_congr_left fun j member => ?_).trans (List.map_id' _)]
    have absent := List.find?_eq_none.mp missing j member
    simp only [Bool.and_eq_true, beq_iff_eq, Option.isNone_iff_eq_none] at absent
    simp only [Inbox.fill, if_neg absent]

theorem deliverTold : (c.deliver ticket result).2 = true ↔
    ∃ i ∈ c.inboxes, i.registration.ticket = ticket ∧ i.result = none := by
  unfold deliver
  dsimp only
  split
  · rename_i i found
    have awaits := List.find?_some found
    simp only [Bool.and_eq_true, beq_iff_eq, Option.isNone_iff_eq_none] at awaits
    simp only [true_iff]
    exact ⟨i, List.mem_of_find?_eq_some found, awaits⟩
  · rename_i missing
    simp only [Bool.false_eq_true, false_iff, not_exists, not_and]
    intro i member same
    have absent := List.find?_eq_none.mp missing i member
    simpa [same] using absent

/-! Going down. -/

variable (tickets : List Nat)

def deliverAll (c : Connection μ) : Connection μ :=
  tickets.foldl (fun c ticket => (c.deliver ticket result).1) c

theorem deliverAllShape : c.deliverAll result tickets =
    { c with inboxes := (c.deliverAll result tickets).inboxes } := by
  unfold deliverAll
  induction tickets generalizing c with
  | nil => rfl
  | cons ticket rest ih =>
    rw [List.foldl_cons, ih, deliverShape]

theorem deliverAllPerm {c : Connection μ} (h : c.Apart) :
    (c.deliverAll result tickets).inboxes.Perm (c.inboxes.map (Inbox.fillAll tickets result)) := by
  unfold deliverAll
  induction tickets generalizing c with
  | nil =>
    rw [(List.map_congr_left fun i _ => Inbox.fillAllNil).trans (List.map_id' _)]
    exact .refl _
  | cons ticket rest ih =>
    have one := deliverPerm ticket result h
    have apart := h.perm (fun _ => Inbox.fillRegistration) one
    refine (ih apart).trans ((one.map _).trans ?_)
    simp [Function.comp_def, Inbox.fillAllCons]

theorem deliverAllInboxes {c d : Connection μ} (same : d.inboxes = c.inboxes) :
    (d.deliverAll result tickets).inboxes = (c.deliverAll result tickets).inboxes := by
  unfold deliverAll
  induction tickets generalizing c d with
  | nil => exact same
  | cons ticket rest ih =>
    exact ih (congrArg (fun told => told.1.inboxes) (deliverAs ticket result same))

/-- A connection whose waiting callers are about to be told. -/
def refusing (reason : CloseReason) (c : Connection μ) : Connection μ :=
  let d := { c with lifecycle := .closing, table := c.table.close }
  if reason = .released then d
  else d.warn (.disconnecting c.service c.table.awaited.length reason)

/-- A connection whose waiting callers have been told. -/
def takenDown (c : Connection μ) : Connection μ :=
  { c with
    lifecycle := .closed
    shutdown := true
    writeHalf := c.writeHalf && !c.line.isEmpty
    metrics := { c.metrics with closes := c.metrics.closes + 1 } }

theorem closeStages {c : Connection μ} (live : c.isLive = true) (reason : CloseReason) :
    c.close reason =
      ((c.refusing reason).deliverAll (.error .connectionLost) c.table.awaited).takenDown := by
  unfold close
  rw [if_pos live]
  rfl

theorem closeLive {c : Connection μ} (live : c.isLive = true) (reason : CloseReason) :
    c.close reason =
      { c with
        lifecycle := .closed
        shutdown := true
        table := c.table.close
        inboxes := (c.deliverAll (.error .connectionLost) c.table.awaited).inboxes
        writeHalf := c.writeHalf && !c.line.isEmpty
        warnings := c.warnings ++ if reason = .released then [] else
          [.disconnecting c.service c.table.awaited.length reason]
        metrics := { c.metrics with closes := c.metrics.closes + 1 } } := by
  have same : (c.refusing reason).inboxes = c.inboxes := by unfold refusing; split <;> rfl
  rw [closeStages live, deliverAllShape, deliverAllInboxes _ _ same]
  unfold refusing takenDown
  by_cases quiet : reason = .released
  · simp only [if_pos quiet, List.append_nil]
  · simp only [if_neg quiet, warn]

theorem closeDown {c : Connection μ} (down : c.isLive = false) (reason : CloseReason) :
    c.close reason = c := by
  unfold close
  rw [if_neg (by simp [down])]

theorem closeInboxes {c : Connection μ} (live : c.isLive = true) (h : c.Apart)
    (reason : CloseReason) : (c.close reason).inboxes.Perm
      (c.inboxes.map (Inbox.fillAll c.table.awaited (.error .connectionLost))) := by
  rw [closeLive live]
  exact deliverAllPerm _ _ h

@[simp] theorem closeLine (reason : CloseReason) : (c.close reason).line = c.line := by
  cases live : c.isLive with
  | true => rw [closeLive live]
  | false => rw [closeDown live]

@[simp] theorem closeWaits (reason : CloseReason) : (c.close reason).waits = c.waits := by
  cases live : c.isLive with
  | true => rw [closeLive live]
  | false => rw [closeDown live]

@[simp] theorem closeNextTicket (reason : CloseReason) :
    (c.close reason).table.nextTicket = c.table.nextTicket := by
  cases live : c.isLive with
  | true => rw [closeLive live]; rfl
  | false => rw [closeDown live]

end Connection
end ServiceMux
