import ServiceMux.Proofs.Teardown
import ServiceMux.Proofs.Traffic
/-! The leases on a connection. Main statements: there are as many references as leases
(`Counted.step`), and a connection goes down when the last lease is dropped or when something takes
it down, and in no other case (`leasesCounted`). -/
namespace ServiceMux
variable {μ : Type}

abbrev LeaseId := Nat

/-- A connection and the leases on it that were not dropped yet. -/
structure Holding (μ : Type) where
  connection : Connection μ
  leases : List LeaseId
  /-- How many leases there ever were. -/
  issued : Nat

def Event.counts : Event μ → Bool
  | .attach | .release => true
  | _ => false

inductive Handling (μ : Type) where
  | attach
  | drop (lease : LeaseId)
  | other (event : Event μ) (apart : event.counts = false)

namespace Holding

/-- Whoever opens a connection has a lease on it. -/
def start (s : Setting μ) : Holding μ := ⟨s.start, [0], 1⟩

def attach (h : Holding μ) : Holding μ :=
  match h.connection.attach with
  | .ok connection => ⟨connection, h.leases ++ [h.issued], h.issued + 1⟩
  | .error _ => h

/-- A lease is dropped once. -/
def drop (h : Holding μ) (lease : LeaseId) : Holding μ :=
  if lease ∈ h.leases then
    { h with connection := h.connection.release, leases := h.leases.erase lease }
  else h

def step [Message μ] (h : Holding μ) : Handling μ → Holding μ
  | .attach => h.attach
  | .drop lease => h.drop lease
  | .other event _ => { h with connection := h.connection.step event }

def run [Message μ] (h : Holding μ) (handlings : List (Handling μ)) : Holding μ :=
  handlings.foldl step h

end Holding

namespace Connection
variable {c : Connection μ}

theorem attached {d : Connection μ} (ok : c.attach = .ok d) :
    c.references ≠ 0 ∧ c.isLive = true ∧ d = { c with references := c.references + 1 } := by
  unfold attach at ok
  split at ok
  · contradiction
  · rename_i allowed
    cases ok
    simpa using allowed

theorem attachRefused {e : ServerError} (refused : c.attach = .error e) :
    e = .connectionClosed ∧ (c.references = 0 ∨ c.isLive = false) := by
  unfold attach at refused
  split at refused
  · rename_i barred
    cases refused
    exact ⟨rfl, by simpa using barred⟩
  · contradiction

theorem releaseReferences (c : Connection μ) : c.release.references = c.references - 1 :=
  congrArg Terms.references (releaseTerms c)

theorem releaseLast (last : c.references = 1) : c.release.isLive = false :=
  releaseState c (fun _ => closeIsDown _ _) fun more => absurd last more

theorem releaseEarlier (more : c.references ≠ 1) : c.release.lifecycle = c.lifecycle :=
  releaseState c (fun last => absurd last more) fun _ => rfl

theorem stepReferences [Message μ] (c : Connection μ) {e : Event μ} (apart : e.counts = false) :
    (c.step e).references = c.references := by
  have traffic (same : e.isTraffic = true) : (c.step e).references = c.references :=
    congrArg Terms.references (stepTerms c same)
  cases e with
  | setReplyTimeout | setJob | setAttributes | addPrototype | clearPrototypes => rfl
  | attach | release => contradiction
  | _ => exact traffic rfl

end Connection

namespace Holding
open Connection
variable {h : Holding μ}

theorem dropHas {lease : LeaseId} (has : lease ∈ h.leases) : h.drop lease =
    { h with connection := h.connection.release, leases := h.leases.erase lease } :=
  if_pos has

theorem dropNone {lease : LeaseId} (none : lease ∉ h.leases) : h.drop lease = h := if_neg none

variable [Message μ]

/-- Each lease counts once, and an open connection has one. -/
structure Counted (s : Setting μ) (h : Holding μ) : Prop where
  count : h.connection.references = h.leases.length
  once : h.leases.Nodup
  issued : ∀ lease ∈ h.leases, lease < h.issued
  held : h.connection.lifecycle = .live → h.leases ≠ []
  reached : ∃ events, h.connection = s.start.run events

variable {s : Setting μ}

theorem startCounted (s : Setting μ) : (start s).Counted s :=
  ⟨rfl, List.nodup_singleton 0, by simp [start], fun _ => by simp [start], [], rfl⟩

theorem attachConnection (h : Holding μ) :
    h.attach.connection = h.connection.step .attach := by
  unfold attach Connection.step
  cases h.connection.attach <;> rfl

namespace Counted
variable (counted : h.Counted s)
include counted

theorem standing : h.connection.outward.Standing := by
  obtain ⟨events, reached⟩ := counted.reached
  rw [reached]
  exact runStanding s events

theorem further {c : Connection μ} {e : Event μ} (same : c = h.connection.step e) :
    ∃ events, c = s.start.run events := by
  obtain ⟨events, reached⟩ := counted.reached
  exact ⟨events ++ [e], by rw [same, reached, runLast]⟩

theorem positive {lease : LeaseId} (has : lease ∈ h.leases) : 0 < h.connection.references := by
  rw [counted.count]
  exact List.length_pos_of_mem has

theorem dropConnection {lease : LeaseId} (has : lease ∈ h.leases) :
    (h.drop lease).connection = h.connection.step .release := by
  rw [dropHas has]
  exact (if_neg (Nat.ne_of_gt (counted.positive has))).symm

theorem dropReferences {lease : LeaseId} (has : lease ∈ h.leases) :
    (h.drop lease).connection.references + 1 = h.connection.references := by
  have counts := counted.positive has
  rw [dropHas has]
  dsimp only
  rw [releaseReferences]
  omega

theorem stepConnection (a : Handling μ) :
    (h.step a).connection = h.connection ∨ ∃ e, (h.step a).connection = h.connection.step e := by
  cases a with
  | attach => exact .inr ⟨.attach, attachConnection h⟩
  | drop lease =>
    by_cases has : lease ∈ h.leases
    · exact .inr ⟨.release, counted.dropConnection has⟩
    · exact .inl (congrArg connection (dropNone has))
  | other e apart => exact .inr ⟨e, rfl⟩

theorem staysClosed (closed : h.connection.lifecycle = .closed) (a : Handling μ) :
    (h.step a).connection.lifecycle = .closed := by
  rcases counted.stepConnection a with same | ⟨e, same⟩
  · rw [same]
    exact closed
  · rcases counted.standing with up | down
    · rw [show h.connection.lifecycle = .live from up.lifecycle] at closed
      contradiction
    · rw [same]
      exact (down.move (stepMoves h.connection e)).1.lifecycle

theorem wasLive {a : Handling μ} (live : (h.step a).connection.lifecycle = .live) :
    h.connection.lifecycle = .live := by
  rcases counted.standing with up | down
  · exact up.lifecycle
  · rw [counted.staysClosed down.lifecycle] at live
    contradiction

theorem attachIff : (∃ d, h.connection.attach = .ok d) ↔ h.connection.lifecycle = .live := by
  constructor
  · rintro ⟨d, ok⟩
    exact beq_iff_eq.mp (attached ok).2.1
  · intro live
    cases answer : h.connection.attach with
    | ok d => exact ⟨d, rfl⟩
    | error e =>
      rcases (attachRefused answer).2 with none | down
      · rw [counted.count, List.length_eq_zero_iff] at none
        exact absurd none (counted.held live)
      · exact absurd live (beq_eq_false_iff_ne.mp down)

/-! What each step does to the books. -/

theorem attach : h.attach.Counted s := by
  have reached := counted.further (attachConnection h)
  unfold Holding.attach at reached ⊢
  cases answer : h.connection.attach with
  | error e => exact counted
  | ok d =>
    rw [answer] at reached
    obtain ⟨_, _, rfl⟩ := attached answer
    have new : h.issued ∉ h.leases := fun has => Nat.lt_irrefl _ (counted.issued _ has)
    refine ⟨by simp [counted.count], ?_, fun lease has => ?_, fun _ => by simp, reached⟩
    · refine List.nodup_append.mpr ⟨counted.once, List.nodup_singleton _, ?_⟩
      intro lease has other last same
      rw [List.mem_singleton.mp last] at same
      exact new (same ▸ has)
    · rcases List.mem_append.mp has with old | last
      · exact Nat.lt_succ_of_lt (counted.issued lease old)
      · rw [List.mem_singleton.mp last]
        exact Nat.lt_succ_self _

theorem drop (lease : LeaseId) : (h.drop lease).Counted s := by
  by_cases has : lease ∈ h.leases
  · have fewer := counted.dropReferences has
    have reached := counted.further (counted.dropConnection has)
    have size := List.length_erase_of_mem has
    rw [dropHas has] at fewer reached ⊢
    dsimp only at fewer reached
    refine ⟨?_, counted.once.erase lease,
      fun other there => counted.issued other (List.mem_of_mem_erase there), ?_, reached⟩
    · dsimp only
      rw [size, ← counted.count]
      omega
    · intro live none
      dsimp only at none
      rw [none, List.length_nil, ← counted.count] at size
      have last : h.connection.references = 1 := by omega
      exact beq_eq_false_iff_ne.mp (releaseLast last) live
  · rw [dropNone has]
    exact counted

theorem other {e : Event μ} (apart : e.counts = false) : (h.step (.other e apart)).Counted s :=
  ⟨(stepReferences h.connection apart).trans counted.count, counted.once, counted.issued,
    fun live => counted.held (counted.wasLive live), counted.further rfl⟩

theorem step (a : Handling μ) : (h.step a).Counted s := by
  cases a with
  | attach => exact counted.attach
  | drop lease => exact counted.drop lease
  | other e apart => exact counted.other apart

/-! How it ends. -/

theorem noneLeft (none : h.connection.references = 0) :
    h.leases = [] ∧ h.connection.lifecycle = .closed := by
  rw [counted.count, List.length_eq_zero_iff] at none
  rcases counted.standing with up | down
  · exact absurd none (counted.held up.lifecycle)
  · exact ⟨none, down.lifecycle⟩

theorem staysNone (none : h.connection.references = 0) (a : Handling μ) :
    (h.step a).connection.references = 0 := by
  obtain ⟨leases, closed⟩ := counted.noneLeft none
  cases a with
  | attach =>
    show h.attach.connection.references = 0
    unfold Holding.attach
    cases answer : h.connection.attach with
    | ok d => exact absurd none (attached answer).1
    | error e => exact none
  | drop lease =>
    have gone : lease ∉ h.leases := by simp [leases]
    show (h.drop lease).connection.references = 0
    rw [dropNone gone]
    exact none
  | other e apart => exact (stepReferences h.connection apart).trans none

/-- An open connection goes down with its last lease, or because something takes it down. -/
theorem endsIff (live : h.connection.lifecycle = .live) (a : Handling μ) :
    (h.step a).connection.lifecycle = .closed ↔ (h.step a).connection.references = 0 ∨
      ∃ e apart reason b, a = .other e apart ∧ h.connection.Falls e reason b := by
  obtain ⟨events, reached⟩ := counted.reached
  have falls (e : Event μ) := fallsIff s events (reached ▸ live) e
  rw [← reached] at falls
  constructor
  · intro closed
    have moved : (h.step a).connection.lifecycle ≠ h.connection.lifecycle := by
      rw [closed, live]
      nofun
    cases a with
    | attach =>
      obtain ⟨n, same⟩ := attachStep h.connection
      refine absurd ?_ moved
      show h.attach.connection.lifecycle = h.connection.lifecycle
      rw [attachConnection, same]
    | drop lease =>
      by_cases has : lease ∈ h.leases
      · have last : h.connection.references = 1 := by
          by_contra more
          refine moved (Eq.trans ?_ (releaseEarlier more))
          exact congrArg (·.connection.lifecycle) (dropHas has)
        have fewer := counted.dropReferences has
        exact .inl (by show (h.drop lease).connection.references = 0; omega)
      · exact absurd (congrArg (·.connection.lifecycle) (dropNone has)) moved
    | other e apart =>
      obtain ⟨reason, b, fell⟩ := (falls e).mp closed
      exact .inr ⟨e, apart, reason, b, rfl, fell⟩
  · rintro (none | ⟨e, apart, reason, b, rfl, fell⟩)
    · exact ((counted.step a).noneLeft none).2
    · exact (falls e).mpr ⟨reason, b, fell⟩

end Counted

theorem afterRun (holds : Holding μ → Prop) (start : holds h)
    (step : ∀ h a, holds h → holds (h.step a)) (handlings : List (Handling μ)) :
    holds (h.run handlings) := by
  unfold run
  induction handlings generalizing h with
  | nil => exact start
  | cons a rest ih => exact ih (step h a start)

theorem leasesCounted (s : Setting μ) (handlings : List (Handling μ)) :
    let h := (start s).run handlings
    let c := h.connection
    c.references = h.leases.length ∧ h.leases.Nodup ∧
      ((∃ d, c.attach = .ok d) ↔ c.lifecycle = .live) ∧
      (∀ e, c.attach = .error e → e = .connectionClosed ∧ h.step .attach = h) ∧
      (c.lifecycle = .live → h.leases ≠ []) ∧
      (∀ lease ∈ h.leases, (h.step (.drop lease)).connection.references + 1 = c.references) ∧
      (c.references = 0 → ∀ later, (h.run later).connection.references = 0) ∧
      (c.lifecycle = .live ∨ c.lifecycle = .closed) ∧
      (c.lifecycle = .closed → ∀ later, (h.run later).connection.lifecycle = .closed) ∧
      (c.lifecycle = .live → ∀ a, (h.step a).connection.lifecycle = .closed ↔
        (h.step a).connection.references = 0 ∨
          ∃ e apart reason b, a = .other e apart ∧ c.Falls e reason b) := by
  intro h c
  have counted : h.Counted s :=
    afterRun (Counted s) (startCounted s) (fun _ a kept => kept.step a) handlings
  have lasting (holds : Holding μ → Prop) (now : holds h)
      (step : ∀ g, g.Counted s → holds g → ∀ a, holds (g.step a)) (later : List (Handling μ)) :
      holds (h.run later) :=
    (afterRun (fun g => g.Counted s ∧ holds g) ⟨counted, now⟩
      (fun g a kept => ⟨kept.1.step a, step g kept.1 kept.2 a⟩) later).2
  refine ⟨counted.count, counted.once, counted.attachIff, fun e refused => ?_, counted.held,
    fun lease has => counted.dropReferences has, fun none => ?_, ?_, fun closed => ?_,
    counted.endsIff⟩
  · refine ⟨(attachRefused refused).1, ?_⟩
    show h.attach = h
    unfold Holding.attach
    rw [refused]
  · exact lasting (·.connection.references = 0) none fun g kept => kept.staysNone
  · exact counted.standing.imp (·.lifecycle) (·.lifecycle)
  · exact lasting (·.connection.lifecycle = .closed) closed fun g kept => kept.staysClosed

end Holding
end ServiceMux
