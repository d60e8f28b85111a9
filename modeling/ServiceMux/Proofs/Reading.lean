import ServiceMux.Proofs.Fragments
import ServiceMux.Proofs.Inheritance
/-! What each event does, told by what happens in it. Main statements: a call begins, bytes are
read, or neither (`eventCases`); a read brings bytes in that are split and routed, or routes
nothing (`readCases`), and what it leaves behind (`feedLeaves`). -/
namespace ServiceMux.Connection
variable {μ : Type}

@[simp] theorem leaveInboxes (c : Connection μ) : c.leave.inboxes = c.inboxes := by
  unfold leave
  split <;> rfl

/-- A read that routes nothing. -/
structure Idles (d c : Connection μ) : Prop where
  inboxes : ∀ i ∈ d.inboxes, i ∈ c.inboxes ∨ ∃ e, i.result = some (.error e)
  tickets : c.table.nextTicket ≤ d.table.nextTicket
  reader : d.reader = c.reader ∨ ∀ buffer, d.reader ≠ .reading buffer

theorem Inherits.leaves {c d : Connection μ} (h : d.Inherits c) : d.leave.Idles c := by
  refine ⟨fun i member => h.inboxes i (by simpa using member), ?_, .inr (leaveDeaf d)⟩
  have same : d.leave.table = d.table := by unfold leave; split <;> rfl
  rw [same]
  exact h.tickets

variable [Message μ]

theorem submitSilent (c : Connection μ) (call : CallId) (purpose : Purpose) (request : μ) :
    (c.occurrences (.submit call purpose request)).filterMap Occurrence.routed? = [] := by
  dsimp only [occurrences]
  split
  · rw [List.filterMap_append, registrationsSilent fun _ _ => rfl, queuesSilent c fun _ _ => rfl]
    rfl
  · rfl

/-- What happens otherwise: no call begins, and nothing is read. -/
structure Passes (c : Connection μ) (e : Event μ) : Prop where
  inherits : (c.step e).Inherits c
  routed : (c.occurrences e).filterMap Occurrence.routed? = []
  registered : (c.occurrences e).filterMap Occurrence.registered? = []
  received : c.received e = []

theorem stepPasses (c : Connection μ) {e : Event μ}
    (begins : ∀ call purpose request, e ≠ .submit call purpose request)
    (reads : ∀ arrival, e ≠ .read arrival) : c.Passes e := by
  have inherits := stepInherits c begins reads
  cases e with
  | submit call purpose request => exact absurd rfl (begins call purpose request)
  | read arrival => exact absurd rfl (reads arrival)
  | poll call now attempt =>
    rcases turnsCases c call with none | ⟨frame, one⟩
    · exact ⟨inherits, by simp [occurrences, none], by simp [occurrences, none], rfl⟩
    · exact ⟨inherits, by simp [occurrences, one, Occurrence.routed?],
        by simp [occurrences, one, Occurrence.registered?], rfl⟩
  | _ => exact ⟨inherits, rfl, rfl, rfl⟩

theorem eventCases (c : Connection μ) (e : Event μ) :
    (∃ call purpose request, e = .submit call purpose request) ∨ (∃ arrival, e = .read arrival) ∨
      c.Passes e := by
  cases e with
  | submit call purpose request => exact .inl ⟨call, purpose, request, rfl⟩
  | read arrival => exact .inr (.inl ⟨arrival, rfl⟩)
  | _ => exact .inr (.inr (stepPasses c nofun nofun))

theorem deafRead {c : Connection μ}
    (deaf : ∀ buffer, c.reader = .reading buffer → c.shutdown = true) (arrival : Option Arrival) :
    c.occurrences (.read arrival) = [] ∧ c.received (.read arrival) = [] := by
  rcases arrival with _ | ⟨data⟩ | cause
  · exact ⟨rfl, rfl⟩
  · dsimp only [occurrences, arrivals, received]
    split
    · rename_i buffer reader
      rw [deaf buffer reader]
      exact ⟨rfl, rfl⟩
    · exact ⟨rfl, rfl⟩
  · exact ⟨rfl, rfl⟩

/-- A read brings bytes in that are split and routed, or it routes nothing. -/
theorem readCases (c : Connection μ) (arrival : Option Arrival) :
    (∃ buffer data, c.reader = .reading buffer ∧ c.shutdown = false ∧ data ≠ [] ∧
      arrival = some (.bytes data)) ∨
    (c.occurrences (.read arrival) = [] ∧ c.received (.read arrival) = [] ∧
      (c.step (.read arrival)).Idles c) := by
  have stays : c.Idles c := ⟨fun _ => .inl, Nat.le_refl _, .inl rfl⟩
  have steps {d : Connection μ} (comes : c.pollReader arrival = d) (idles : d.Idles c) :
      (c.step (.read arrival)).Idles c := by
    dsimp only [step]
    rwa [comes]
  cases c.readerCases arrival with
  | stopped reader comes | behind reader _ comes =>
    have deaf := deafRead (c := c) (by simp [reader]) arrival
    exact .inr ⟨deaf.1, deaf.2, steps comes stays⟩
  | passes reader _ comes =>
    have deaf := deafRead (c := c) (by simp [reader]) arrival
    refine .inr ⟨deaf.1, deaf.2, steps comes ?_⟩
    exact ⟨fun _ => .inl, Nat.le_refl _, .inr fun _ => Reader.noConfusion⟩
  | leaves _ told comes =>
    have deaf := deafRead (c := c) (fun _ _ => told) arrival
    exact .inr ⟨deaf.1, deaf.2, steps comes (Inherits.refl c).leaves⟩
  | idle _ _ none comes =>
    subst none
    exact .inr ⟨rfl, rfl, steps comes stays⟩
  | ended reader up stops comes =>
    subst stops
    refine .inr ⟨?_, ?_, steps comes (closeInherits c .endOfStream).leaves⟩
    · dsimp only [occurrences, arrivals]
      rw [reader, up]
      rfl
    · dsimp only [received]
      rw [reader, up]
      rfl
  | @feeds buffer data reader up brings full => exact .inl ⟨buffer, data, reader, up, full, brings⟩
  | @fails _ _ _ cause fault comes =>
    subst fault
    have down := closeInherits (c.warn (.readFailed cause)) .readFailed
    exact .inr ⟨rfl, rfl, steps comes (Inherits.leaves ⟨down.inboxes, down.reader, down.tickets⟩)⟩

theorem routeAllTickets (c : Connection μ) (frames : List Frame) :
    (frames.foldl route c).table.nextTicket = c.table.nextTicket := by
  induction frames generalizing c with
  | nil => rfl
  | cons frame rest ih =>
    rw [List.foldl_cons, ih, routeEq]
    exact PendingTable.takeNextTicket _ _

theorem feedLeaves (c : Connection μ) (buffer data : List UInt8) :
    let run := Frame.splitAll c.config.maxFrameSize (buffer ++ data)
    let d := run.frames.foldl route (c.countRead data.length)
    (∀ i ∈ (c.feed buffer data).inboxes, i ∈ d.inboxes ∨ ∃ e, i.result = some (.error e)) ∧
      c.table.nextTicket ≤ (c.feed buffer data).table.nextTicket ∧
      ∀ kept, (c.feed buffer data).reader = .reading kept → run.fault = none ∧ kept = run.rest := by
  intro run d
  have tickets : d.table.nextTicket = c.table.nextTicket := routeAllTickets _ run.frames
  cases fault : run.fault with
  | none =>
    have kept : c.feed buffer data = { d with reader := .reading run.rest } := by
      rw [feedStages]
      dsimp only
      rw [fault]
    rw [kept]
    refine ⟨fun _ => .inl, Nat.le_of_eq tickets.symm, fun kept same => ⟨rfl, ?_⟩⟩
    cases same
    rfl
  | some cause =>
    have lost : c.feed buffer data = (d.lost cause).leave := by
      rw [feedStages]
      dsimp only
      rw [fault]
    have down := closeInherits { d.warn (.framingLost cause) with metrics := d.metrics.countFault }
      .corrupted
    have gone : (d.lost cause).leave.Idles d :=
      Inherits.leaves ⟨down.inboxes, down.reader, down.tickets⟩
    rw [lost]
    refine ⟨gone.inboxes, Nat.le_trans (Nat.le_of_eq tickets.symm) gone.tickets, ?_⟩
    exact fun kept same => absurd same (leaveDeaf _ kept)

end ServiceMux.Connection
