import ServiceMux.Proofs.Running
import ServiceMux.Proofs.Submission
/-! What lies in the inboxes comes from before. Main statements: a step that is no read leaves the
reader alone and puts nothing but errors into the inboxes that were there (`stepInherits`); only a
call that registers adds one, and it is empty (`submitInherits`). -/
namespace ServiceMux.Connection
variable {μ : Type}

/-- All that came into the inboxes since is errors, and the reader is where it was. -/
structure Inherits (d c : Connection μ) : Prop where
  inboxes : ∀ i ∈ d.inboxes, i ∈ c.inboxes ∨ ∃ e, i.result = some (.error e)
  reader : d.reader = c.reader
  tickets : c.table.nextTicket ≤ d.table.nextTicket

namespace Inherits
variable {b c d : Connection μ}

theorem same (inboxes : d.inboxes = c.inboxes) (reader : d.reader = c.reader)
    (tickets : d.table.nextTicket = c.table.nextTicket) : d.Inherits c :=
  ⟨fun _ member => .inl (inboxes ▸ member), reader, Nat.le_of_eq tickets.symm⟩

theorem refl (c : Connection μ) : c.Inherits c := same rfl rfl rfl

theorem trans (later : d.Inherits c) (earlier : c.Inherits b) : d.Inherits b := by
  refine ⟨fun i member => ?_, later.reader.trans earlier.reader,
    Nat.le_trans earlier.tickets later.tickets⟩
  rcases later.inboxes i member with old | error
  · exact earlier.inboxes i old
  · exact .inr error

end Inherits

theorem deliverMembers (c : Connection μ) (ticket : Nat) (result : Except ServerError (Reply μ)) :
    ∀ i ∈ (c.deliver ticket result).1.inboxes, i ∈ c.inboxes ∨ i.result = some result := by
  intro i member
  unfold deliver at member
  dsimp only at member
  split at member
  · rcases List.mem_append.mp member with old | new
    · exact .inl (List.mem_of_mem_filter old)
    · rw [List.mem_singleton.mp new]
      exact .inr rfl
  · exact .inl member

section Calls
variable (c : Connection μ)

theorem deliverInherits (ticket : Nat) (e : ServerError) :
    (c.deliver ticket (.error e)).1.Inherits c := by
  refine ⟨fun i member => ?_, by rw [deliverShape], Nat.le_of_eq (by rw [deliverShape])⟩
  rcases deliverMembers c ticket (.error e) i member with old | new
  · exact .inl old
  · exact .inr ⟨e, new⟩

theorem deliverAllInherits (tickets : List Nat) (e : ServerError) :
    (c.deliverAll (.error e) tickets).Inherits c := by
  unfold deliverAll
  induction tickets generalizing c with
  | nil => exact .refl c
  | cons ticket rest ih => exact (ih _).trans (deliverInherits c ticket e)

theorem closeInherits (reason : CloseReason) : (c.close reason).Inherits c := by
  cases live : c.isLive with
  | false => rw [closeDown live]; exact .refl c
  | true =>
    have told := deliverAllInherits c c.table.awaited .connectionLost
    rw [closeLive live]
    exact ⟨told.inboxes, rfl, Nat.le_refl _⟩

theorem withdrawInherits (r : Registration) : (c.withdraw r).Inherits c :=
  .same rfl rfl (PendingTable.cancelNextTicket _ _)

theorem dropInboxInherits (r : Registration) : (c.dropInbox r).Inherits c :=
  ⟨fun _ member => .inl (List.mem_of_mem_filter member), rfl, (withdrawInherits c r).tickets⟩

theorem letGoInherits (errand : Errand) : (c.letGo errand).Inherits c := by
  cases errand <;> first | exact dropInboxInherits c _ | exact .refl c

theorem takeBackInherits (errand : Errand) : (c.takeBack errand).Inherits c := by
  cases errand <;>
    first | exact dropInboxInherits c _ | exact withdrawInherits c _ | exact .refl c

theorem endWaitInherits (w : Wait) : (c.endWait w).Inherits c :=
  ⟨(dropInboxInherits c w.registration).inboxes, rfl, (withdrawInherits c w.registration).tickets⟩

theorem pollWaitInherits (w : Wait) (now : Instant) : (c.pollWait w now).1.Inherits c :=
  pollWaitState c w now (endWaitInherits c w) (.refl c)

theorem interruptInherits (r : Registration) : (c.interrupt r).1.Inherits c := by
  cases c.interruptCases r with
  | missed _ comes => exact comes ▸ Inherits.refl c
  | dropped _ comes => exact comes ▸ withdrawInherits c r
  | awaited _ comes => exact comes ▸ (deliverInherits _ _ _).trans (withdrawInherits c r)

theorem sentInherits (call : CallId) (errand : Errand) (now : Instant) :
    (c.sent call errand now).1.Inherits c := by
  cases errand <;> exact .same rfl rfl rfl

theorem barredInherits (errand : Errand) (e : ServerError) : (c.barred errand e).1.Inherits c :=
  (letGoInherits _ errand).trans (.same rfl rfl rfl)

theorem writeOnInherits (call : CallId) (frame : List UInt8) (errand : Errand) (before : Nat)
    (now : Instant) (attempt : WriteAttempt) :
    (c.writeOn call frame errand before now attempt).1.Inherits c := by
  have met : (c.interfered attempt).Inherits c :=
    interferedState c attempt (.refl c) (closeInherits c .forced)
  cases c.writeCases call frame errand before now attempt with
  | late _ comes => exact comes ▸ barredInherits c errand _
  | stalled _ _ comes => exact comes ▸ ⟨met.inboxes, met.reader, met.tickets⟩
  | complete _ _ comes =>
    rw [comes]
    exact (sentInherits _ call errand now).trans ⟨met.inboxes, met.reader, met.tickets⟩
  | failed _ _ comes =>
    rw [comes]
    refine (letGoInherits _ errand).trans ((closeInherits _ .writeFailed).trans ?_)
    have back := (takeBackInherits _ errand).trans met
    exact ⟨back.inboxes, back.reader, back.tickets⟩

theorem takeTurnInherits (call : CallId) (frame : List UInt8) (errand : Errand) (now : Instant)
    (attempt : WriteAttempt) : (c.takeTurn call frame errand now attempt).1.Inherits c := by
  cases c.turnCases call frame errand now attempt with
  | late _ _ comes => exact comes ▸ barredInherits c errand _
  | writes _ comes => exact comes ▸ writeOnInherits c call frame errand _ now attempt

theorem pollInherits (call : CallId) (now : Instant) (attempt : WriteAttempt) :
    (c.poll call now attempt).1.Inherits c := by
  cases c.pollCases call now attempt with
  | waits _ comes => exact comes ▸ pollWaitInherits c _ now
  | turn _ _ comes => exact comes ▸ takeTurnInherits c call _ _ now attempt
  | still _ _ comes => exact comes ▸ Inherits.refl c

theorem leaveLineInherits (call : CallId) : (c.leaveLine call).Inherits c := by
  cases c.leaveLineCases call with
  | write _ comes => exact comes ▸ (letGoInherits _ _).trans (.same rfl rfl rfl)
  | still _ comes =>
    rw [comes]
    exact .refl c

theorem abandonInherits (call : CallId) : (c.abandon call).Inherits c := by
  cases c.abandonCases call with
  | waits _ comes => exact comes ▸ endWaitInherits c _
  | busy _ _ _ comes =>
    rw [comes]
    have down := closeInherits { c with writeHalf := false } .writeAbandoned
    exact (letGoInherits _ _).trans ⟨down.inboxes, down.reader, down.tickets⟩
  | idle _ _ _ comes =>
    rw [comes]
    exact (letGoInherits _ _).trans (.same rfl rfl rfl)
  | behind _ _ comes => exact comes ▸ leaveLineInherits c call

theorem releaseInherits : c.release.Inherits c :=
  releaseState c (fun _ => (closeInherits _ .released).trans (.same rfl rfl rfl))
    fun _ => .same rfl rfl rfl

end Calls

/-- A call that registers to wait adds an inbox, and there is nothing in it. Whoever registers has
the next ticket. -/
structure Adds (d c : Connection μ) (purpose : Purpose) : Prop where
  inboxes : ∀ i ∈ d.inboxes, i ∈ c.inboxes ∨ (∃ e, i.result = some (.error e)) ∨
    ∃ r, i = ⟨r, none⟩ ∧ c.registrations purpose = [.registered r .awaited]
  reader : d.reader = c.reader
  tickets : c.table.nextTicket + (c.registrations purpose).length ≤ d.table.nextTicket
  next : ∀ r fate, .registered r fate ∈ c.registrations purpose → r.ticket = c.table.nextTicket

theorem Inherits.adds {c d : Connection μ} (h : d.Inherits c) {purpose : Purpose}
    (none : c.registrations purpose = []) : d.Adds c purpose :=
  ⟨fun i member => (h.inboxes i member).imp_right .inl, h.reader, by rw [none]; exact h.tickets,
    fun r fate member => by simp [none] at member⟩

theorem Adds.inherit {b c d : Connection μ} {purpose : Purpose} (h : c.Adds b purpose)
    (later : d.Inherits c) : d.Adds b purpose := by
  refine ⟨fun i member => ?_, later.reader.trans h.reader, Nat.le_trans h.tickets later.tickets,
    h.next⟩
  rcases later.inboxes i member with old | error
  · exact h.inboxes i old
  · exact .inr (.inl error)

theorem registersAdds {c d : Connection μ} {purpose : Purpose} {fate : Fate} {r : Registration}
    (wanted : purpose.fate? = some fate) (live : c.isLive = true)
    (ok : c.table.register fate = .ok (r, d.table)) (reader : d.reader = c.reader)
    (inboxes : ∀ i ∈ d.inboxes, i ∈ c.inboxes ∨ i = ⟨r, none⟩ ∧ fate = .awaited) :
    d.Adds c purpose := by
  have one := registrationsOne wanted live ok
  obtain ⟨_, ticket, _, after⟩ := PendingTable.registered ok
  refine ⟨fun i member => ?_, reader, ?_, fun other fate' member => ?_⟩
  · rcases inboxes i member with old | ⟨new, rfl⟩
    · exact .inl old
    · exact .inr (.inr ⟨r, new, one⟩)
  · rw [one, after]
    exact Nat.le_refl (c.table.nextTicket + 1)
  · rw [one] at member
    cases List.mem_singleton.mp member
    exact ticket

theorem Takes.adds {c d : Connection μ} {purpose : Purpose} {id : UInt32} {errand : Errand}
    (h : c.Takes purpose d id errand) (live : c.isLive = true) : d.Adds c purpose := by
  cases h with
  | request ok => exact registersAdds rfl live ok rfl fun i member => by simpa using member
  | receive ok => exact registersAdds rfl live ok rfl fun i member => by simpa using member
  | discard ok => exact registersAdds rfl live ok rfl fun i member => .inl member
  | @send id table ok =>
    have tickets := congrArg PendingTable.nextTicket (PendingTable.allocated ok).2
    have same : Inherits { c with table } c := .same rfl rfl tickets
    exact same.adds rfl
  | sendAs => exact (Inherits.refl c).adds rfl

section Steps
variable [Message μ] (c : Connection μ)

theorem standInherits (call : CallId) (request : μ) (errand : Errand) :
    (c.standInLine call request errand).connection.Inherits c :=
  standInLineState call request (takeBackInherits c errand) fun _ => .same rfl rfl rfl

theorem submitInherits (call : CallId) (purpose : Purpose) (request : μ) :
    (c.submit call purpose request).connection.Adds c purpose := by
  rcases submitCases c call purpose request with
    ⟨e, refused, none, _⟩ | ⟨live, d, id, errand, taken, stands⟩
  · rw [refused]
    exact (Inherits.refl c).adds none
  · rw [stands]
    exact (taken.adds live).inherit (standInherits d call _ errand)

theorem stepInherits {e : Event μ}
    (begins : ∀ call purpose request, e ≠ .submit call purpose request)
    (reads : ∀ arrival, e ≠ .read arrival) : (c.step e).Inherits c := by
  cases e with
  | submit call purpose request => exact absurd rfl (begins call purpose request)
  | read arrival => exact absurd rfl (reads arrival)
  | poll call now attempt => exact pollInherits c call now attempt
  | abandon call => exact abandonInherits c call
  | wait call r within now =>
    dsimp only [step]
    split <;> exact .same rfl rfl rfl
  | dropReply r =>
    dsimp only [step]
    split
    · exact dropInboxInherits c r
    · exact .refl c
  | interrupt r => exact interruptInherits c r
  | attach =>
    obtain ⟨n, same⟩ := attachStep c
    rw [same]
    exact .same rfl rfl rfl
  | release =>
    dsimp only [step]
    split
    · exact .refl c
    · exact releaseInherits c
  | disconnect => exact closeInherits c .forced
  | allocate =>
    obtain ⟨n, same⟩ := allocateStep c
    rw [same]
    exact .same rfl rfl rfl
  | setReplyTimeout timeout => exact .same rfl rfl rfl
  | setJob job => exact .same rfl rfl rfl
  | setAttributes reply => exact .same rfl rfl rfl
  | addPrototype discriminator prototype => exact .same rfl rfl rfl
  | clearPrototypes => exact .same rfl rfl rfl

end Steps
end ServiceMux.Connection
