import ServiceMux.Connection.Event
import ServiceMux.Proofs.Delivery
/-! What can come of letting a call run, of giving it up, of an interruption, and of a read. Main
statements: a poll is a look at the inbox or a turn at the write half, or nothing (`pollCases`), and
each of these is taken apart once and for all (`waitCases`, `turnCases`, `writeCases`); so are the
other events (`leaveLineCases`, `abandonCases`, `interruptCases`, `readerCases`). -/
namespace ServiceMux
variable {μ : Type}

/-- What a call answers that has sent its frame. -/
def Errand.answer? : Errand → Option (Answer μ)
  | handOut r => some (.handle r)
  | await _ _ => none
  | discard r => some (.id r.correlationId)
  | numbered id => some (.id id)
  | plain => some .done

namespace Connection

section Wait
variable (c : Connection μ) (w : Wait) (now : Instant)

variable {c w} in
theorem pollWaitTold {result : Except ServerError (Reply μ)}
    (found : (c.inboxOf w.registration).bind (·.result) = some result) (now : Instant) :
    c.pollWait w now = (c.endWait w, some (result.map .reply)) := by
  simp only [pollWait, found]

inductive Awaits : Prop where
  | told {result : Except ServerError (Reply μ)}
      (found : (c.inboxOf w.registration).bind (·.result) = some result)
      (comes : c.pollWait w now = (c.endWait w, some (result.map .reply)))
  | lost (empty : (c.inboxOf w.registration).bind (·.result) = none)
      (gone : c.table.holds w.registration = false)
      (comes : c.pollWait w now = (c.endWait w, some (.error .connectionLost)))
  | late {deadline : Deadline} (empty : (c.inboxOf w.registration).bind (·.result) = none)
      (held : c.table.holds w.registration = true) (set : w.deadline = some deadline)
      (due : deadline.isDue now = true)
      (comes : c.pollWait w now = (c.endWait w,
        some (.error (.timeout w.registration.correlationId deadline.after))))
  | still (empty : (c.inboxOf w.registration).bind (·.result) = none)
      (held : c.table.holds w.registration = true)
      (early : ∀ deadline, w.deadline = some deadline → deadline.isDue now = false)
      (comes : c.pollWait w now = (c, none))

theorem waitCases : c.Awaits w now := by
  cases found : (c.inboxOf w.registration).bind (·.result) with
  | some result => exact .told found (pollWaitTold found now)
  | none =>
    cases held : c.table.holds w.registration with
    | false => exact .lost found held (by simp [pollWait, found, held])
    | true =>
      cases set : w.deadline with
      | none => exact .still found held (by simp [set]) (by simp [pollWait, found, held, set])
      | some deadline =>
        cases due : deadline.isDue now with
        | true => exact .late found held set due (by simp [pollWait, found, held, set, due])
        | false =>
          exact .still found held (by simpa [set] using due)
            (by simp [pollWait, found, held, set, due])

/-- Whatever it tells, the wait is over or nothing has changed. -/
@[elab_as_elim]
theorem pollWaitState {motive : Connection μ → Prop} (ended : motive (c.endWait w))
    (still : motive c) : motive (c.pollWait w now).1 := by
  cases c.waitCases w now with
  | told _ comes | lost _ _ comes | late _ _ _ _ comes => exact comes ▸ ended
  | still _ _ _ comes => exact comes ▸ still

/-- A wait answers with nothing but the reply. -/
theorem pollWaitPlain {answer : Answer μ} (plain : ∀ reply, answer ≠ .reply reply) :
    (c.pollWait w now).2 ≠ some (.ok answer) := by
  cases c.waitCases w now with
  | @told result _ comes =>
    rw [comes]
    cases result with
    | error e => nofun
    | ok reply =>
      intro same
      cases same
      exact plain reply rfl
  | lost _ _ comes | late _ _ _ _ comes | still _ _ _ comes =>
    rw [comes]
    nofun

end Wait

section Turn
variable (c : Connection μ) (call : CallId) (frame : List UInt8) (errand : Errand) (before : Nat)
  (now : Instant) (attempt : WriteAttempt)

/-- The connection as the transport's answer finds it: perhaps the attempt had it disconnected. -/
def interfered : Connection μ := if attempt.disconnects then c.close .forced else c

@[elab_as_elim]
theorem interferedState {motive : Connection μ → Prop} (alone : motive c)
    (down : motive (c.close .forced)) : motive (c.interfered attempt) := by
  unfold interfered
  split
  · exact down
  · exact alone

@[simp] theorem interferedLine : (c.interfered attempt).line = c.line :=
  interferedState c attempt rfl (closeLine c .forced)

@[simp] theorem interferedWaits : (c.interfered attempt).waits = c.waits :=
  interferedState c attempt rfl (closeWaits c .forced)

/-- It is too late for the first in line to write. -/
def barred (e : ServerError) : Connection μ × Option (Outcome μ) :=
  ({ c with writeHalf := false }.stepAside).notSent errand e

def partWritten (left : List UInt8) (taken : Nat) : Connection μ :=
  { c with progress := some (before + taken), written := c.written ++ left.take taken }

def wholeWritten : Connection μ :=
  { c with
    metrics :=
      { c.metrics with
        requestsSent := c.metrics.requestsSent + 1
        bytesWritten := c.metrics.bytesWritten + frame.length }
    written := c.written ++ frame.drop before
    writeHalf := c.writeHalf && !c.shutdown && c.isLive }.stepAside

def writeTorn (taken : List UInt8) (cause : StreamError) : Connection μ :=
  let d := { c.takeBack errand with written := c.written ++ taken, writeHalf := false }
  (d.stepAside.warn (.writeFailed d.service cause)).close .writeFailed

inductive WritesOn : Prop where
  | late (told : c.shutdown = true)
      (comes : c.writeOn call frame errand before now attempt = c.barred errand .connectionLost)
  | stalled (up : c.shutdown = false) {taken : Nat} (result : attempt.result = .stalled taken)
      (comes : c.writeOn call frame errand before now attempt =
        ((c.interfered attempt).partWritten before (frame.drop before)
          (min taken (frame.drop before).length), none))
  | complete (up : c.shutdown = false) (result : attempt.result = .complete)
      (comes : c.writeOn call frame errand before now attempt =
        ((c.interfered attempt).wholeWritten frame before).sent call errand now)
  | failed (up : c.shutdown = false) {taken : Nat} {cause : StreamError}
      (result : attempt.result = .failed taken cause)
      (comes : c.writeOn call frame errand before now attempt =
        ((c.interfered attempt).writeTorn errand ((frame.drop before).take taken) cause).notSent
          errand (.stream cause))

theorem writeCases : c.WritesOn call frame errand before now attempt := by
  cases told : c.shutdown with
  | true => exact .late told (if_pos told)
  | false =>
    have up : ¬c.shutdown = true := by simp [told]
    cases result : attempt.result with
    | stalled taken => exact .stalled told result (by rw [writeOn, if_neg up, result]; rfl)
    | complete => exact .complete told result (by rw [writeOn, if_neg up, result]; rfl)
    | failed taken cause => exact .failed told result (by rw [writeOn, if_neg up, result]; rfl)

inductive TakesTurn : Prop where
  | late (idle : c.progress = none) (shut : c.isLive = false ∨ c.writeHalf = false)
      (comes : c.takeTurn call frame errand now attempt = c.barred errand (downError errand))
  | writes (ready : c.progress = none → c.isLive = true)
      (comes : c.takeTurn call frame errand now attempt =
        c.writeOn call frame errand (c.progress.getD 0) now attempt)

theorem turnCases : c.TakesTurn call frame errand now attempt := by
  cases progress : c.progress with
  | some before => exact .writes (by simp [progress]) (by simp only [takeTurn, progress]; rfl)
  | none =>
    by_cases shut : (!c.isLive || !c.writeHalf) = true
    · exact .late progress (by simpa using shut) (by
        simp only [takeTurn, progress, if_pos shut]; rfl)
    · exact .writes (fun _ => by simp_all) (by
        simp only [takeTurn, progress, if_neg shut]; rfl)

variable {c call frame errand now attempt}

theorem sentAnswers {answer : Answer μ}
    (sent : (c.sent call errand now).2 = some (.ok answer)) : errand.answer? = some answer := by
  cases errand <;> cases sent <;> rfl

theorem turnAnswers {answer : Answer μ}
    (sent : (c.takeTurn call frame errand now attempt).2 = some (.ok answer)) :
    errand.answer? = some answer := by
  cases c.turnCases call frame errand now attempt with
  | late _ _ comes =>
    rw [comes] at sent
    cases sent
  | writes _ comes =>
    rw [comes] at sent
    cases c.writeCases call frame errand (c.progress.getD 0) now attempt with
    | late _ comes | stalled _ _ comes | failed _ _ comes =>
      rw [comes] at sent
      cases sent
    | complete _ _ comes =>
      rw [comes] at sent
      exact sentAnswers sent

end Turn

section Call
variable (c : Connection μ) (call : CallId) (now : Instant) (attempt : WriteAttempt)

inductive Polls : Prop where
  | waits {w : Wait} (found : c.waits.find? (·.call == call) = some w)
      (comes : c.poll call now attempt = c.pollWait w now)
  | turn {frame : List UInt8} {errand : Errand} {rest : List Turn}
      (absent : c.waits.find? (·.call == call) = none)
      (first : c.line = .write call frame errand :: rest)
      (comes : c.poll call now attempt = c.takeTurn call frame errand now attempt)
  | still (absent : c.waits.find? (·.call == call) = none)
      (behind : ∀ turn, c.line.head? = some turn → turn.call? ≠ some call)
      (comes : c.poll call now attempt = (c, none))

theorem pollCases : c.Polls call now attempt := by
  cases found : c.waits.find? (·.call == call) with
  | some w => exact .waits found (by simp only [poll, found])
  | none =>
    cases line : c.line with
    | nil => exact .still found (by simp [line]) (by simp only [poll, found, line])
    | cons turn rest =>
      cases turn with
      | release =>
        exact .still found (by simp [line, Turn.call?]) (by simp only [poll, found, line])
      | write first frame errand =>
        by_cases own : first = call
        · subst own
          exact .turn found line (by simp [poll, found, line])
        · exact .still found (by simp [line, Turn.call?, own]) (by simp [poll, found, line, own])

inductive LeavesLine : Prop where
  | write {frame : List UInt8} {errand : Errand}
      (found : c.line.find? (·.call? == some call) = some (.write call frame errand))
      (comes : c.leaveLine call =
        { c with line := c.line.filter (·.call? != some call) }.letGo errand)
  | still (absent : ∀ turn ∈ c.line, turn.call? ≠ some call) (comes : c.leaveLine call = c)

theorem leaveLineCases : c.LeavesLine call := by
  cases found : c.line.find? (·.call? == some call) with
  | none => exact .still (by simpa using found) (by simp only [leaveLine, found])
  | some turn =>
    cases turn with
    | release => simpa [Turn.call?] using List.find?_some found
    | write caller frame errand =>
      obtain rfl : caller = call := by simpa [Turn.call?] using List.find?_some found
      exact .write found (by simp only [leaveLine, found])

inductive Abandons : Prop where
  | waits {w : Wait} (found : c.waits.find? (·.call == call) = some w)
      (comes : c.abandon call = c.endWait w)
  | busy {frame : List UInt8} {errand : Errand} {rest : List Turn}
      (absent : c.waits.find? (·.call == call) = none)
      (first : c.line = .write call frame errand :: rest) (busy : c.progress.isSome = true)
      (comes : c.abandon call =
        ({ c with writeHalf := false }.close .writeAbandoned).stepAside.letGo errand)
  | idle {frame : List UInt8} {errand : Errand} {rest : List Turn}
      (absent : c.waits.find? (·.call == call) = none)
      (first : c.line = .write call frame errand :: rest) (idle : c.progress = none)
      (comes : c.abandon call = c.stepAside.letGo errand)
  | behind (absent : c.waits.find? (·.call == call) = none)
      (behind : ∀ turn, c.line.head? = some turn → turn.call? ≠ some call)
      (comes : c.abandon call = c.leaveLine call)

theorem abandonCases : c.Abandons call := by
  cases found : c.waits.find? (·.call == call) with
  | some w => exact .waits found (by simp only [abandon, found])
  | none =>
    cases line : c.line with
    | nil => exact .behind found (by simp [line]) (by simp only [abandon, found, line])
    | cons turn rest =>
      cases turn with
      | release =>
        exact .behind found (by simp [line, Turn.call?]) (by simp only [abandon, found, line])
      | write first frame errand =>
        by_cases own : first = call
        · subst own
          cases progress : c.progress with
          | some before =>
            exact .busy found line (by simp [progress]) (by simp [abandon, found, line, progress])
          | none => exact .idle found line progress (by simp [abandon, found, line, progress])
        · exact .behind found (by simp [line, Turn.call?, own])
            (by simp [abandon, found, line, own])

end Call

section Interruption
variable {c : Connection μ} {r : Registration}

theorem interruptMissed (missed : c.table.holds r = false) : c.interrupt r = (c, false) := by
  have none : c.table.cancel r = (none, c.table) := if_neg (by simp [missed])
  simp only [interrupt, none]

theorem interruptAwaited (entry : c.table.get? r.correlationId = some ⟨r.ticket, .awaited⟩) :
    c.interrupt r =
      (((c.withdraw r).deliver r.ticket (.error (.interrupted r.correlationId))).1, true) := by
  simp only [interrupt, withdraw, (PendingTable.cancelOwn entry).2]

variable (c r)

inductive Interrupts : Prop where
  | missed (gone : c.table.holds r = false) (comes : c.interrupt r = (c, false))
  | dropped (entry : c.table.get? r.correlationId = some ⟨r.ticket, .dropped⟩)
      (comes : c.interrupt r = (c.withdraw r, false))
  | awaited (entry : c.table.get? r.correlationId = some ⟨r.ticket, .awaited⟩)
      (comes : c.interrupt r =
        (((c.withdraw r).deliver r.ticket (.error (.interrupted r.correlationId))).1, true))

theorem interruptCases : c.Interrupts r := by
  cases held : c.table.holds r with
  | false => exact .missed held (interruptMissed held)
  | true =>
    unfold PendingTable.holds at held
    split at held
    · rename_i slot entry
      obtain ⟨ticket, fate⟩ := slot
      obtain rfl : ticket = r.ticket := by simpa using held
      cases fate with
      | awaited => exact .awaited entry (interruptAwaited entry)
      | dropped =>
        exact .dropped entry (by simp only [interrupt, withdraw, (PendingTable.cancelOwn entry).2])
    · contradiction

end Interruption

@[elab_as_elim]
theorem releaseState (c : Connection μ) {motive : Connection μ → Prop}
    (last : c.references = 1 → motive ({ c with references := c.references - 1 }.close .released))
    (more : c.references ≠ 1 → motive { c with references := c.references - 1 }) :
    motive c.release := by
  unfold release
  dsimp only
  split
  · exact last ‹_›
  · exact more ‹_›

section Reader
variable [Message μ] (c : Connection μ) (arrival : Option Arrival)

inductive TakesIn : Prop where
  | stopped (reader : c.reader = .stopped) (comes : c.pollReader arrival = c)
  | behind (reader : c.reader = .leaving) (other : ∀ rest, c.line ≠ .release :: rest)
      (comes : c.pollReader arrival = c)
  | passes (reader : c.reader = .leaving) {rest : List Turn} (first : c.line = .release :: rest)
      (comes : c.pollReader arrival = { c with writeHalf := false, reader := .stopped }.stepAside)
  | leaves {buffer : List UInt8} (reader : c.reader = .reading buffer) (told : c.shutdown = true)
      (comes : c.pollReader arrival = c.leave)
  | idle {buffer : List UInt8} (reader : c.reader = .reading buffer) (up : c.shutdown = false)
      (none : arrival = none) (comes : c.pollReader arrival = c)
  | ended {buffer : List UInt8} (reader : c.reader = .reading buffer) (up : c.shutdown = false)
      (stops : arrival = some (.bytes []))
      (comes : c.pollReader arrival = (c.close .endOfStream).leave)
  | feeds {buffer data : List UInt8} (reader : c.reader = .reading buffer)
      (up : c.shutdown = false) (brings : arrival = some (.bytes data)) (full : data ≠ [])
      (comes : c.pollReader arrival = c.feed buffer data)
  | fails {buffer : List UInt8} (reader : c.reader = .reading buffer) (up : c.shutdown = false)
      {cause : StreamError} (fault : arrival = some (.failed cause))
      (comes : c.pollReader arrival = ((c.warn (.readFailed cause)).close .readFailed).leave)

theorem readerCases : c.TakesIn arrival := by
  cases reader : c.reader with
  | stopped => exact .stopped reader (by simp only [pollReader, reader])
  | leaving =>
    by_cases first : ∃ rest, c.line = .release :: rest
    · obtain ⟨rest, first⟩ := first
      exact .passes reader first (by simp only [pollReader, reader, first])
    · have other : ∀ rest, c.line ≠ .release :: rest := fun rest same => first ⟨rest, same⟩
      exact .behind reader other (by simp only [pollReader, reader])
  | reading buffer =>
    cases told : c.shutdown with
    | true => exact .leaves reader told (by simp only [pollReader, reader, told, if_true])
    | false =>
      have up : ¬c.shutdown = true := by simp [told]
      rcases arrival with _ | ⟨_ | ⟨head, tail⟩⟩ | cause
      · exact .idle reader told rfl (by simp only [pollReader, reader, if_neg up])
      · exact .ended reader told rfl (by simp only [pollReader, reader, if_neg up])
      · exact .feeds reader told rfl (List.cons_ne_nil head tail)
          (by simp only [pollReader, reader, if_neg up])
      · exact .fails reader told rfl (by simp only [pollReader, reader, if_neg up])

end Reader
end Connection
end ServiceMux
