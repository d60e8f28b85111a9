import ServiceMux.Proofs.History
import ServiceMux.Proofs.Routing
import ServiceMux.Proofs.Running
import ServiceMux.Proofs.Submission
/-! A connection as its line and its far side see it: whether it is up, who stands in line, and what
was written. Main statements: all that a step can do to this part is one of a few moves
(`stepMoves`); routing, registering and waiting do nothing to it. -/
namespace ServiceMux
variable {μ : Type}

structure Outward where
  service : Service
  config : Config
  lifecycle : Lifecycle
  shutdown : Bool
  /-- No more registrations are taken. -/
  refusing : Bool
  closes : Nat
  writeHalf : Bool
  line : List Turn
  progress : Option Nat
  written : List UInt8
  requestsSent : Nat
  bytesWritten : Nat

inductive Mark where
  | queued (call : CallId) (frame : List UInt8)
  | locked (call : CallId) (frame : List UInt8)
  deriving DecidableEq, Repr

def Occurrence.mark? : Occurrence μ → Option Mark
  | queued call frame => some (.queued call frame)
  | locked call frame => some (.locked call frame)
  | _ => none

namespace Outward

def down (o : Outward) : Outward :=
  if o.lifecycle = .live then
    { o with
      lifecycle := .closed
      shutdown := true
      refusing := true
      closes := o.closes + 1
      writeHalf := o.writeHalf && !o.line.isEmpty }
  else o

/-- The reader goes: at once if nobody stands in line, else when its turn comes. -/
def leave (o : Outward) : Outward :=
  if o.line.isEmpty then { o with writeHalf := false }
  else { o with line := o.line ++ [.release] }

/-- The first in line goes. -/
def pass (o : Outward) : Outward := { o with line := o.line.tail, progress := none }

/-- Whoever is let run for the first time takes the write half. -/
def lock (o : Outward) (call : CallId) (frame : List UInt8) : List Mark :=
  if o.progress = none then [.locked call frame] else []

/-- The first in line hands over what is left of its frame. The connection may go down in the
meantime. -/
structure Writes (o : Outward) (call : CallId) (frame : List UInt8) (before : Nat)
    (after : Outward) : Prop where
  first : ∃ errand rest, o.line = .write call frame errand :: rest
  before : o.progress.getD 0 = before
  up : o.shutdown = false
  ready : o.progress = none → o.lifecycle = .live
  after : after = o ∨ after = o.down

inductive Move : Outward → List Mark → Outward → Prop where
  | still (o : Outward) : Move o [] o
  | down (o : Outward) : Move o [] o.down
  | join {o : Outward} (live : o.lifecycle = .live) (call : CallId) (frame : List UInt8)
      (errand : Errand) :
      Move o [.queued call frame] { o with line := o.line ++ [.write call frame errand] }
  /-- A call whose turn comes too late goes without having written. -/
  | goUnsent {o : Outward} {call : CallId} {frame : List UInt8} {errand : Errand}
      {rest : List Turn} (first : o.line = .write call frame errand :: rest)
      (late : o.shutdown = true ∨
        o.progress = none ∧ (o.lifecycle ≠ .live ∨ o.writeHalf = false)) :
      Move o (o.lock call frame) { o.pass with writeHalf := false }
  | stall {o after : Outward} {call : CallId} {frame : List UInt8} {before : Nat}
      (writes : o.Writes call frame before after) (taken : Nat)
      (atMost : taken ≤ (frame.drop before).length) :
      Move o (o.lock call frame)
        { after with
          progress := some (before + taken)
          written := o.written ++ (frame.drop before).take taken }
  | complete {o after : Outward} {call : CallId} {frame : List UInt8} {before : Nat}
      (writes : o.Writes call frame before after) :
      Move o (o.lock call frame)
        { after.pass with
          written := o.written ++ frame.drop before
          requestsSent := o.requestsSent + 1
          bytesWritten := o.bytesWritten + frame.length
          writeHalf := after.writeHalf && !after.shutdown && after.lifecycle == .live }
  | fail {o after : Outward} {call : CallId} {frame : List UInt8} {before : Nat}
      (writes : o.Writes call frame before after) (taken : Nat) :
      Move o (o.lock call frame)
        { after.pass with
          written := o.written ++ (frame.drop before).take taken
          writeHalf := false }.down
  /-- A call is given up before it has begun to write. -/
  | giveUp {o : Outward} (idle : o.progress = none) {call : CallId} {frame : List UInt8}
      {errand : Errand} {rest : List Turn} (first : o.line = .write call frame errand :: rest) :
      Move o [] o.pass
  /-- A call is given up with part of its frame on the wire. -/
  | abandon {o : Outward} (busy : o.progress ≠ none) :
      Move o [] { o with writeHalf := false }.down.pass
  /-- A call that is not the first leaves the line. -/
  | step {o : Outward} (call : CallId)
      (behind : ∀ turn, o.line.head? = some turn → turn.call? ≠ some call) :
      Move o [] { o with line := o.line.filter (·.call? != some call) }
  | leave {o : Outward} (told : o.shutdown = true) : Move o [] o.leave
  | downAndLeave (o : Outward) : Move o [] o.down.leave
  | release {o : Outward} {rest : List Turn} (first : o.line = .release :: rest) :
      Move o [] { o.pass with writeHalf := false }

@[simp] theorem downService (o : Outward) : o.down.service = o.service := by
  unfold down; split <;> rfl

@[simp] theorem downConfig (o : Outward) : o.down.config = o.config := by
  unfold down; split <;> rfl

@[simp] theorem downLine (o : Outward) : o.down.line = o.line := by
  unfold down; split <;> rfl

@[simp] theorem downProgress (o : Outward) : o.down.progress = o.progress := by
  unfold down; split <;> rfl

@[simp] theorem downWritten (o : Outward) : o.down.written = o.written := by
  unfold down; split <;> rfl

@[simp] theorem downSent (o : Outward) : o.down.requestsSent = o.requestsSent := by
  unfold down; split <;> rfl

@[simp] theorem downBytes (o : Outward) : o.down.bytesWritten = o.bytesWritten := by
  unfold down; split <;> rfl

namespace Writes
variable {o after : Outward} {call : CallId} {frame : List UInt8} {before : Nat}
  (h : o.Writes call frame before after)
include h

theorem line : after.line = o.line := by
  rcases h.after with rfl | rfl <;> simp

theorem written : after.written = o.written := by
  rcases h.after with rfl | rfl <;> simp

theorem sent : after.requestsSent = o.requestsSent := by
  rcases h.after with rfl | rfl <;> simp

theorem bytes : after.bytesWritten = o.bytesWritten := by
  rcases h.after with rfl | rfl <;> simp

theorem fixed : after.service = o.service ∧ after.config = o.config := by
  rcases h.after with rfl | rfl <;> simp

end Writes

@[simp] theorem leaveService (o : Outward) : o.leave.service = o.service := by
  unfold leave; split <;> rfl

@[simp] theorem leaveConfig (o : Outward) : o.leave.config = o.config := by
  unfold leave; split <;> rfl

theorem Move.fixed {o o' : Outward} {marks : List Mark} (h : Move o marks o') :
    o'.service = o.service ∧ o'.config = o.config := by
  cases h with
  | stall writes | complete writes => exact writes.fixed
  | fail writes taken => simpa [pass] using writes.fixed
  | abandon busy => simp [pass]
  | down | leave told | downAndLeave => simp
  | _ => exact ⟨rfl, rfl⟩

end Outward

namespace Connection

def outward (c : Connection μ) : Outward where
  service := c.service
  config := c.config
  lifecycle := c.lifecycle
  shutdown := c.shutdown
  refusing := c.table.closed
  closes := c.metrics.closes
  writeHalf := c.writeHalf
  line := c.line
  progress := c.progress
  written := c.written
  requestsSent := c.metrics.requestsSent
  bytesWritten := c.metrics.bytesWritten

/-! What does nothing to it. -/

section Quiet
variable (c : Connection μ)

@[simp] theorem withdrawOutward (r : Registration) : (c.withdraw r).outward = c.outward := by
  simp [outward, withdraw]

@[simp] theorem dropInboxOutward (r : Registration) : (c.dropInbox r).outward = c.outward :=
  withdrawOutward c r

@[simp] theorem letGoOutward (errand : Errand) : (c.letGo errand).outward = c.outward := by
  cases errand <;> first | exact dropInboxOutward c _ | rfl

@[simp] theorem takeBackOutward (errand : Errand) : (c.takeBack errand).outward = c.outward := by
  cases errand <;> first | exact dropInboxOutward c _ | exact withdrawOutward c _ | rfl

@[simp] theorem endWaitOutward (w : Wait) : (c.endWait w).outward = c.outward :=
  dropInboxOutward c w.registration

@[simp] theorem pollWaitOutward (w : Wait) (now : Instant) :
    (c.pollWait w now).1.outward = c.outward :=
  pollWaitState c w now (endWaitOutward c w) rfl

@[simp] theorem deliverOutward (ticket : Nat) (result : Except ServerError (Reply μ)) :
    (c.deliver ticket result).1.outward = c.outward := by
  rw [deliverShape]; rfl

theorem interruptOutward (r : Registration) : (c.interrupt r).1.outward = c.outward := by
  cases c.interruptCases r with
  | missed _ comes => rw [comes]
  | dropped _ comes => exact comes ▸ withdrawOutward c r
  | awaited _ comes => exact comes ▸ (deliverOutward _ _ _).trans (withdrawOutward c r)

theorem sentOutward (call : CallId) (errand : Errand) (now : Instant) :
    (c.sent call errand now).1.outward = c.outward := by
  cases errand <;> rfl

@[simp] theorem closeOutward (reason : CloseReason) :
    (c.close reason).outward = c.outward.down := by
  cases live : c.isLive with
  | true =>
    have up : c.outward.lifecycle = .live := beq_iff_eq.mp live
    rw [closeLive live, Outward.down, if_pos up]
    rfl
  | false =>
    have down : c.outward.lifecycle ≠ .live := beq_eq_false_iff_ne.mp live
    rw [closeDown live, Outward.down, if_neg down]

@[simp] theorem leaveOutward : c.leave.outward = c.outward.leave := by
  unfold leave Outward.leave outward
  split <;> rfl

end Quiet

theorem Takes.outward {c d : Connection μ} {purpose : Purpose} {id : UInt32} {errand : Errand}
    (h : c.Takes purpose d id errand) : d.outward = c.outward := by
  cases h with
  | request ok | receive ok | discard ok =>
    obtain ⟨_, _, _, after⟩ := PendingTable.registered ok
    rw [after]
    rfl
  | send ok =>
    obtain ⟨_, after⟩ := PendingTable.allocated ok
    rw [after]
    rfl
  | sendAs => rfl

/-! What each event does to it. -/

open Outward (Move)

section Turn
variable {c : Connection μ} {call : CallId} {frame : List UInt8} {errand : Errand}
  {rest : List Turn}

theorem firstMoves (first : c.line = .write call frame errand :: rest)
    (late : c.shutdown = true ∨ c.progress = none ∧ (c.isLive = false ∨ c.writeHalf = false))
    (e : ServerError) :
    Move c.outward (c.outward.lock call frame)
      (({ c with writeHalf := false }.stepAside).notSent errand e).1.outward := by
  have same : (({ c with writeHalf := false }.stepAside).notSent errand e).1.outward =
      { c.outward.pass with writeHalf := false } := letGoOutward _ errand
  rw [same]
  refine .goUnsent (o := c.outward) first ?_
  rcases late with told | ⟨idle, down | gone⟩
  · exact .inl told
  · exact .inr ⟨idle, .inl (beq_eq_false_iff_ne.mp down)⟩
  · exact .inr ⟨idle, .inr gone⟩

theorem writeOnMoves (first : c.line = .write call frame errand :: rest) {before : Nat}
    (begun : c.progress.getD 0 = before) (ready : c.progress = none → c.isLive = true)
    (now : Instant) (attempt : WriteAttempt) :
    Move c.outward (c.outward.lock call frame)
      (c.writeOn call frame errand before now attempt).1.outward := by
  have writes (up : c.shutdown = false) :
      c.outward.Writes call frame before (c.interfered attempt).outward :=
    ⟨⟨errand, rest, first⟩, begun, up, fun idle => beq_iff_eq.mp (ready idle),
      interferedState c attempt (.inl rfl) (.inr (closeOutward c .forced))⟩
  cases c.writeCases call frame errand before now attempt with
  | late told comes => exact comes ▸ firstMoves first (.inl told) _
  | @stalled up taken _ comes =>
    have written : (c.interfered attempt).written = c.written := (writes up).written
    rw [comes, partWritten, written]
    exact .stall (writes up) (min taken (frame.drop before).length) (Nat.min_le_right _ _)
  | complete up _ comes =>
    have written : (c.interfered attempt).written = c.written := (writes up).written
    have sent : (c.interfered attempt).metrics.requestsSent = c.metrics.requestsSent :=
      (writes up).sent
    have bytes : (c.interfered attempt).metrics.bytesWritten = c.metrics.bytesWritten :=
      (writes up).bytes
    rw [comes, sentOutward, wholeWritten, written, sent, bytes]
    exact .complete (writes up)
  | @failed up taken _ _ comes =>
    have written : (c.interfered attempt).written = c.written := (writes up).written
    have failed := Move.fail (writes up) taken
    rw [← takeBackOutward (c.interfered attempt) errand] at failed
    rw [comes, notSent, letGoOutward, writeTorn, closeOutward, written]
    exact failed

theorem takeTurnMoves (first : c.line = .write call frame errand :: rest) (now : Instant)
    (attempt : WriteAttempt) :
    Move c.outward (c.outward.lock call frame)
      (c.takeTurn call frame errand now attempt).1.outward := by
  cases c.turnCases call frame errand now attempt with
  | late idle shut comes => exact comes ▸ firstMoves first (.inr ⟨idle, shut⟩) _
  | writes ready comes => exact comes ▸ writeOnMoves first rfl ready now attempt

theorem pollMoves (c : Connection μ) (call : CallId) (now : Instant) (attempt : WriteAttempt) :
    Move c.outward ((c.turns call).filterMap Occurrence.mark?)
      (c.poll call now attempt).1.outward := by
  cases c.pollCases call now attempt with
  | waits found comes =>
    rw [comes, pollWaitOutward]
    simp only [turns, found]
    exact .still _
  | @turn frame errand _ absent first comes =>
    have moves := takeTurnMoves first now attempt
    have locks : (c.turns call).filterMap Occurrence.mark? = c.outward.lock call frame := by
      simp only [turns, absent, first, Outward.lock, outward]
      cases c.progress <;> simp [Occurrence.mark?]
    rwa [comes, locks]
  | still absent behind comes =>
    have quiet : c.turns call = [] := by
      unfold turns
      split
      · rename_i caller frame errand _ _ _ line
        have other : caller ≠ call := fun same =>
          behind (.write caller frame errand) (by rw [line]; rfl) (congrArg some same)
        exact if_neg (by simpa using other)
      · rfl
    rw [comes, quiet]
    exact .still _

theorem leaveLineMoves (c : Connection μ) (call : CallId)
    (behind : ∀ turn, c.line.head? = some turn → turn.call? ≠ some call) :
    Move c.outward [] (c.leaveLine call).outward := by
  cases c.leaveLineCases call with
  | write _ comes =>
    rw [comes, letGoOutward]
    exact .step (o := c.outward) call behind
  | still _ comes =>
    rw [comes]
    exact .still _

theorem abandonMoves (c : Connection μ) (call : CallId) :
    Move c.outward [] (c.abandon call).outward := by
  cases c.abandonCases call with
  | waits _ comes =>
    rw [comes, endWaitOutward]
    exact .still _
  | busy _ _ busy comes =>
    have same : (({ c with writeHalf := false } : Connection μ).close
        .writeAbandoned).stepAside.outward = { c.outward with writeHalf := false }.down.pass :=
      congrArg Outward.pass (closeOutward _ _)
    rw [comes, letGoOutward, same]
    exact .abandon (o := c.outward) (Option.isSome_iff_ne_none.mp busy)
  | idle _ first idle comes =>
    rw [comes, letGoOutward]
    exact .giveUp (o := c.outward) idle first
  | behind _ apart comes => exact comes ▸ leaveLineMoves c call apart

theorem releaseMoves (c : Connection μ) : Move c.outward [] c.release.outward := by
  refine releaseState c (fun _ => ?_) fun _ => .still _
  rw [closeOutward]
  exact .down c.outward

end Turn

variable [Message μ]

theorem tallyOutward (c : Connection μ) (frame : Frame) (m : Metrics) :
    (c.tally frame m).requestsSent = m.requestsSent ∧
      (c.tally frame m).bytesWritten = m.bytesWritten ∧ (c.tally frame m).closes = m.closes := by
  unfold tally decodedTally failedTally
  dsimp only
  split
  · split
    · split <;> split <;> exact ⟨rfl, rfl, rfl⟩
    · exact ⟨rfl, rfl, rfl⟩
  · split <;> exact ⟨rfl, rfl, rfl⟩

theorem routeOutward (c : Connection μ) (frame : Frame) :
    (c.route frame).outward = c.outward := by
  obtain ⟨sent, bytes, closes⟩ := tallyOutward c frame c.metrics
  rw [routeEq]
  simp only [outward, sent, bytes, closes, PendingTable.takeClosed]

theorem routeAllOutward (c : Connection μ) (frames : List Frame) :
    (frames.foldl route c).outward = c.outward := by
  induction frames generalizing c with
  | nil => rfl
  | cons frame rest ih => rw [List.foldl_cons, ih, routeOutward]

/-- The mark that a call leaves when it begins: none if it does not come to stand in line. -/
def beginning (c : Connection μ) (call : CallId) (begun : Begun μ) : List Mark :=
  match begun.outcome, Message.frame c.service.wireCode begun.request c.config.maxFrameSize with
  | none, .ok frame => [.queued call frame]
  | _, _ => []

theorem queuesMarks (c : Connection μ) (call : CallId) (purpose : Purpose) (request : μ) :
    (c.registrations purpose ++ c.queues call purpose request).filterMap Occurrence.mark? =
      c.beginning call (c.submit call purpose request) := by
  rw [List.filterMap_append, registrationsSilent (fun _ _ => rfl), List.nil_append]
  unfold queues beginning
  dsimp only
  cases (c.submit call purpose request).outcome with
  | some outcome => rfl
  | none =>
    cases Message.frame c.service.wireCode (c.submit call purpose request).request
      c.config.maxFrameSize <;> rfl

theorem submitMoves (c : Connection μ) (call : CallId) (purpose : Purpose) (request : μ) :
    Move c.outward (c.beginning call (c.submit call purpose request))
      (c.submit call purpose request).connection.outward := by
  rcases submitCases c call purpose request with
    ⟨e, refused, _⟩ | ⟨live, d, id, errand, taken, stands⟩
  · rw [refused]
    exact .still _
  rw [stands]
  unfold standInLine beginning
  rw [← taken.setting.1, ← taken.setting.2]
  cases framed : Message.frame d.service.wireCode (Message.stamp id request)
      d.config.maxFrameSize with
  | error e =>
    dsimp only
    rw [takeBackOutward, taken.outward]
    exact .still _
  | ok frame =>
    dsimp only
    rw [framed]
    have joined := Move.join (o := c.outward) (beq_iff_eq.mp live) call frame errand
    rw [← taken.outward] at joined ⊢
    exact joined

theorem feedMoves (c : Connection μ) (buffer data : List UInt8) :
    Move c.outward [] (c.feed buffer data).outward := by
  have routed := routeAllOutward { c with metrics :=
    { c.metrics with bytesRead := c.metrics.bytesRead + data.length } }
    (Frame.splitAll c.config.maxFrameSize (buffer ++ data)).frames
  unfold feed
  dsimp only
  generalize List.foldl (route (μ := μ)) _ _ = d at routed ⊢
  have same : d.outward = c.outward := routed
  split
  · have kept : ({ d with reader := .reading (Frame.splitAll c.config.maxFrameSize
        (buffer ++ data)).rest } : Connection μ).outward = c.outward := same
    rw [kept]
    exact .still _
  · rename_i cause _
    have told : ({ d.warn (.framingLost cause) with metrics := d.metrics.countFault } :
      Connection μ).outward = c.outward := same
    have gone := closeOutward { d.warn (.framingLost cause) with metrics := d.metrics.countFault }
      .corrupted
    rw [told] at gone
    rw [leaveOutward]
    exact gone ▸ .downAndLeave c.outward

theorem pollReaderMoves (c : Connection μ) (arrival : Option Arrival) :
    Move c.outward [] (c.pollReader arrival).outward := by
  cases c.readerCases arrival with
  | stopped _ comes | behind _ _ comes | idle _ _ _ comes =>
    rw [comes]
    exact .still _
  | passes _ first comes =>
    rw [comes]
    exact .release (o := c.outward) first
  | leaves _ told comes =>
    rw [comes, leaveOutward]
    exact .leave (o := c.outward) told
  | ended _ _ _ comes | fails _ _ _ comes =>
    rw [comes, leaveOutward, closeOutward]
    exact .downAndLeave c.outward
  | feeds _ _ _ _ comes => exact comes ▸ feedMoves c _ _

theorem arrivalsMarks (c : Connection μ) (data : List UInt8) :
    (c.arrivals data).filterMap Occurrence.mark? = [] := by
  unfold arrivals
  split
  · split
    · rfl
    · exact routingsSilent _ (fun _ _ => rfl) _
  · rfl

theorem stepMoves (c : Connection μ) (e : Event μ) :
    Move c.outward ((c.occurrences e).filterMap Occurrence.mark?) (c.step e).outward := by
  cases e with
  | submit call purpose request =>
    dsimp only [occurrences, step]
    split
    · rw [queuesMarks]
      exact submitMoves c call purpose request
    · exact .still _
  | poll call now attempt => exact pollMoves c call now attempt
  | abandon call => exact abandonMoves c call
  | wait call r within now =>
    dsimp only [step]
    split <;> exact .still _
  | dropReply r =>
    dsimp only [step]
    split
    · rw [dropInboxOutward]
      exact .still _
    · exact .still _
  | interrupt r =>
    dsimp only [step]
    rw [interruptOutward]
    exact .still _
  | read arrival =>
    have silent : (c.occurrences (.read arrival)).filterMap Occurrence.mark? = [] := by
      rcases arrival with _ | ⟨data⟩ | cause
      · rfl
      · exact arrivalsMarks c data
      · rfl
    rw [silent]
    exact pollReaderMoves c arrival
  | attach =>
    obtain ⟨n, same⟩ := attachStep c
    rw [same]
    exact .still _
  | release =>
    dsimp only [step]
    split
    · exact .still _
    · exact releaseMoves c
  | disconnect =>
    dsimp only [step]
    rw [closeOutward]
    exact .down _
  | allocate =>
    obtain ⟨n, same⟩ := allocateStep c
    rw [same]
    exact .still _
  | setReplyTimeout timeout => exact .still _
  | setJob job => exact .still _
  | setAttributes reply => exact .still _
  | addPrototype discriminator prototype => exact .still _
  | clearPrototypes => exact .still _

theorem stepFixed (c : Connection μ) (e : Event μ) :
    (c.step e).service = c.service ∧ (c.step e).config = c.config :=
  (stepMoves c e).fixed

theorem runFixed (c : Connection μ) (events : List (Event μ)) :
    (c.run events).service = c.service ∧ (c.run events).config = c.config := by
  refine afterRun (fun d => d.service = c.service ∧ d.config = c.config) ⟨rfl, rfl⟩ ?_ events
  intro d e ⟨service, config⟩
  have fixed := stepFixed d e
  exact ⟨fixed.1.trans service, fixed.2.trans config⟩

end Connection
end ServiceMux
