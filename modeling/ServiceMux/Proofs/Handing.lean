import Mathlib.Data.List.Induction
import ServiceMux.Proofs.Outbound
import ServiceMux.Proofs.Teardown
/-! From standing in line to the frame on the wire. Main statements: whoever stands in line came to
it by a submission and has stood there since (`runEntered`), only the call that is first in line
hands anything over, when it is let run (`stepUnwritten`), and what it has handed over so far is
its frame, as far as it got (`standingHanded`). -/
namespace ServiceMux
variable {μ : Type}

namespace Outward
variable {o o' : Outward} {marks : List Mark}

theorem Move.members (h : Move o marks o') {turn : Turn} (stands : turn ∈ o'.line) :
    turn ∈ o.line ∨ turn = .release ∨
      ∃ call frame errand, turn = .write call frame errand ∧ .queued call frame ∈ marks := by
  have left {after : Outward} (stands : turn ∈ after.leave.line) (same : after.line = o.line) :
      turn ∈ o.line ∨ turn = .release := by
    unfold Outward.leave at stands
    split at stands
    · exact .inl (same ▸ stands)
    · exact (List.mem_append.mp stands).imp (same ▸ ·) List.mem_singleton.mp
  cases h with
  | still => exact .inl stands
  | down => exact .inl (by simpa using stands)
  | join live call frame errand =>
    rcases List.mem_append.mp stands with old | new
    · exact .inl old
    · exact .inr (.inr ⟨call, frame, errand, List.mem_singleton.mp new, List.mem_cons_self⟩)
  | goUnsent | giveUp | release => exact .inl (List.mem_of_mem_tail stands)
  | stall writes => exact .inl (writes.line ▸ stands)
  | complete writes => exact .inl (writes.line ▸ List.mem_of_mem_tail stands)
  | fail writes taken =>
    have inside : turn ∈ o.line.tail := by simpa [pass, writes.line] using stands
    exact .inl (List.mem_of_mem_tail inside)
  | abandon busy =>
    have inside : turn ∈ o.line.tail := by simpa [pass] using stands
    exact .inl (List.mem_of_mem_tail inside)
  | step call behind => exact .inl (List.mem_of_mem_filter stands)
  | leave told => exact (left stands rfl).imp_right .inl
  | downAndLeave => exact (left stands (by simp)).imp_right .inl

/-- What this call, with its turn in line, has handed over. -/
def handedOver (o : Outward) (turn : Turn) (frame : List UInt8) : List UInt8 :=
  if o.line.head? = some turn then frame.take (o.progress.getD 0) else []

theorem idleHandedOver (turn : Turn) (frame : List UInt8) (idle : o.progress = none) :
    o.handedOver turn frame = [] := by
  simp [handedOver, idle]

theorem behindHandedOver {turn : Turn} {frame : List UInt8} (behind : o.line.head? ≠ some turn) :
    o.handedOver turn frame = [] := if_neg behind

theorem sameHandedOver {turn : Turn} {frame : List UInt8} (line : o'.line.head? = o.line.head?)
    (progress : o'.progress = o.progress) :
    o'.handedOver turn frame = o.handedOver turn frame := by
  simp only [handedOver, line, progress]

/-- What is written from one state to the next is what the call hands over if it is the first, and
nothing of it if it is not. -/
def Forwards (o : Outward) (turn : Turn) (frame : List UInt8) (o' : Outward) : Prop :=
  o'.handedOver turn frame = o.handedOver turn frame ++
    if o.line.head? = some turn then o'.written.drop o.written.length else []

section Forwards
variable {call : CallId} {frame : List UInt8} {errand : Errand}

theorem keptForwards {turn : Turn} (line : o'.line.head? = o.line.head?)
    (progress : o'.progress = o.progress) (written : o'.written = o.written) :
    o.Forwards turn frame o' := by
  unfold Forwards
  rw [sameHandedOver line progress, written, List.drop_length, ite_self, List.append_nil]

/-- Of a line that goes on without its first, none that is still in it was the first. -/
theorem passedForwards (once : (o.line.filterMap Turn.call?).Nodup)
    (stands : Turn.write call frame errand ∈ o'.line) (line : o'.line = o.line.tail)
    (progress : o'.progress = none) : o.Forwards (.write call frame errand) frame o' := by
  have behind : o.line.head? ≠ some (.write call frame errand) := by
    intro first
    obtain ⟨rest, split⟩ := List.head?_eq_some_iff.mp first
    rw [line, split] at stands
    rw [split] at once
    exact (List.nodup_cons.mp once).1 (List.mem_filterMap.mpr ⟨_, stands, rfl⟩)
  unfold Forwards
  rw [idleHandedOver _ _ progress, behindHandedOver behind, if_neg behind, List.append_nil]

theorem stalledForwards {after : Outward} {caller : CallId} {other : List UInt8} {before : Nat}
    (writes : o.Writes caller other before after) (taken : Nat) :
    o.Forwards (.write call frame errand) frame
      { after with
        progress := some (before + taken)
        written := o.written ++ (other.drop before).take taken } := by
  obtain ⟨errand', rest, first⟩ := writes.first
  unfold Forwards
  by_cases mine : o.line.head? = some (.write call frame errand)
  · rw [first, List.head?_cons] at mine
    cases mine
    have begun := writes.before
    simp only [handedOver, writes.line, first, List.head?_cons, if_true, Option.getD_some, begun,
      List.take_add, List.drop_left]
  · have behind : after.line.head? ≠ some (.write call frame errand) := writes.line ▸ mine
    rw [behindHandedOver mine, if_neg mine]
    exact behindHandedOver behind

theorem joinedHead {turn : Turn} (was : turn ∈ o.line) (more : List Turn) :
    (o.line ++ more).head? = o.line.head? := by
  cases split : o.line with
  | nil =>
    rw [split] at was
    contradiction
  | cons => rfl

theorem leftForwards {turn : Turn} (was : turn ∈ o.line) (line : o'.line = o.line)
    (progress : o'.progress = o.progress) (written : o'.written = o.written) :
    o.Forwards turn frame o'.leave := by
  unfold Outward.leave
  split
  · exact keptForwards (congrArg List.head? line) progress written
  · exact keptForwards ((congrArg (fun l => (l ++ [Turn.release]).head?) line).trans
      (joinedHead was _)) progress written

/-- As long as the call stands in line, it hands over what is written if it is the first. -/
theorem Move.forwards (h : Move o marks o') (once : (o.line.filterMap Turn.call?).Nodup)
    (was : Turn.write call frame errand ∈ o.line)
    (stands : Turn.write call frame errand ∈ o'.line) :
    o.Forwards (.write call frame errand) frame o' := by
  cases h with
  | still => exact keptForwards rfl rfl rfl
  | down => exact keptForwards (by simp) (by simp) (by simp)
  | join live => exact keptForwards (joinedHead was _) rfl rfl
  | goUnsent | giveUp | release => exact passedForwards once stands rfl rfl
  | stall writes taken => exact stalledForwards writes taken
  | complete writes => exact passedForwards once stands (congrArg List.tail writes.line) rfl
  | fail writes => exact passedForwards once stands (by simp [pass, writes.line]) (by simp [pass])
  | abandon => exact passedForwards once stands (by simp [pass]) rfl
  | step caller behind =>
    refine keptForwards ?_ rfl rfl
    cases split : o.line with
    | nil => rfl
    | cons turn rest =>
      have other := behind turn (by simp [split])
      simp [other]
  | leave => exact leftForwards was rfl rfl rfl
  | downAndLeave => exact leftForwards was o.downLine o.downProgress o.downWritten

end Forwards

/-- What the first in line has handed over is what was written last. -/
theorem Outbound.endsWith {locks : List Sending} (h : Outbound locks o) {call : CallId}
    {frame : List UInt8} {errand : Errand} {rest : List Turn}
    (first : o.line = .write call frame errand :: rest) :
    ∃ front, o.written = front ++ frame.take (o.progress.getD 0) := by
  cases h with
  | clear idle | ended _ _ _ idle => exact ⟨o.written, by simp [idle]⟩
  | busy done caller other _ _ k progress line _ _ written =>
    rw [first] at line
    cases line
    exact ⟨bytesOf done, by rw [written, progress]; rfl⟩

end Outward

namespace Connection
variable [Message μ] {c : Connection μ} {e : Event μ}

/-! Coming to stand in line. -/

/-- With this event, a call comes to stand in line. -/
structure Enters (c : Connection μ) (call : CallId) (purpose : Purpose) (request : μ)
    (d : Connection μ) (id : UInt32) (errand : Errand) (frame : List UInt8) : Prop where
  live : c.isLive = true
  fresh : c.isFresh call = true
  takes : c.Takes purpose d id errand
  begins : c.submit call purpose request = d.standInLine call (Message.stamp id request) errand
  framed : Message.frame c.service.wireCode (Message.stamp id request) c.config.maxFrameSize =
    .ok frame

theorem stepLine {turn : Turn} (stands : turn ∈ (c.step e).line) :
    turn ∈ c.line ∨ turn = .release ∨ ∃ call purpose request d id errand frame,
      e = .submit call purpose request ∧ turn = .write call frame errand ∧
        c.Enters call purpose request d id errand frame := by
  by_cases begins : ∃ call purpose request, e = .submit call purpose request
  · obtain ⟨call, purpose, request, rfl⟩ := begins
    dsimp only [step] at stands
    split at stands
    · rename_i fresh
      rcases submitCases c call purpose request with
        ⟨_, refused, _⟩ | ⟨live, d, id, errand, taken, stood⟩
      · rw [refused] at stands
        exact .inl stands
      · have line : d.line = c.line := congrArg Outward.line taken.outward
        rw [stood] at stands
        unfold standInLine at stands
        split at stands
        · have same : (d.takeBack errand).line = d.line :=
            congrArg Outward.line (takeBackOutward d errand)
          exact .inl (line ▸ same ▸ stands)
        · rename_i frame framed
          rcases List.mem_append.mp stands with old | new
          · exact .inl (line ▸ old)
          · rw [taken.setting.1, taken.setting.2] at framed
            exact .inr (.inr ⟨call, purpose, request, d, id, errand, frame, rfl,
              List.mem_singleton.mp new, ⟨live, fresh, taken, stood, framed⟩⟩)
    · exact .inl stands
  · rcases (stepMoves c e).members stands with old | reader | ⟨call, frame, errand, rfl, queued⟩
    · exact .inl old
    · exact .inr (.inl reader)
    · obtain ⟨purpose, request, _, same, _⟩ := queuedBySubmit queued
      exact absurd ⟨call, purpose, request, same⟩ begins

theorem Enters.step {call : CallId} {purpose : Purpose} {request : μ} {d : Connection μ}
    {id : UInt32} {errand : Errand} {frame : List UInt8}
    (h : c.Enters call purpose request d id errand frame) :
    c.step (.submit call purpose request) =
      { d with line := d.line ++ [.write call frame errand] } := by
  have framed := h.framed
  rw [← h.takes.setting.1, ← h.takes.setting.2] at framed
  dsimp only [Connection.step]
  rw [if_pos h.fresh, h.begins]
  unfold standInLine
  rw [framed]

/-- A call that stands in line came to it by a submission, and has stood there since. -/
theorem runEntered (s : Setting μ) (events : List (Event μ)) {call : CallId} {frame : List UInt8}
    {errand : Errand} (stands : .write call frame errand ∈ (s.start.run events).line) :
    ∃ before purpose request after d id,
      events = before ++ .submit call purpose request :: after ∧
        (s.start.run before).Enters call purpose request d id errand frame ∧
        ∀ front, front <+: after → .write call frame errand ∈
          (((s.start.run before).step (.submit call purpose request)).run front).line := by
  induction events using List.reverseRecOn with
  | nil => contradiction
  | append_singleton past e ih =>
    have last := stands
    rw [runLast] at last
    rcases stepLine last with old | reader | ⟨_, purpose, request, d, id, _, _, rfl, same, enters⟩
    · obtain ⟨before, purpose, request, after, d, id, rfl, enters, since⟩ := ih old
      refine ⟨before, purpose, request, after ++ [e], d, id, by simp, enters,
        fun front within => ?_⟩
      rcases List.prefix_concat_iff.mp within with rfl | earlier
      · rw [← runLast, ← runAppend]
        simpa using stands
      · exact since front earlier
    · contradiction
    · cases same
      refine ⟨past, purpose, request, [], d, id, rfl, enters, fun front within => ?_⟩
      rw [List.prefix_nil.mp within]
      exact last

/-! Handing over. -/

section Calls
omit [Message μ]

theorem closeWritten (c : Connection μ) (reason : CloseReason) :
    (c.close reason).written = c.written :=
  (congrArg Outward.written (closeOutward c reason)).trans (Outward.downWritten _)

theorem leaveWritten (c : Connection μ) : c.leave.written = c.written := by
  unfold leave
  split <;> rfl

theorem letGoLine (c : Connection μ) (errand : Errand) : (c.letGo errand).line = c.line :=
  congrArg Outward.line (letGoOutward c errand)

theorem abandonWritten (c : Connection μ) (call : CallId) :
    (c.abandon call).written = c.written := by
  cases c.abandonCases call with
  | @waits w _ comes => exact comes ▸ congrArg Outward.written (endWaitOutward c w)
  | @busy _ errand _ _ _ _ comes =>
    rw [comes]
    exact (congrArg Outward.written (letGoOutward _ errand)).trans (closeWritten _ _)
  | @idle _ errand _ _ _ _ comes =>
    rw [comes]
    exact congrArg Outward.written (letGoOutward _ errand)
  | behind _ _ comes =>
    rw [comes]
    cases c.leaveLineCases call with
    | @write _ errand _ leaves => exact leaves ▸ congrArg Outward.written (letGoOutward _ errand)
    | still _ leaves => rw [leaves]

theorem releaseWritten (c : Connection μ) : c.release.written = c.written :=
  releaseState c (fun _ => closeWritten _ _) fun _ => rfl

end Calls

section Callers
omit [Message μ]
variable (apart : c.callers.Nodup) {call : CallId}
include apart

/-- A number names one turn. -/
theorem sameCall {turn other : Turn} (left : turn ∈ c.line)
    (right : other ∈ c.line) (mine : turn.call? = some call)
    (too : other.call? = some call) : turn = other := by
  have once : (c.line.filterMap Turn.call?).Nodup := (List.nodup_append.mp apart).1
  obtain ⟨front, back, line⟩ := List.append_of_mem left
  rw [line, List.filterMap_append, List.filterMap_cons, mine] at once
  have absent := (List.nodup_cons.mp (List.nodup_middle.mp once)).1
  rw [← List.filterMap_append, List.mem_filterMap] at absent
  rw [line, List.mem_append, List.mem_cons] at right
  rcases right with inFront | same | inBack
  · exact absurd ⟨other, List.mem_append_left _ inFront, too⟩ absent
  · exact same.symm
  · exact absurd ⟨other, List.mem_append_right _ inBack, too⟩ absent

omit apart in
theorem leaveLineLeaves {turn : Turn} (still : turn ∈ (c.leaveLine call).line) :
    turn.call? ≠ some call := by
  cases c.leaveLineCases call with
  | write _ comes =>
    rw [comes, letGoLine] at still
    exact bne_iff_ne.mp (List.mem_filter.mp still).2
  | still absent comes =>
    rw [comes] at still
    exact absent turn still

/-- Nobody behind the first in line goes by its number. -/
theorem firstCall {frame : List UInt8} {errand : Errand} {rest : List Turn}
    (first : c.line = .write call frame errand :: rest) {turn : Turn} (behind : turn ∈ rest) :
    turn.call? ≠ some call := by
  unfold callers at apart
  rw [first] at apart
  exact fun named => (List.nodup_cons.mp apart).1
    (List.mem_append_left _ (List.mem_filterMap.mpr ⟨turn, behind, named⟩))

theorem abandonLeaves {turn : Turn} (still : turn ∈ (c.abandon call).line) :
    turn.call? ≠ some call := by
  cases c.abandonCases call with
  | @waits w found comes =>
    intro named
    have waits := List.mem_map_of_mem (f := Wait.call) (List.mem_of_find?_eq_some found)
    rw [show w.call = call by simpa using List.find?_some found] at waits
    rw [comes] at still
    exact (List.nodup_append.mp apart).2.2 call (List.mem_filterMap.mpr ⟨turn, still, named⟩) call
      waits rfl
  | busy _ first _ comes =>
    have same : ({ c with writeHalf := false }.close .writeAbandoned).stepAside.line =
        c.line.tail := congrArg List.tail (closeLine _ _)
    rw [comes, letGoLine, same, first] at still
    exact firstCall apart first still
  | idle _ first _ comes =>
    have same : c.stepAside.line = c.line.tail := rfl
    rw [comes, letGoLine, same, first] at still
    exact firstCall apart first still
  | behind _ _ comes => exact leaveLineLeaves (comes ▸ still)

end Callers

theorem submitWritten (c : Connection μ) (call : CallId) (purpose : Purpose) (request : μ) :
    (c.submit call purpose request).connection.written = c.written := by
  rcases submitCases c call purpose request with
    ⟨_, refused, _⟩ | ⟨_, d, id, errand, taken, stood⟩
  · rw [refused]
  · have same : d.written = c.written := congrArg Outward.written taken.outward
    rw [stood, ← same]
    exact standInLineState call _ (congrArg Outward.written (takeBackOutward d errand)) fun _ => rfl

theorem pollReaderWritten (c : Connection μ) (arrival : Option Arrival) :
    (c.pollReader arrival).written = c.written := by
  cases c.readerCases arrival with
  | stopped _ comes | behind _ _ comes | idle _ _ _ comes => rw [comes]
  | passes _ _ comes =>
    rw [comes]
    rfl
  | leaves _ _ comes => exact comes ▸ leaveWritten c
  | ended _ _ _ comes => exact comes ▸ (leaveWritten _).trans (closeWritten c .endOfStream)
  | feeds _ _ _ _ comes =>
    rw [comes, feedStages]
    dsimp only
    rw [routeAllShape]
    split
    · rfl
    · exact (leaveWritten _).trans (closeWritten _ .corrupted)
  | fails _ _ _ comes => exact comes ▸ (leaveWritten _).trans (closeWritten _ .readFailed)

/-- Nothing is written but by the call that is first in line, when it is let run. -/
theorem stepUnwritten (others : ∀ call frame errand rest, e.caller? = some call →
    c.line ≠ .write call frame errand :: rest) : (c.step e).written = c.written := by
  cases e with
  | poll call now attempt =>
    dsimp only [step]
    cases c.pollCases call now attempt with
    | @waits w _ comes => exact comes ▸ congrArg Outward.written (pollWaitOutward c w now)
    | turn _ first => exact absurd first (others _ _ _ _ rfl)
    | still _ _ comes => rw [comes]
  | submit call purpose request =>
    dsimp only [step]
    split
    · exact submitWritten c call purpose request
    · rfl
  | abandon call => exact abandonWritten c call
  | wait call r within now =>
    dsimp only [step]
    split <;> rfl
  | dropReply r =>
    dsimp only [step]
    split
    · exact congrArg Outward.written (dropInboxOutward c r)
    · rfl
  | interrupt r => exact congrArg Outward.written (interruptOutward c r)
  | read arrival => exact pollReaderWritten c arrival
  | attach =>
    obtain ⟨n, same⟩ := attachStep c
    rw [same]
  | release =>
    dsimp only [step]
    split
    · rfl
    · exact releaseWritten c
  | disconnect => exact closeWritten c .forced
  | allocate =>
    obtain ⟨n, same⟩ := allocateStep c
    rw [same]
  | setReplyTimeout | setJob | setAttributes | addPrototype | clearPrototypes => rfl

/-- What the transport takes of a call in one step. -/
def hands (c : Connection μ) (call : CallId) (e : Event μ) : List UInt8 :=
  if e.caller? = some call then (c.step e).written.drop c.written.length else []

/-- All that it takes of the call, one step after the other. -/
def handed (c : Connection μ) (call : CallId) : List (Event μ) → List UInt8
  | [] => []
  | e :: rest => c.hands call e ++ (c.step e).handed call rest

theorem handedAppend (c : Connection μ) (call : CallId) (events later : List (Event μ)) :
    c.handed call (events ++ later) =
      c.handed call events ++ (c.run events).handed call later := by
  induction events generalizing c with
  | nil => rfl
  | cons e rest ih =>
    rw [List.cons_append, handed, handed, ih, List.append_assoc]
    rfl

theorem stepHands (apart : c.callers.Nodup) {call : CallId} {frame : List UInt8}
    {errand : Errand} (was : .write call frame errand ∈ c.line)
    (stands : .write call frame errand ∈ (c.step e).line) :
    (c.step e).outward.handedOver (.write call frame errand) frame =
      c.outward.handedOver (.write call frame errand) frame ++ c.hands call e := by
  have once : (c.line.filterMap Turn.call?).Nodup := (List.nodup_append.mp apart).1
  have forwards := (stepMoves c e).forwards once was stands
  unfold Outward.Forwards at forwards
  rw [forwards, List.append_cancel_left_eq]
  change (if c.line.head? = some (.write call frame errand) then
    (c.step e).written.drop c.written.length else []) = c.hands call e
  have silent (unwritten : (c.step e).written = c.written) :
      (c.step e).written.drop c.written.length = [] := by
    rw [unwritten, List.drop_length]
  unfold hands
  by_cases first : c.line.head? = some (.write call frame errand)
  · rw [if_pos first]
    split
    · rfl
    · rename_i other
      refine silent (stepUnwritten fun caller _ _ _ own line => other ?_)
      rw [line, List.head?_cons] at first
      cases first
      exact own
  · rw [if_neg first]
    split
    · rename_i own
      refine (silent (stepUnwritten fun caller other errand' rest mine line => first ?_)).symm
      obtain rfl : call = caller := by
        rw [own] at mine
        exact Option.some.inj mine
      have head : Turn.write call other errand' ∈ c.line := by simp [line]
      rw [sameCall apart was head rfl rfl, line]
      rfl
    · rfl

/-- As it comes to stand in line, a call has handed nothing over. -/
theorem Enters.unwritten {call : CallId} {purpose : Purpose} {request : μ} {d : Connection μ}
    {id : UInt32} {errand : Errand} {frame : List UInt8}
    (h : c.Enters call purpose request d id errand frame)
    (busy : c.progress.isSome → c.line ≠ []) :
    (c.step (.submit call purpose request)).outward.handedOver (.write call frame errand) frame =
      [] := by
  have line : d.line = c.line := congrArg Outward.line h.takes.outward
  have progress : d.progress = c.progress := congrArg Outward.progress h.takes.outward
  rw [h.step]
  cases split : c.line with
  | nil =>
    refine Outward.idleHandedOver _ _ (progress.trans ?_)
    by_contra some
    exact busy (Option.isSome_iff_ne_none.mpr some) split
  | cons turn rest =>
    refine Outward.behindHandedOver fun first => freshCall h.fresh ?_
    have head : (d.line ++ [Turn.write call frame errand]).head? =
        some (.write call frame errand) := first
    rw [line, split] at head
    cases head
    exact List.mem_append_left _
      (List.mem_filterMap.mpr ⟨Turn.write call frame errand, by simp [split], rfl⟩)

/-- A call that has stood in line throughout has handed over its frame, as far as it got. -/
theorem standingHanded (apart : c.callers.Nodup) {call : CallId} {frame : List UInt8}
    {errand : Errand} {events : List (Event μ)}
    (stands : ∀ front, front <+: events → .write call frame errand ∈ (c.run front).line) :
    (c.run events).outward.handedOver (.write call frame errand) frame =
      c.outward.handedOver (.write call frame errand) frame ++ c.handed call events := by
  induction events generalizing c with
  | nil => exact (List.append_nil _).symm
  | cons e rest ih =>
    have was := stands [] List.nil_prefix
    have next := stands [e] (List.prefix_append [e] rest)
    have later := ih (stepCallers apart e) fun front within =>
      stands (e :: front) (List.cons_prefix_cons.mpr ⟨rfl, within⟩)
    rw [handed, ← List.append_assoc, ← stepHands apart was next]
    exact later

end Connection
end ServiceMux
