import ServiceMux.Bench.Datastream
import ServiceMux.Proofs.Draining
/-! A connection that is down lets go of its stream. Main statements: the reader stands in line
exactly as long as it has yet to give the write half up (`runParting`), and each turn that somebody
has on a connection that is down brings it nearer to its end (`Turns.bounded`), at which both halves
are gone and nobody stands in line (`letsGo`). -/
namespace ServiceMux
variable {μ : Type}

namespace Outward
variable {o o' after : Outward} {marks : List Mark}

/-! The write half does not come back. -/

theorem downGone (gone : o.writeHalf = false) : o.down.writeHalf = false := by
  unfold Outward.down
  split
  · simp [gone]
  · exact gone

theorem Writes.gone {call : CallId} {frame : List UInt8} {before : Nat}
    (writes : o.Writes call frame before after) (gone : o.writeHalf = false) :
    after.writeHalf = false := by
  rcases writes.after with rfl | rfl
  · exact gone
  · exact downGone gone

theorem leaveGone (gone : o.writeHalf = false) : o.leave.writeHalf = false := by
  unfold Outward.leave
  split
  · rfl
  · exact gone

theorem Move.gone (move : Move o marks o') (gone : o.writeHalf = false) :
    o'.writeHalf = false := by
  cases move with
  | still | join | giveUp | step => exact gone
  | down => exact downGone gone
  | goUnsent | release => rfl
  | stall writes => exact writes.gone gone
  | complete writes => simp [writes.gone gone]
  | fail => exact downGone rfl
  | abandon => exact downGone rfl
  | leave => exact leaveGone gone
  | downAndLeave => exact leaveGone (downGone gone)

/-! The line of a connection that is down. -/

theorem leaveShorter (place : o.leave.line.count .release = o.line.count .release) :
    o.leave.line.length ≤ o.line.length := by
  unfold Outward.leave at place ⊢
  split
  · exact Nat.le_refl _
  · rename_i some
    rw [if_neg some] at place
    simp at place

-- Only the reader that leaves makes the line longer, and that shows in the places.
theorem IsDown.shorter (h : o.IsDown) (move : Move o marks o')
    (place : o'.line.count .release = o.line.count .release) :
    o'.line.length ≤ o.line.length := by
  have passed : o.line.tail.length ≤ o.line.length := (List.tail_sublist _).length_le
  cases move with
  | still => exact Nat.le_refl _
  | down => exact Nat.le_of_eq (congrArg List.length (downLine o))
  | join live =>
    rw [h.lifecycle] at live
    contradiction
  | stall writes | complete writes | fail writes => exact absurd writes h.noWrite
  | goUnsent | giveUp | release => exact passed
  | abandon => simp [pass]
  | step => exact List.length_filter_le _ _
  | leave => exact leaveShorter place
  | downAndLeave =>
    rw [h.down] at place ⊢
    exact leaveShorter place

end Outward

namespace Connection

/-- The places in line that are the reader's. -/
def places (c : Connection μ) : Nat := c.line.count .release

section Places
variable {c d : Connection μ}

theorem placesOf (line : d.line = c.line) : d.places = c.places := by
  unfold places
  rw [line]

theorem placesAs (same : d.outward = c.outward) : d.places = c.places :=
  placesOf (congrArg Outward.line same)

theorem placesTail {call : CallId} {frame : List UInt8} {errand : Errand} {rest : List Turn}
    (first : c.line = .write call frame errand :: rest) : c.stepAside.places = c.places := by
  unfold places stepAside
  dsimp only
  rw [first]
  simp

variable {call : CallId} {frame : List UInt8} {errand : Errand} {rest : List Turn}

theorem barredPlaces (first : c.line = .write call frame errand :: rest) (e : ServerError) :
    (c.barred errand e).1.places = c.places :=
  (placesAs (letGoOutward _ errand)).trans (placesTail (c := { c with writeHalf := false }) first)

theorem writeOnPlaces (first : c.line = .write call frame errand :: rest) (before : Nat)
    (now : Instant) (attempt : WriteAttempt) :
    (c.writeOn call frame errand before now attempt).1.places = c.places := by
  have met : (c.interfered attempt).places = c.places := placesOf (interferedLine c attempt)
  have line := (interferedLine c attempt).trans first
  cases c.writeCases call frame errand before now attempt with
  | late _ comes => exact comes ▸ barredPlaces first _
  | stalled _ _ comes => exact comes ▸ met
  | complete _ _ comes =>
    rw [comes, ← met]
    exact (placesAs (sentOutward _ call errand now)).trans (placesTail line)
  | failed _ _ comes =>
    rw [comes, ← met]
    refine (placesAs (letGoOutward _ errand)).trans ?_
    refine (placesOf (closeLine _ _)).trans ?_
    have back := takeBackOutward (c.interfered attempt) errand
    have stands := (congrArg Outward.line back).trans line
    exact (placesTail stands).trans (placesAs back)

theorem takeTurnPlaces (first : c.line = .write call frame errand :: rest) (now : Instant)
    (attempt : WriteAttempt) : (c.takeTurn call frame errand now attempt).1.places = c.places := by
  cases c.turnCases call frame errand now attempt with
  | late _ _ comes => exact comes ▸ barredPlaces first _
  | writes _ comes => exact comes ▸ writeOnPlaces first _ now attempt

theorem pollPlaces (c : Connection μ) (call : CallId) (now : Instant) (attempt : WriteAttempt) :
    (c.poll call now attempt).1.places = c.places := by
  cases c.pollCases call now attempt with
  | waits _ comes => exact comes ▸ placesAs (pollWaitOutward c _ now)
  | turn _ first comes => exact comes ▸ takeTurnPlaces first now attempt
  | still _ _ comes => rw [comes]

theorem leaveLinePlaces (c : Connection μ) (call : CallId) :
    (c.leaveLine call).places = c.places := by
  cases c.leaveLineCases call with
  | write _ comes =>
    rw [comes]
    refine (placesAs (letGoOutward _ _)).trans ?_
    exact List.count_filter (by simp [Turn.call?])
  | still _ comes => rw [comes]

theorem abandonPlaces (c : Connection μ) (call : CallId) : (c.abandon call).places = c.places := by
  cases c.abandonCases call with
  | waits _ comes => exact comes ▸ placesAs (endWaitOutward c _)
  | busy _ first _ comes =>
    have line : ({ c with writeHalf := false }.close .writeAbandoned).line = c.line :=
      closeLine _ _
    rw [comes]
    refine (placesAs (letGoOutward _ _)).trans ?_
    exact (placesTail (line.trans first)).trans (placesOf line)
  | idle _ first _ comes =>
    exact comes ▸ (placesAs (letGoOutward _ _)).trans (placesTail first)
  | behind _ _ comes => exact comes ▸ leaveLinePlaces c call

variable [Message μ]

theorem submitPlaces (c : Connection μ) (call : CallId) (purpose : Purpose) (request : μ) :
    (c.submit call purpose request).connection.places = c.places := by
  rcases submitCases c call purpose request with
    ⟨e, refused, _⟩ | ⟨_, d, id, errand, taken, stands⟩
  · rw [refused]
  · rw [stands, ← placesAs taken.outward]
    exact standInLineState call _ (placesAs (takeBackOutward d errand)) (by simp [places])

/-- Only the reader takes its place in line, and gives it up. -/
theorem stepPlaces (c : Connection μ) {e : Event μ} (reads : ∀ arrival, e ≠ .read arrival) :
    (c.step e).places = c.places := by
  cases e with
  | submit call purpose request =>
    dsimp only [step]
    split
    · exact submitPlaces c call purpose request
    · rfl
  | poll call now attempt => exact pollPlaces c call now attempt
  | abandon call => exact abandonPlaces c call
  | wait call r within now | dropReply r =>
    dsimp only [step]
    split <;> rfl
  | interrupt r => exact placesAs (interruptOutward c r)
  | read arrival => exact absurd rfl (reads arrival)
  | attach =>
    obtain ⟨n, same⟩ := attachStep c
    rw [same]
    rfl
  | release =>
    dsimp only [step, release]
    split
    · rfl
    · split
      · exact placesOf (closeLine _ .released)
      · rfl
  | disconnect => exact placesOf (closeLine c .forced)
  | allocate =>
    obtain ⟨n, same⟩ := allocateStep c
    rw [same]
    rfl
  | setReplyTimeout | setJob | setAttributes | addPrototype | clearPrototypes => rfl

end Places

/-! The reader on its way out. -/

/-- The reader stands in line while it leaves, and once it has stopped the write half is gone. -/
structure Parting (c : Connection μ) : Prop where
  leaving : c.places = if c.reader = .leaving then 1 else 0
  stopped : c.reader = .stopped → c.writeHalf = false

section Reader
variable {c d : Connection μ}

theorem leaveParting (none : c.places = 0) : c.leave.Parting := by
  unfold leave
  split
  · exact ⟨none, fun _ => rfl⟩
  · refine ⟨?_, nofun⟩
    unfold places at none ⊢
    simp [none]

theorem Parting.reading (h : c.Parting) {buffer : List UInt8}
    (reader : c.reader = .reading buffer) : c.places = 0 := by
  rw [h.leaving, reader]
  rfl

theorem Parting.inLine (h : c.Parting) : .release ∈ c.line ↔ c.reader = .leaving := by
  rw [← List.count_pos_iff]
  change 0 < c.places ↔ _
  rw [h.leaving]
  split <;> simp_all

theorem Parting.releases (h : c.Parting) (reader : c.reader = .leaving) {rest : List Turn}
    (first : c.line = .release :: rest) : rest.count .release = 0 := by
  have one := h.leaving
  rw [if_pos reader] at one
  unfold places at one
  rw [first] at one
  simpa using one

variable [Message μ]

theorem feedParting (none : c.places = 0) (buffer data : List UInt8) :
    (c.feed buffer data).Parting := by
  have routed (frames : List Frame) :
      (frames.foldl route (c.countRead data.length)).places = 0 := by
    rw [← none]
    exact placesAs (routeAllOutward (c.countRead data.length) frames)
  rw [feedStages]
  dsimp only
  split
  · exact ⟨routed _, nofun⟩
  · refine leaveParting (Eq.trans (placesOf (closeLine _ _)) ?_)
    exact routed _

theorem Parting.read (h : c.Parting) (arrival : Option Arrival) :
    (c.pollReader arrival).Parting := by
  cases c.readerCases arrival with
  | stopped _ comes | behind _ _ comes | idle _ _ _ comes =>
    rw [comes]
    exact h
  | passes reader first comes =>
    have others := h.releases reader first
    rw [comes]
    refine ⟨?_, fun _ => rfl⟩
    unfold places stepAside
    dsimp only
    rw [first]
    exact others
  | leaves reader _ comes => exact comes ▸ leaveParting (h.reading reader)
  | ended reader _ _ comes =>
    exact comes ▸ leaveParting ((placesOf (closeLine c _)).trans (h.reading reader))
  | feeds reader _ _ _ comes => exact comes ▸ feedParting (h.reading reader) _ _
  | fails reader _ _ comes =>
    rw [comes]
    exact leaveParting ((placesOf (closeLine _ _)).trans (h.reading reader))

theorem stepReader (c : Connection μ) {e : Event μ} (reads : ∀ arrival, e ≠ .read arrival) :
    (c.step e).reader = c.reader := by
  rcases eventCases c e with ⟨call, purpose, request, rfl⟩ | ⟨arrival, rfl⟩ | passes
  · dsimp only [step]
    split
    · exact (submitInherits c call purpose request).reader
    · rfl
  · exact absurd rfl (reads arrival)
  · exact passes.inherits.reader

theorem Parting.step (h : c.Parting) (e : Event μ) : (c.step e).Parting := by
  by_cases reads : ∃ arrival, e = .read arrival
  · obtain ⟨arrival, rfl⟩ := reads
    exact h.read arrival
  · have other : ∀ arrival, e ≠ .read arrival := fun arrival same => reads ⟨arrival, same⟩
    have reader := stepReader c other
    refine ⟨by rw [stepPlaces c other, reader, h.leaving], fun stopped => ?_⟩
    exact (stepMoves c e).gone (h.stopped (reader ▸ stopped))

theorem runParting (s : Setting μ) (events : List (Event μ)) : (s.start.run events).Parting :=
  afterRun Parting ⟨rfl, fun stopped => Reader.noConfusion stopped⟩ (fun _ e h => h.step e) events

/-- A connection that is down, and all that carries it to its end. -/
structure Ending (c : Connection μ) : Prop where
  down : c.outward.IsDown
  callers : c.callers.Nodup
  parting : c.Parting

theorem Ending.step (h : c.Ending) (e : Event μ) : (c.step e).Ending :=
  ⟨(h.down.move (stepMoves c e)).1, stepCallers h.callers e, h.parting.step e⟩

theorem runEnding (s : Setting μ) (events : List (Event μ))
    (closed : (s.start.run events).lifecycle = .closed) : (s.start.run events).Ending := by
  have notLive : (s.start.run events).isLive = false :=
    beq_eq_false_iff_ne.mpr (by rw [closed]; nofun)
  exact ⟨downOf (runStanding s events) notLive, runCallers s events, runParting s events⟩

end Reader

/-! Turns. -/

/-- This event lets somebody run who gets further, whatever the transport does: the first in line
that has been let in or told of the end, or the reader that has been told or let in. -/
inductive Woken (c : Connection μ) : Event μ → Prop where
  | writer {call : CallId} {frame : List UInt8} {errand : Errand} {rest : List Turn}
      (first : c.line = .write call frame errand :: rest)
      (ready : c.progress = none ∨ c.shutdown = true) (now : Instant) (attempt : WriteAttempt) :
      Woken c (.poll call now attempt)
  | told {buffer : List UInt8} (reading : c.reader = .reading buffer) (told : c.shutdown = true)
      (arrival : Option Arrival) : Woken c (.read arrival)
  | releases {rest : List Turn} (leaving : c.reader = .leaving)
      (first : c.line = .release :: rest) (arrival : Option Arrival) : Woken c (.read arrival)

def AtRest (c : Connection μ) : Prop := ∀ e, ¬c.Woken e

/-- Nobody holds the write half or waits for it, and both halves are gone. -/
structure LetGo (c : Connection μ) : Prop where
  line : c.line = []
  writeHalf : c.writeHalf = false
  reader : c.reader = .stopped

/-- How many turns are left at most: one for each who stands in line, and two for a reader that has
not begun to leave. -/
def unfinished (c : Connection μ) : Nat :=
  c.line.length + match c.reader with | .reading _ => 2 | _ => 0

section Turns
variable {c : Connection μ}

theorem Parting.finished (h : c.Parting) (none : c.unfinished = 0) : c.LetGo := by
  unfold unfinished at none
  obtain ⟨line, idle⟩ := Nat.add_eq_zero_iff.mp none
  have empty := List.length_eq_zero_iff.mp line
  have reader : c.reader = .stopped := by
    cases reader : c.reader with
    | reading buffer =>
      rw [reader] at idle
      contradiction
    | leaving =>
      have there := h.inLine.mpr reader
      rw [empty] at there
      contradiction
    | stopped => rfl
  exact ⟨empty, h.stopped reader, reader⟩

theorem Ending.rested (h : c.Ending) (rest : c.AtRest) : c.unfinished = 0 := by
  have told : c.shutdown = true := h.down.shutdown
  have line : c.line = [] := by
    cases first : c.line with
    | nil => rfl
    | cons turn behind =>
      cases turn with
      | write call frame errand =>
        exact absurd (.writer first (.inr told) 0 ⟨.complete, false⟩) (rest _)
      | release =>
        have leaving := h.parting.inLine.mp (by rw [first]; exact List.mem_cons_self)
        exact absurd (.releases leaving first none) (rest _)
  unfold unfinished
  rw [line]
  cases reader : c.reader with
  | reading buffer => exact absurd (.told reader told none) (rest _)
  | leaving | stopped => rfl

theorem leaveUnfinished (c : Connection μ) {buffer : List UInt8}
    (reader : c.reader = .reading buffer) : c.leave.unfinished < c.unfinished := by
  unfold unfinished leave
  rw [reader]
  split <;> simp

theorem passUnfinished {d : Connection μ} {turn : Turn} {rest : List Turn}
    (first : c.line = turn :: rest) (line : d.line = c.line.tail)
    (reader : ∀ buffer, d.reader ≠ c.reader → d.reader ≠ .reading buffer) :
    d.unfinished < c.unfinished := by
  have shorter : d.line.length < c.line.length := by
    rw [line, first]
    exact Nat.lt_succ_self _
  unfold unfinished
  by_cases same : d.reader = c.reader
  · rw [same]
    exact Nat.add_lt_add_right shorter _
  · cases other : d.reader with
    | reading buffer => exact absurd other (reader buffer same)
    | leaving | stopped => exact Nat.lt_add_right _ shorter

variable [Message μ]

theorem readUnfinished (down : c.outward.IsDown) (arrival : Option Arrival) :
    (c.pollReader arrival).unfinished ≤ c.unfinished ∧
      (c.Woken (.read arrival) → (c.pollReader arrival).unfinished < c.unfinished) := by
  have told : c.shutdown = true := down.shutdown
  cases c.readerCases arrival with
  | stopped stopped comes =>
    rw [comes]
    refine ⟨Nat.le_refl _, fun woken => ?_⟩
    cases woken with
    | told reading => rw [stopped] at reading; contradiction
    | releases leaving => rw [stopped] at leaving; contradiction
  | behind leaving other comes =>
    rw [comes]
    refine ⟨Nat.le_refl _, fun woken => ?_⟩
    cases woken with
    | told reading => rw [leaving] at reading; contradiction
    | releases _ first => exact absurd first (other _)
  | passes _ first comes =>
    have fewer : (stepAside { c with writeHalf := false, reader := .stopped }).unfinished <
        c.unfinished := passUnfinished first rfl fun _ _ => nofun
    rw [comes]
    exact ⟨Nat.le_of_lt fewer, fun _ => fewer⟩
  | leaves reading _ comes =>
    have fewer := leaveUnfinished c reading
    rw [comes]
    exact ⟨Nat.le_of_lt fewer, fun _ => fewer⟩
  | idle _ up | ended _ up | feeds _ up | fails _ up =>
    rw [told] at up
    contradiction

theorem Ending.stepUnfinished (h : c.Ending) (e : Event μ) :
    (c.step e).unfinished ≤ c.unfinished ∧
      (c.Woken e → (c.step e).unfinished < c.unfinished) := by
  by_cases reads : ∃ arrival, e = .read arrival
  · obtain ⟨arrival, rfl⟩ := reads
    exact readUnfinished h.down arrival
  have other : ∀ arrival, e ≠ .read arrival := fun arrival same => reads ⟨arrival, same⟩
  have reader := stepReader c other
  have shorter : (c.step e).line.length ≤ c.line.length :=
    h.down.shorter (stepMoves c e) (stepPlaces c other)
  refine ⟨?_, fun woken => ?_⟩
  · unfold unfinished
    rw [reader]
    exact Nat.add_le_add_right shorter _
  · cases woken with
    | told | releases => exact absurd rfl (other _)
    | @writer call frame errand rest first ready now attempt =>
      refine passUnfinished first ?_ fun _ moved => absurd reader moved
      dsimp only [Connection.step]
      rw [pollFirst h.callers first, takeTurnDown h.down]
      exact congrArg Outward.line (letGoOutward _ errand)

/-- In so many of the steps from the one to the other somebody ran who got further. -/
inductive Turns : Connection μ → Nat → Connection μ → Prop where
  | still (c : Connection μ) : Turns c 0 c
  | next {c d : Connection μ} {n : Nat} (e : Event μ) (woken : c.Woken e)
      (later : Turns (c.step e) n d) : Turns c (n + 1) d
  | other {c d : Connection μ} {n : Nat} (e : Event μ) (later : Turns (c.step e) n d) :
      Turns c n d

theorem Turns.bounded {d : Connection μ} {n : Nat} (turns : c.Turns n d) (h : c.Ending) :
    n + d.unfinished ≤ c.unfinished := by
  induction turns with
  | still => exact Nat.le_of_eq (Nat.zero_add _)
  | next e woken later ih =>
    have fewer := (h.stepUnfinished e).2 woken
    have rest := ih (h.step e)
    omega
  | other e later ih =>
    have most := (h.stepUnfinished e).1
    have rest := ih (h.step e)
    omega

theorem letsGo (s : Setting μ) (events : List (Event μ)) :
    let c := s.start.run events
    (c.lifecycle = .closed → c.AtRest → c.LetGo) ∧
      (c.lifecycle = .closed → ∀ n d, c.Turns n d → n + d.unfinished ≤ c.unfinished) ∧
      (c.lifecycle = .closed → c.LetGo → ∀ later, (c.run later).LetGo) := by
  intro c
  refine ⟨fun closed rest => ?_, fun closed n d turns => ?_, fun closed gone later => ?_⟩
  · have ending := runEnding s events closed
    exact ending.parting.finished (ending.rested rest)
  · exact turns.bounded (runEnding s events closed)
  · have done : c.unfinished = 0 := by
      unfold unfinished
      rw [gone.line, gone.reader]
      rfl
    have last : (c.run later).Ending ∧ (c.run later).unfinished = 0 := by
      refine afterRun (fun d => d.Ending ∧ d.unfinished = 0) ⟨runEnding s events closed, done⟩ ?_
        later
      intro d e ⟨ending, done⟩
      have most := (ending.stepUnfinished e).1
      exact ⟨ending.step e, by omega⟩
    exact last.1.parting.finished last.2

end Turns

/-- One call is stalled in the middle of its frame and one stands behind it when the connection is
disconnected; the reader stands in line behind both. -/
example :
    let s : Setting Bench.Datastream := ⟨1, .command, .empty, {}, none, none⟩
    let request : Bench.Datastream := ⟨0, .request 0x1001 0 [] none⟩
    let c := s.start.run
      [.submit 0 .send request, .submit 1 .send request, .poll 0 0 ⟨.stalled 3, false⟩,
        .disconnect, .read none]
    c.lifecycle = .closed ∧ c.writeHalf = true ∧ c.reader = .leaving ∧ c.unfinished = 3 ∧
      (c.run [.poll 0 0 ⟨.stalled 0, false⟩, .poll 1 0 ⟨.stalled 0, false⟩, .read none]).LetGo :=
  ⟨rfl, rfl, rfl, rfl, rfl, rfl, rfl⟩

end Connection
end ServiceMux
