import ServiceMux.Proofs.Fragments
import ServiceMux.Proofs.Running
import ServiceMux.Proofs.Submission
import Mathlib.Data.List.Perm.Subperm
/-! Which calls are under way: those in line and those that wait for a reply. Main statements: a
step lets calls go, and adds one at most, under a number that no other has (`stepCallers`); so a
number names one call, in line or waiting (`runCallers`). -/
namespace ServiceMux.Connection
variable {μ : Type}

def callers (c : Connection μ) : List CallId :=
  c.line.filterMap Turn.call? ++ c.waits.map Wait.call

/-- Every call under way is one of these. -/
def Among (c : Connection μ) (calls : List CallId) : Prop := c.callers.Subperm calls

theorem Among.refl (c : Connection μ) : c.Among c.callers := List.Subperm.refl _

theorem Among.fewer {c d : Connection μ} {calls : List CallId} (h : c.Among calls)
    (line : d.line.Sublist c.line) (waits : d.waits.Sublist c.waits) : d.Among calls :=
  ((line.filterMap _).append (waits.map _)).subperm.trans h

theorem nodupOfSubperm {calls fewer : List CallId} (h : calls.Nodup)
    (sub : fewer.Subperm calls) : fewer.Nodup := by
  obtain ⟨same, perm, sublist⟩ := sub
  exact perm.nodup_iff.mp (h.sublist sublist)

theorem waitOf {c : Connection μ} (apart : c.callers.Nodup) {w : Wait} (waits : w ∈ c.waits) :
    c.waits.find? (·.call == w.call) = some w := by
  cases found : c.waits.find? (·.call == w.call) with
  | none =>
    have absent := List.find?_eq_none.mp found w waits
    simp at absent
  | some other =>
    have named : other.call = w.call := by simpa using List.find?_some found
    have once : (c.waits.map Wait.call).Nodup := (List.nodup_append.mp apart).2.1
    rw [List.inj_on_of_nodup_map once (List.mem_of_find?_eq_some found) waits named]

theorem pollWaits {c : Connection μ} (apart : c.callers.Nodup) {w : Wait} (waits : w ∈ c.waits)
    (now : Instant) (attempt : WriteAttempt) :
    c.poll w.call now attempt = c.pollWait w now := by
  have own := waitOf apart waits
  cases c.pollCases w.call now attempt with
  | waits found comes =>
    cases own.symm.trans found
    exact comes
  | turn absent | still absent => simp [own] at absent

theorem abandonWaiting {c : Connection μ} (apart : c.callers.Nodup) {w : Wait}
    (waits : w ∈ c.waits) : c.abandon w.call = c.endWait w := by
  have own := waitOf apart waits
  cases c.abandonCases w.call with
  | waits found comes =>
    cases own.symm.trans found
    exact comes
  | busy absent | idle absent | behind absent => simp [own] at absent

section Calls
variable {c : Connection μ} {calls : List CallId} (h : c.Among calls)
include h

theorem letGoAmong (errand : Errand) : (c.letGo errand).Among calls := by
  cases errand <;> exact h

theorem takeBackAmong (errand : Errand) : (c.takeBack errand).Among calls := by
  cases errand <;> exact h

theorem closeAmong (reason : CloseReason) : (c.close reason).Among calls :=
  h.fewer (by rw [closeLine]) (by rw [closeWaits])

theorem endWaitAmong (w : Wait) : (c.endWait w).Among calls :=
  h.fewer (.refl _) List.filter_sublist

theorem pollWaitAmong (w : Wait) (now : Instant) : (c.pollWait w now).1.Among calls :=
  pollWaitState c w now (endWaitAmong h w) h

theorem interruptAmong (r : Registration) : (c.interrupt r).1.Among calls := by
  cases c.interruptCases r with
  | missed _ comes | dropped _ comes =>
    rw [comes]
    exact h
  | awaited _ comes =>
    rw [comes, deliverShape]
    exact h

theorem leaveAmong : c.leave.Among calls := by
  unfold leave
  split
  · exact h
  · have same :
        callers { c with line := c.line ++ [.release], reader := .leaving } = c.callers := by
      simp [callers, Turn.call?]
    unfold Among
    rw [same]
    exact h

section First
variable {call : CallId} {frame : List UInt8} {errand : Errand} {rest : List Turn}
  (first : c.line = .write call frame errand :: rest)
include first

theorem sentAmong (now : Instant) : (c.stepAside.sent call errand now).1.Among calls := by
  have gone : c.stepAside.Among calls := h.fewer (List.tail_sublist _) (.refl _)
  cases errand with
  | await r within =>
    -- The call moves from the front of the line to the end of those that wait.
    have moved : (c.stepAside.sent call (.await r within) now).1.callers.Perm c.callers := by
      simp only [sent, callers, stepAside, first, List.tail_cons, List.map_append, List.map_cons,
        List.map_nil, List.filterMap_cons, Turn.call?, ← List.append_assoc]
      exact List.perm_append_singleton _ _
    exact moved.subperm.trans h
  | handOut r => exact gone
  | discard r => exact gone
  | numbered id => exact gone
  | plain => exact gone

omit first in
theorem barredAmong (errand : Errand) (e : ServerError) : (c.barred errand e).1.Among calls := by
  refine letGoAmong ?_ errand
  exact h.fewer (List.tail_sublist _) (.refl _)

theorem writeOnAmong (before : Nat) (now : Instant) (attempt : WriteAttempt) :
    (c.writeOn call frame errand before now attempt).1.Among calls := by
  have met : (c.interfered attempt).Among calls :=
    interferedState c attempt h (closeAmong h .forced)
  have line : (c.interfered attempt).line = .write call frame errand :: rest :=
    (interferedLine c attempt).trans first
  cases c.writeCases call frame errand before now attempt with
  | late _ comes => exact comes ▸ barredAmong h errand _
  | stalled _ _ comes => exact comes ▸ met
  | complete _ _ comes =>
    rw [comes]
    refine sentAmong ?_ (?_ : _ = Turn.write call frame errand :: rest) now
    · exact met
    · exact line
  | failed _ _ comes =>
    rw [comes]
    refine letGoAmong (closeAmong ?_ .writeFailed) errand
    exact (takeBackAmong met errand).fewer (List.tail_sublist _) (.refl _)

theorem takeTurnAmong (now : Instant) (attempt : WriteAttempt) :
    (c.takeTurn call frame errand now attempt).1.Among calls := by
  cases c.turnCases call frame errand now attempt with
  | late _ _ comes => exact comes ▸ barredAmong h errand _
  | writes _ comes => exact comes ▸ writeOnAmong h first _ now attempt

end First

theorem pollAmong (call : CallId) (now : Instant) (attempt : WriteAttempt) :
    (c.poll call now attempt).1.Among calls := by
  cases c.pollCases call now attempt with
  | waits _ comes => exact comes ▸ pollWaitAmong h _ now
  | turn _ first comes => exact comes ▸ takeTurnAmong h first now attempt
  | still _ _ comes => exact comes ▸ h

theorem leaveLineAmong (call : CallId) : (c.leaveLine call).Among calls := by
  cases c.leaveLineCases call with
  | write _ comes =>
    rw [comes]
    refine letGoAmong ?_ _
    exact h.fewer List.filter_sublist (.refl _)
  | still _ comes =>
    rw [comes]
    exact h

theorem abandonAmong (call : CallId) : (c.abandon call).Among calls := by
  cases c.abandonCases call with
  | waits _ comes => exact comes ▸ endWaitAmong h _
  | busy _ _ _ comes =>
    rw [comes]
    refine letGoAmong ?_ _
    have down := closeAmong (c := { c with writeHalf := false }) h .writeAbandoned
    exact down.fewer (List.tail_sublist _) (.refl _)
  | idle _ _ _ comes =>
    rw [comes]
    refine letGoAmong ?_ _
    exact h.fewer (List.tail_sublist _) (.refl _)
  | behind _ _ comes => exact comes ▸ leaveLineAmong h call

theorem releaseAmong : c.release.Among calls := by
  refine releaseState c (fun _ => closeAmong ?_ .released) fun _ => h
  exact h

variable [Message μ]

theorem feedAmong (buffer data : List UInt8) : (c.feed buffer data).Among calls := by
  have shape := routeAllShape (c.countRead data.length)
    (Frame.splitAll c.config.maxFrameSize (buffer ++ data)).frames
  rw [feedStages]
  dsimp only
  rw [shape]
  split
  · exact h
  · refine leaveAmong (closeAmong ?_ .corrupted)
    exact h

theorem pollReaderAmong (arrival : Option Arrival) : (c.pollReader arrival).Among calls := by
  cases c.readerCases arrival with
  | stopped _ comes | behind _ _ comes | idle _ _ _ comes =>
    rw [comes]
    exact h
  | passes _ _ comes =>
    rw [comes]
    exact h.fewer (List.tail_sublist _) (.refl _)
  | leaves _ _ comes => exact comes ▸ leaveAmong h
  | ended _ _ _ comes => exact comes ▸ leaveAmong (closeAmong h .endOfStream)
  | feeds _ _ _ _ comes => exact comes ▸ feedAmong h _ _
  | fails _ _ _ comes =>
    rw [comes]
    refine leaveAmong (closeAmong ?_ .readFailed)
    exact h

theorem stepAmong {e : Event μ} (begins : ∀ call purpose request, e ≠ .submit call purpose request)
    (waits : ∀ call r within now, e ≠ .wait call r within now) : (c.step e).Among calls := by
  cases e with
  | submit call purpose request => exact absurd rfl (begins call purpose request)
  | wait call r within now => exact absurd rfl (waits call r within now)
  | poll call now attempt => exact pollAmong h call now attempt
  | abandon call => exact abandonAmong h call
  | dropReply r =>
    dsimp only [step]
    split <;> exact h
  | interrupt r => exact interruptAmong h r
  | read arrival => exact pollReaderAmong h arrival
  | attach =>
    obtain ⟨n, same⟩ := attachStep c
    rw [same]
    exact h
  | release =>
    dsimp only [step]
    split
    · exact h
    · exact releaseAmong h
  | disconnect => exact closeAmong h .forced
  | allocate =>
    obtain ⟨n, same⟩ := allocateStep c
    rw [same]
    exact h
  | setReplyTimeout timeout => exact h
  | setJob job => exact h
  | setAttributes reply => exact h
  | addPrototype discriminator prototype => exact h
  | clearPrototypes => exact h

end Calls

theorem freshCall {c : Connection μ} {call : CallId} (fresh : c.isFresh call = true) :
    call ∉ c.callers := by
  simp only [isFresh, Bool.and_eq_true, List.all_eq_true, bne_iff_ne] at fresh
  intro member
  rcases List.mem_append.mp member with inLine | waiting
  · obtain ⟨turn, inside, named⟩ := List.mem_filterMap.mp inLine
    exact fresh.2 turn inside named
  · obtain ⟨w, inside, named⟩ := List.mem_map.mp waiting
    exact fresh.1 w inside named

theorem Takes.callers {c d : Connection μ} {purpose : Purpose} {id : UInt32} {errand : Errand}
    (h : c.Takes purpose d id errand) : d.callers = c.callers := by
  cases h <;> rfl

variable [Message μ]

theorem submitAmong (c : Connection μ) (call : CallId) (purpose : Purpose) (request : μ) :
    (c.submit call purpose request).connection.Among (call :: c.callers) := by
  have older {d : Connection μ} (same : d.callers = c.callers) : d.Among (call :: c.callers) :=
    (same ▸ List.Subperm.refl _ : d.callers.Subperm c.callers).cons_right call
  rcases submitCases c call purpose request with
    ⟨e, refused, _⟩ | ⟨_, d, id, errand, taken, stands⟩
  · rw [refused]
    exact older rfl
  · rw [stands]
    refine standInLineState call _ ?_ fun frame => ?_
    · refine older (Eq.trans ?_ taken.callers)
      cases errand <;> rfl
    · have last : callers { d with line := d.line ++ [.write call frame errand] } =
          d.line.filterMap Turn.call? ++ call :: d.waits.map Wait.call := by
        simp [callers, Turn.call?]
      unfold Among
      rw [last, ← taken.callers]
      exact List.perm_middle.subperm

theorem stepCallers {c : Connection μ} (apart : c.callers.Nodup) (e : Event μ) :
    (c.step e).callers.Nodup := by
  by_cases begins : ∃ call purpose request, e = .submit call purpose request
  · obtain ⟨call, purpose, request, rfl⟩ := begins
    dsimp only [step]
    split
    · rename_i fresh
      exact nodupOfSubperm (List.nodup_cons.mpr ⟨freshCall fresh, apart⟩)
        (submitAmong c call purpose request)
    · exact apart
  by_cases waits : ∃ call r within now, e = .wait call r within now
  · obtain ⟨call, r, within, now, rfl⟩ := waits
    dsimp only [step]
    split
    · rename_i allowed
      have fresh := freshCall (Bool.and_eq_true_iff.mp allowed).1
      have last : (c.beginWait call r within now).callers = c.callers ++ [call] := by
        simp [callers, beginWait]
      rw [last, (List.perm_append_singleton call c.callers).nodup_iff]
      exact List.nodup_cons.mpr ⟨fresh, apart⟩
    · exact apart
  refine nodupOfSubperm apart (stepAmong (Among.refl c) ?_ ?_)
  · exact fun call purpose request same => begins ⟨call, purpose, request, same⟩
  · exact fun call r within now same => waits ⟨call, r, within, now, same⟩

theorem runCallers (s : Setting μ) (events : List (Event μ)) :
    (s.start.run events).callers.Nodup := by
  have nobody : s.start.callers.Nodup := by exact List.nodup_nil
  exact afterRun (fun c => c.callers.Nodup) nobody (fun _ e apart => stepCallers apart e) events

end ServiceMux.Connection
