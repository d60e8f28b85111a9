import ServiceMux.Proofs.Provenance
import ServiceMux.Proofs.Teardown
/-! What callers are told of a connection that goes down. Main statements: only whose own write
failed is told of that (`streamIff`); nobody is told that the connection is down while it is up
(`pollTells`, `submitTells`); once it is down, whoever is first in line is told so (`takeTurnDown`),
and whoever waits gets what lies in the inbox (`waitsDown`). -/
namespace ServiceMux
variable {μ : Type}

/-- A caller takes it from this error that the connection is down. -/
def ServerError.tellsDown : ServerError → Bool
  | stream _ | connectionLost | connectionClosed => true
  | _ => false

theorem PendingTable.registerTells {t : PendingTable} {fate : Fate} {e : ServerError}
    (h : t.register fate = .error e) (tells : e.tellsDown = true) : t.closed = true := by
  rcases registerFails h with ⟨closed, -⟩ | ⟨-, rfl⟩
  · exact closed
  · contradiction

namespace Connection

/-! While it is up. -/

section Tells
variable {c : Connection μ}

theorem letGoIsLive (c : Connection μ) (errand : Errand) :
    (c.letGo errand).isLive = c.isLive := by
  cases errand <;> rfl

theorem writeOnTells (standing : c.outward.Standing) {call : CallId} {frame : List UInt8}
    {errand : Errand} {before : Nat} {now : Instant} {attempt : WriteAttempt} {e : ServerError}
    (told : (c.writeOn call frame errand before now attempt).2 = some (.error e)) :
    (c.writeOn call frame errand before now attempt).1.isLive = false := by
  cases c.writeCases call frame errand before now attempt with
  | late down comes =>
    rw [comes]
    refine (letGoIsLive _ errand).trans ?_
    rcases standing with up | gone
    · have other : c.shutdown = false := up.shutdown
      simp [down] at other
    · exact (downIsNotLive gone : c.isLive = false)
  | stalled _ _ comes =>
    rw [comes] at told
    contradiction
  | complete _ _ comes =>
    rw [comes] at told
    cases errand <;> cases told
  | failed _ _ comes =>
    rw [comes]
    exact (letGoIsLive _ errand).trans (closeIsDown _ _)

theorem takeTurnTells (standing : c.outward.Standing) {call : CallId} {frame : List UInt8}
    {errand : Errand} {now : Instant} {attempt : WriteAttempt} {e : ServerError}
    (told : (c.takeTurn call frame errand now attempt).2 = some (.error e)) :
    (c.takeTurn call frame errand now attempt).1.isLive = false := by
  cases c.turnCases call frame errand now attempt with
  | late _ shut comes =>
    rw [comes]
    refine (letGoIsLive _ errand).trans ?_
    rcases standing with up | down
    · have live : c.isLive = true := beq_iff_eq.mpr up.lifecycle
      have half : c.writeHalf = true := up.writeHalf
      simp [live, half] at shut
    · exact (downIsNotLive down : c.isLive = false)
  | writes _ comes =>
    rw [comes] at told ⊢
    exact writeOnTells standing told

theorem pollWaitTells (coherent : c.Coherent) (faults : c.inward.Faults) {w : Wait}
    (waits : w ∈ c.waits) {now : Instant} {e : ServerError}
    (told : (c.pollWait w now).2 = some (.error e)) (tells : e.tellsDown = true) :
    e = .connectionLost ∧ c.lifecycle = .closed := by
  cases c.waitCases w now with
  | @told result found comes =>
    obtain ⟨i, own, filled⟩ := Option.bind_eq_some_iff.mp found
    rw [comes] at told
    cases result with
    | ok reply => cases told
    | error fault =>
      cases told
      rcases faults i (List.mem_of_find?_eq_some own) e filled with ⟨_, rfl⟩ | ⟨_, rfl⟩ | lost
      · contradiction
      · contradiction
      · exact lost
  | lost empty gone =>
    rw [coherent.emptyIsHeld waits empty] at gone
    contradiction
  | late _ _ _ _ comes =>
    rw [comes] at told
    cases told
    contradiction
  | still _ _ _ comes =>
    rw [comes] at told
    contradiction

theorem pollTells (standing : c.outward.Standing) (coherent : c.Coherent)
    (faults : c.inward.Faults) {call : CallId} {now : Instant} {attempt : WriteAttempt}
    {e : ServerError} (told : (c.poll call now attempt).2 = some (.error e))
    (tells : e.tellsDown = true) : (c.poll call now attempt).1.isLive = false := by
  cases c.pollCases call now attempt with
  | @waits w found comes =>
    rw [comes] at told ⊢
    obtain ⟨_, closed⟩ := pollWaitTells coherent faults (List.mem_of_find?_eq_some found) told tells
    have same : (c.pollWait w now).1.lifecycle = c.lifecycle :=
      congrArg Outward.lifecycle (pollWaitOutward c w now)
    unfold isLive
    rw [same, closed]
    rfl
  | turn _ _ comes =>
    rw [comes] at told ⊢
    exact takeTurnTells standing told
  | still _ _ comes =>
    rw [comes] at told
    contradiction

section Submit
variable [Message μ]

theorem standInLineTells {d : Connection μ} {call : CallId} {request : μ} {errand : Errand}
    {e : ServerError} (told : (d.standInLine call request errand).outcome = some (.error e)) :
    e.tellsDown = false := by
  unfold standInLine at told
  split at told
  · rename_i failed
    cases told
    cases Message.unsendableIff.mp failed <;> rfl
  · contradiction

theorem submitTells (standing : c.outward.Standing) {call : CallId} {purpose : Purpose}
    {request : μ} {e : ServerError}
    (told : (c.submit call purpose request).outcome = some (.error e))
    (tells : e.tellsDown = true) : c.isLive = false := by
  rcases submitCases c call purpose request with
    ⟨other, turned, _, refuses⟩ | ⟨_, d, id, errand, _, stands⟩
  · rw [turned] at told
    cases told
    cases refuses with
    | down down => exact down
    | register _ refused =>
      by_contra up
      have live : c.isLive = true := by simpa using up
      have accepting : c.table.closed = false := (upOf standing (beq_iff_eq.mp live)).refusing
      simp [PendingTable.registerTells refused tells] at accepting
    | allocate refused =>
      rw [PendingTable.allocateFails refused] at tells
      contradiction
  · rw [stands] at told
    rw [standInLineTells told] at tells
    contradiction

end Submit

/-! Once it is down. -/

def lineError (c : Connection μ) (errand : Errand) : ServerError :=
  if c.progress.isSome then .connectionLost else downError errand

theorem lineErrorCases (c : Connection μ) (errand : Errand) :
    c.lineError errand = .connectionLost ∨ c.lineError errand = .connectionClosed := by
  unfold lineError downError
  split
  · exact .inl rfl
  · split
    · exact .inl rfl
    · exact .inr rfl

theorem takeTurnDown (down : c.outward.IsDown) (call : CallId) (frame : List UInt8)
    (errand : Errand) (now : Instant) (attempt : WriteAttempt) :
    c.takeTurn call frame errand now attempt =
      (({ c with writeHalf := false }.stepAside).letGo errand,
        some (.error (c.lineError errand))) := by
  have told : c.shutdown = true := down.shutdown
  unfold lineError
  cases c.turnCases call frame errand now attempt with
  | late idle _ comes =>
    rw [comes, idle]
    rfl
  | writes ready comes =>
    have busy : c.progress.isSome = true := by
      cases progress : c.progress with
      | none => simpa [downIsNotLive down] using ready progress
      | some before => rfl
    rw [comes, if_pos busy]
    cases c.writeCases call frame errand (c.progress.getD 0) now attempt with
    | late _ barred => exact barred
    | stalled up | complete up | failed up => simp [told] at up

theorem waitsDown (coherent : c.Coherent) (none : c.table.entries = []) {w : Wait}
    (waits : w ∈ c.waits) : ∃ i ∈ c.inboxes, i.registration = w.registration ∧
      ∃ result, i.result = some result ∧
        ∀ now, c.pollWait w now = (c.endWait w, some (result.map .reply)) := by
  obtain ⟨i, inside, same, own⟩ := coherent.waitHas waits
  cases found : i.result with
  | none =>
    have entry := coherent.matched.waiting i inside found
    rw [none] at entry
    contradiction
  | some result =>
    refine ⟨i, inside, same, result, found, fun now => ?_⟩
    have told : (c.inboxOf w.registration).bind (·.result) = some result := by rw [own]; exact found
    exact pollWaitTold told now

structure FailsToWrite (c : Connection μ) (call : CallId) (attempt : WriteAttempt)
    (cause : StreamError) : Prop where
  live : c.lifecycle = .live
  first : ∃ frame errand rest, c.line = .write call frame errand :: rest
  failed : ∃ taken, attempt.result = .failed taken cause

theorem writeOnStream (up : c.outward.IsUp) {call : CallId} {frame : List UInt8}
    {errand : Errand} {before : Nat} {now : Instant} {attempt : WriteAttempt}
    {cause : StreamError} :
    (c.writeOn call frame errand before now attempt).2 = some (.error (.stream cause)) ↔
      ∃ taken, attempt.result = .failed taken cause := by
  have told : c.shutdown = false := up.shutdown
  cases c.writeCases call frame errand before now attempt with
  | late down => simp [told] at down
  | stalled _ result comes => simp [comes, result]
  | complete _ result comes =>
    rw [comes, result]
    cases errand <;> simp [sent]
  | failed _ result comes => simp [comes, result, notSent]

theorem streamIff (standing : c.outward.Standing) (coherent : c.Coherent) (apart : c.callers.Nodup)
    (faults : c.inward.Faults) {call : CallId} {now : Instant} {attempt : WriteAttempt}
    {cause : StreamError} : (c.poll call now attempt).2 = some (.error (.stream cause)) ↔
      c.FailsToWrite call attempt cause := by
  constructor
  · intro told
    cases c.pollCases call now attempt with
    | waits found comes =>
      rw [comes] at told
      have waits := List.mem_of_find?_eq_some found
      cases (pollWaitTells coherent faults waits told rfl).1
    | @turn _ errand _ _ first comes =>
      rcases standing with up | down
      · rw [comes, upTurn up] at told
        exact ⟨up.lifecycle, ⟨_, _, _, first⟩, (writeOnStream up).mp told⟩
      · rw [comes, takeTurnDown down] at told
        rcases c.lineErrorCases errand with lost | closed
        · rw [lost] at told
          cases told
        · rw [closed] at told
          cases told
    | still _ _ comes =>
      rw [comes] at told
      contradiction
  · rintro ⟨live, ⟨frame, errand, rest, first⟩, failed⟩
    have up := upOf standing live
    rw [pollFirst apart first, upTurn up]
    exact (writeOnStream up).mpr failed

end Tells
end Connection
end ServiceMux
