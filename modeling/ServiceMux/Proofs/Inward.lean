import ServiceMux.Proofs.Reading
/-! A connection as its callers' books and its reader see it: whether it is up, what is outstanding,
what lies in the inboxes, and the counters of what came in. Main statement: all that a step does to
this part is a row of a few acts (`stepActs`). -/
namespace ServiceMux
variable {μ : Type}

/-- The counters that inbound bytes move. -/
def Metrics.inbound (m : Metrics) : Metrics :=
  { m with requestsSent := 0, bytesWritten := 0, closes := 0 }

abbrev Enrolment := Registration × Fate

def Occurrence.enrolment? : Occurrence μ → Option Enrolment
  | registered r fate => some (r, fate)
  | _ => none

structure Inward (μ : Type) where
  lifecycle : Lifecycle
  shutdown : Bool
  table : PendingTable
  inboxes : List (Inbox μ)
  inbound : Metrics

namespace Inward

/-- Some inboxes may be gone, and what is new in one is this result. -/
def Told (result : Except ServerError (Reply μ)) (inboxes inboxes' : List (Inbox μ)) : Prop :=
  ∀ j ∈ inboxes', j ∈ inboxes ∨ j.result = some result

inductive Act : Inward μ → List Enrolment → Inward μ → Prop where
  | allocate {i : Inward μ} {id : UInt32} {table : PendingTable}
      (ok : i.table.allocate = .ok (id, table)) : Act i [] { i with table }
  | register {i : Inward μ} (live : i.lifecycle = .live) {r : Registration} {fate : Fate}
      {table : PendingTable} (ok : i.table.register fate = .ok (r, table))
      {inboxes : List (Inbox μ)} (added : ∀ j ∈ inboxes, j ∈ i.inboxes ∨ j = ⟨r, none⟩) :
      Act i [(r, fate)] { i with table, inboxes }
  | cancel (i : Inward μ) (r : Registration) {inboxes : List (Inbox μ)}
      (fewer : inboxes.Sublist i.inboxes) :
      Act i [] { i with table := (i.table.cancel r).2, inboxes }
  | interrupt {i : Inward μ} {r : Registration} (held : i.table.holds r = true)
      {inboxes : List (Inbox μ)}
      (told : Told (.error (.interrupted r.correlationId)) i.inboxes inboxes) :
      Act i [] { i with table := (i.table.cancel r).2, inboxes }
  | count {i : Inward μ} (up : i.shutdown = false) (inbound : Metrics) : Act i [] { i with inbound }
  | route {i : Inward μ} (up : i.shutdown = false) (id : UInt32)
      {result : Except ServerError (Reply μ)}
      (plain : ∀ e, result = .error e → ∃ reason, e = .protocol reason)
      {inboxes : List (Inbox μ)} (told : Told result i.inboxes inboxes) (inbound : Metrics) :
      Act i [] { i with table := (i.table.take id).2, inboxes, inbound }
  | close {i : Inward μ} (live : i.lifecycle = .live) {inboxes : List (Inbox μ)}
      (told : Told (.error .connectionLost) i.inboxes inboxes) :
      Act i [] { i with lifecycle := .closed, shutdown := true, table := i.table.close, inboxes }

inductive Acts : Inward μ → List Enrolment → Inward μ → Prop where
  | still (i : Inward μ) : Acts i [] i
  | next {i j k : Inward μ} {made new : List Enrolment} (before : Acts i made j)
      (act : Act j new k) : Acts i (made ++ new) k

namespace Acts
variable {i j k : Inward μ} {made new : List Enrolment}

theorem one (act : Act i new j) : Acts i new j := .next (.still i) act

theorem trans (before : Acts i made j) (after : Acts j new k) : Acts i (made ++ new) k := by
  induction after with
  | still => simpa using before
  | next _ act ih =>
    rw [← List.append_assoc]
    exact .next ih act

theorem quiet (before : Acts i made j) (after : Acts j [] k) : Acts i made k := by
  simpa using before.trans after

end Acts

theorem Acts.keep {holds : Inward μ → Prop}
    (act : ∀ {i j : Inward μ} {new : List Enrolment}, Act i new j → holds i → holds j)
    {i j : Inward μ} {made : List Enrolment} (acts : Acts i made j) (start : holds i) :
    holds j := by
  induction acts with
  | still => exact start
  | next _ last ih => exact act last ih

end Inward

namespace Connection
open Inward

def inward (c : Connection μ) : Inward μ :=
  ⟨c.lifecycle, c.shutdown, c.table, c.inboxes, c.metrics.inbound⟩

/-! Calls. What was come to by some acts, and what comes of it by more. -/

section Calls
variable {i : Inward μ} {made : List Enrolment} {c : Connection μ} (h : Acts i made c.inward)
include h

theorem withdrawActs (r : Registration) : Acts i made (c.withdraw r).inward :=
  h.quiet (.one (.cancel c.inward r (.refl _)))

theorem dropInboxActs (r : Registration) : Acts i made (c.dropInbox r).inward :=
  h.quiet (.one (.cancel c.inward r List.filter_sublist))

theorem letGoActs (errand : Errand) : Acts i made (c.letGo errand).inward := by
  cases errand <;> first | exact dropInboxActs h _ | exact h

theorem takeBackActs (errand : Errand) : Acts i made (c.takeBack errand).inward := by
  cases errand <;> first | exact dropInboxActs h _ | exact withdrawActs h _ | exact h

theorem endWaitActs (w : Wait) : Acts i made (c.endWait w).inward := dropInboxActs h w.registration

theorem pollWaitActs (w : Wait) (now : Instant) : Acts i made (c.pollWait w now).1.inward :=
  pollWaitState c w now (endWaitActs h w) h

omit h in
theorem deliverAllMembers (c : Connection μ) (result : Except ServerError (Reply μ))
    (tickets : List Nat) : Told result c.inboxes (c.deliverAll result tickets).inboxes := by
  unfold deliverAll
  induction tickets generalizing c with
  | nil => exact fun _ => .inl
  | cons ticket rest ih =>
    intro j member
    rcases ih _ j member with one | later
    · exact deliverMembers c ticket result j one
    · exact .inr later

theorem closeActs (reason : CloseReason) : Acts i made (c.close reason).inward := by
  cases live : c.isLive with
  | false => rw [closeDown live]; exact h
  | true =>
    rw [closeLive live]
    exact h.quiet (.one (.close (i := c.inward) (beq_iff_eq.mp live) (deliverAllMembers c _ _)))

theorem interruptActs (r : Registration) : Acts i made (c.interrupt r).1.inward := by
  cases c.interruptCases r with
  | missed _ comes => exact comes ▸ h
  | dropped _ comes => exact comes ▸ withdrawActs h r
  | awaited entry comes =>
    have held : c.table.holds r = true := by simp [PendingTable.holds, entry]
    rw [comes, deliverShape]
    exact h.quiet (.one (.interrupt (i := c.inward) held (deliverMembers (c.withdraw r) _ _)))

theorem barredActs (errand : Errand) (e : ServerError) :
    Acts i made (c.barred errand e).1.inward := by
  refine letGoActs ?_ errand
  exact h

theorem writeOnActs (call : CallId) (frame : List UInt8) (errand : Errand) (before : Nat)
    (now : Instant) (attempt : WriteAttempt) :
    Acts i made (c.writeOn call frame errand before now attempt).1.inward := by
  have met : Acts i made (c.interfered attempt).inward :=
    interferedState c attempt h (closeActs h .forced)
  cases c.writeCases call frame errand before now attempt with
  | late _ comes => exact comes ▸ barredActs h errand _
  | stalled _ _ comes => exact comes ▸ met
  | complete _ _ comes =>
    rw [comes]
    cases errand <;> exact met
  | failed _ _ comes =>
    rw [comes]
    refine letGoActs (closeActs ?_ .writeFailed) errand
    exact takeBackActs met errand

theorem takeTurnActs (call : CallId) (frame : List UInt8) (errand : Errand) (now : Instant)
    (attempt : WriteAttempt) :
    Acts i made (c.takeTurn call frame errand now attempt).1.inward := by
  cases c.turnCases call frame errand now attempt with
  | late _ _ comes => exact comes ▸ barredActs h errand _
  | writes _ comes => exact comes ▸ writeOnActs h call frame errand _ now attempt

theorem pollActs (call : CallId) (now : Instant) (attempt : WriteAttempt) :
    Acts i made (c.poll call now attempt).1.inward := by
  cases c.pollCases call now attempt with
  | waits _ comes => exact comes ▸ pollWaitActs h _ now
  | turn _ _ comes => exact comes ▸ takeTurnActs h call _ _ now attempt
  | still _ _ comes => exact comes ▸ h

theorem leaveLineActs (call : CallId) : Acts i made (c.leaveLine call).inward := by
  cases c.leaveLineCases call with
  | write _ comes =>
    rw [comes]
    refine letGoActs ?_ _
    exact h
  | still _ comes =>
    rw [comes]
    exact h

theorem abandonActs (call : CallId) : Acts i made (c.abandon call).inward := by
  cases c.abandonCases call with
  | waits _ comes => exact comes ▸ endWaitActs h _
  | busy _ _ _ comes =>
    rw [comes]
    refine letGoActs ?_ _
    exact closeActs (c := { c with writeHalf := false }) h .writeAbandoned
  | idle _ _ _ comes =>
    rw [comes]
    refine letGoActs ?_ _
    exact h
  | behind _ _ comes => exact comes ▸ leaveLineActs h call

theorem releaseActs : Acts i made c.release.inward := by
  refine releaseState c (fun _ => closeActs ?_ .released) fun _ => h
  exact h

end Calls

theorem leaveInward (c : Connection μ) : c.leave.inward = c.inward := by
  unfold leave
  split <;> rfl

theorem Takes.acts {c d : Connection μ} {purpose : Purpose} {id : UInt32} {errand : Errand}
    (h : c.Takes purpose d id errand) (live : c.isLive = true) :
    Acts c.inward ((c.registrations purpose).filterMap Occurrence.enrolment?) d.inward := by
  have up : c.inward.lifecycle = .live := beq_iff_eq.mp live
  cases h with
  | request ok | receive ok =>
    rw [registrationsOne rfl live ok]
    exact .one (.register (i := c.inward) up ok fun j member => by simpa [inward] using member)
  | discard ok =>
    rw [registrationsOne rfl live ok]
    exact .one (.register (i := c.inward) up ok fun j => .inl)
  | send ok => exact .one (.allocate (i := c.inward) ok)
  | sendAs => exact .still _

theorem answeredMembers (c : Connection μ) (id : UInt32)
    (result : Except ServerError (Reply μ)) :
    Told result c.inboxes (c.answered id result) := by
  unfold answered
  split
  · exact deliverMembers c _ result
  · exact fun _ => .inl

section Steps
variable [Message μ] {i : Inward μ} {made : List Enrolment} {c : Connection μ}

theorem standInLineActs (h : Acts i made c.inward) (call : CallId) (request : μ)
    (errand : Errand) : Acts i made (c.standInLine call request errand).connection.inward :=
  standInLineState call request (takeBackActs h errand) fun _ => h

theorem submitActs (c : Connection μ) (call : CallId) (purpose : Purpose) (request : μ) :
    Acts c.inward ((c.registrations purpose).filterMap Occurrence.enrolment?)
      (c.submit call purpose request).connection.inward := by
  rcases submitCases c call purpose request with
    ⟨e, refused, none, _⟩ | ⟨live, d, id, errand, taken, stands⟩
  · rw [refused, none]
    exact .still _
  · rw [stands]
    exact standInLineActs (taken.acts live) call _ errand

/-! Reading. -/

theorem verdictFault {frame : Frame} {e : ServerError} (h : c.verdict frame = .error e) :
    ∃ reason, e = .protocol reason := by
  unfold verdict at h
  dsimp only at h
  split at h
  · split at h
    · cases h
      exact ⟨_, rfl⟩
    · split at h
      · contradiction
      · cases h
        exact ⟨_, rfl⟩
  · cases h
    exact ⟨_, rfl⟩

theorem routeActs (h : Acts i made c.inward) (up : c.shutdown = false) (frame : Frame) :
    Acts i made (c.route frame).inward := by
  rw [routeEq]
  exact h.quiet
    (.one (.route (i := c.inward) up _ (fun _ => verdictFault) (answeredMembers c _ _) _))

theorem routeAllActs (h : Acts i made c.inward) (up : c.shutdown = false) (frames : List Frame) :
    Acts i made (frames.foldl route c).inward := by
  induction frames generalizing c with
  | nil => exact h
  | cons frame rest ih => exact ih (routeActs h up frame) (by rw [routeEq]; exact up)

theorem feedActs (h : Acts i made c.inward) (up : c.shutdown = false) (buffer data : List UInt8) :
    Acts i made (c.feed buffer data).inward := by
  have counted : Acts i made (c.countRead data.length).inward := h.quiet (.one (.count up _))
  have routed := routeAllActs counted up
    (Frame.splitAll c.config.maxFrameSize (buffer ++ data)).frames
  have still := congrArg Connection.shutdown (routeAllShape (c.countRead data.length)
    (Frame.splitAll c.config.maxFrameSize (buffer ++ data)).frames)
  rw [feedStages]
  dsimp only
  generalize List.foldl (route (μ := μ)) _ _ = d at routed still ⊢
  split
  · exact routed
  · rw [leaveInward]
    have fault := Act.count (i := d.inward) (still.trans up) d.metrics.countFault.inbound
    refine closeActs ?_ .corrupted
    exact routed.quiet (.one fault)

theorem pollReaderActs (h : Acts i made c.inward) (arrival : Option Arrival) :
    Acts i made (c.pollReader arrival).inward := by
  cases c.readerCases arrival with
  | stopped _ comes | behind _ _ comes | idle _ _ _ comes | passes _ _ comes =>
    rw [comes]
    exact h
  | leaves _ _ comes =>
    rw [comes, leaveInward]
    exact h
  | ended _ _ _ comes =>
    rw [comes, leaveInward]
    exact closeActs h .endOfStream
  | feeds _ up _ _ comes => exact comes ▸ feedActs h up _ _
  | fails _ _ _ comes =>
    rw [comes, leaveInward]
    refine closeActs ?_ .readFailed
    exact h

theorem stepActs (c : Connection μ) (e : Event μ) :
    Acts c.inward ((c.occurrences e).filterMap Occurrence.enrolment?) (c.step e).inward := by
  have start : Acts c.inward [] c.inward := .still _
  cases e with
  | submit call purpose request =>
    dsimp only [occurrences, step]
    split
    · rw [List.filterMap_append, queuesSilent c (fun _ _ => rfl), List.append_nil]
      exact submitActs c call purpose request
    · exact start
  | poll call now attempt =>
    have silent : (c.turns call).filterMap Occurrence.enrolment? = [] := by
      rcases turnsCases c call with none | ⟨frame, one⟩
      · rw [none]; rfl
      · rw [one]; rfl
    dsimp only [occurrences]
    rw [silent]
    exact pollActs start call now attempt
  | abandon call => exact abandonActs start call
  | wait call r within now =>
    dsimp only [step]
    split <;> exact start
  | dropReply r =>
    dsimp only [step]
    split
    · exact dropInboxActs start r
    · exact start
  | interrupt r => exact interruptActs start r
  | read arrival =>
    have silent : (c.occurrences (.read arrival)).filterMap Occurrence.enrolment? = [] := by
      rcases readCases c arrival with ⟨buffer, data, reader, up, full, rfl⟩ | ⟨none, _⟩
      · rw [readOccurrences reader up full]
        exact routingsSilent _ (fun _ _ => rfl) _
      · rw [none]; rfl
    rw [silent]
    exact pollReaderActs start arrival
  | attach =>
    obtain ⟨n, same⟩ := attachStep c
    rw [same]
    exact start
  | release =>
    dsimp only [step]
    split
    · exact start
    · exact releaseActs start
  | disconnect => exact closeActs start .forced
  | allocate =>
    dsimp only [step, newCorrelationId]
    cases answer : c.table.allocate with
    | ok taken => exact .one (.allocate (i := c.inward) answer)
    | error e => exact start
  | setReplyTimeout timeout => exact start
  | setJob job => exact start
  | setAttributes reply => exact start
  | addPrototype discriminator prototype => exact start
  | clearPrototypes => exact start

end Steps
end Connection
end ServiceMux
