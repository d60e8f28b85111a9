import ServiceMux.Proofs.Coherence
import ServiceMux.Proofs.History
import ServiceMux.Proofs.Routing
import ServiceMux.Proofs.Submission
/-! No waiting caller is stranded. Main statements: a step keeps the books of a connection coherent
(`Coherent.step`), so after every run a pending reply is either outstanding and empty or off the
table and decided (`noneStranded`). -/
namespace ServiceMux.Connection
open Owned
variable {μ : Type}

structure Coherent (c : Connection μ) : Prop where
  matched : Matched c.table c.inboxes
  owned : Owned c.table.nextTicket (c.inboxes.map Inbox.registration) c.line c.waits

/-- A call that has left the line, and what it still has in hand. -/
abbrev Frees (c : Connection μ) (errand : Errand) : Prop :=
  Owned.Free c.table.nextTicket (c.inboxes.map Inbox.registration) c.line c.waits errand

theorem startCoherent (s : Setting μ) : s.start.Coherent := by
  refine ⟨⟨PendingTable.ofLimitDistinct _, ?_, ?_, ?_, ?_, ?_⟩, ?_, ?_, ?_, ?_, ?_⟩ <;>
    simp [Setting.start, establish, PendingTable.ofLimit, held]

namespace Coherent
variable {c : Connection μ}

theorem handles (h : c.Coherent) :
    ((c.inboxes.map Inbox.registration).map Registration.ticket).Nodup := by
  rw [List.map_map]
  exact h.matched.apart

theorem apart (h : c.Coherent) : c.Apart := h.matched.apart

/-! Letting go. -/

theorem dropInbox (h : c.Coherent) {r : Registration}
    (unheld : ∀ other ∈ held c.line c.waits, other.ticket ≠ r.ticket)
    (own : ∀ handle ∈ c.inboxes.map Inbox.registration, handle.ticket = r.ticket → handle = r) :
    (c.dropInbox r).Coherent := by
  refine ⟨h.matched.drop fun i member => own _ (List.mem_map_of_mem member), ?_⟩
  have owned := h.owned.drop unheld
  rw [List.filter_map] at owned
  exact owned.congr (Nat.le_of_eq (PendingTable.cancelNextTicket _ _).symm) fun _ => Iff.rfl

theorem withdraw (h : c.Coherent) {r : Registration}
    (foreign : ∀ handle ∈ c.inboxes.map Inbox.registration, handle.ticket ≠ r.ticket) :
    (c.withdraw r).Coherent :=
  ⟨h.matched.withdraw fun _ member => foreign _ (List.mem_map_of_mem member),
    h.owned.congr (Nat.le_of_eq (PendingTable.cancelNextTicket _ _).symm) fun _ => Iff.rfl⟩

theorem letGo (h : c.Coherent) {errand : Errand} (free : c.Frees errand) :
    (c.letGo errand).Coherent := by
  unfold Connection.letGo
  cases found : errand.inbox? with
  | none => exact h
  | some r => exact h.dropInbox (free.unheld r (inboxIsRegistered found)).apart (free.own r found)

theorem takeBack (h : c.Coherent) {errand : Errand} (free : c.Frees errand) :
    (c.takeBack errand).Coherent := by
  cases errand with
  | handOut r => exact h.letGo free
  | await r within => exact h.letGo free
  | discard r => exact h.withdraw (free.foreign r rfl)
  | numbered id => exact h
  | plain => exact h

theorem stepAside (h : c.Coherent) : c.stepAside.Coherent :=
  ⟨h.matched, h.owned.shrink (List.tail_sublist _) (List.Sublist.refl _)⟩

theorem firstFrees (h : c.Coherent) {call : CallId} {frame : List UInt8} {errand : Errand}
    {rest : List Turn} (first : c.line = .write call frame errand :: rest) :
    c.stepAside.Frees errand := by
  have split : c.line = [] ++ .write call frame errand :: rest := first
  refine h.owned.freed split h.handles ?_
  simp [Connection.stepAside, first]

/-! Going down. -/

theorem closeHandles (h : c.Coherent) (reason : CloseReason) (r : Registration) :
    r ∈ (c.close reason).inboxes.map Inbox.registration ↔ r ∈ c.inboxes.map Inbox.registration := by
  cases live : c.isLive with
  | false => rw [closeDown live]
  | true =>
    rw [((closeInboxes live h.apart reason).map Inbox.registration).mem_iff]
    simp only [List.map_map, Function.comp_def, Inbox.fillAllRegistration]

theorem close (h : c.Coherent) (reason : CloseReason) : (c.close reason).Coherent := by
  have handles := h.closeHandles reason
  refine ⟨?_, ?_⟩
  · cases live : c.isLive with
    | false => rw [closeDown live]; exact h.matched
    | true =>
      have inboxes := closeInboxes live h.apart reason
      rw [closeLive live] at inboxes ⊢
      exact (h.matched.close (.error .connectionLost)).perm inboxes
  · rw [closeLine, closeWaits, closeNextTicket]
    exact h.owned.congr (Nat.le_refl _) handles

theorem closeFrees (h : c.Coherent) {errand : Errand} (free : c.Frees errand)
    (reason : CloseReason) : (c.close reason).Frees errand := by
  have handles := h.closeHandles reason
  unfold Frees
  rw [closeLine, closeWaits, closeNextTicket]
  exact free.fewer (Nat.le_refl _) fun r member => (handles r).mp member

/-! Beginning a call. -/

section Begin
variable [Message μ]

theorem standInLine (h : c.Coherent) {errand : Errand} (free : c.Frees errand)
    (has : ∀ r, errand.inbox? = some r → r ∈ c.inboxes.map Inbox.registration)
    (call : CallId) (request : μ) : (c.standInLine call request errand).connection.Coherent := by
  unfold Connection.standInLine
  split
  · exact h.takeBack free
  · refine ⟨h.matched, h.owned.push free.unheld has fun r found => free.foreign r ?_⟩
    cases errand <;> simp_all [Turn.discard?]

end Begin

theorem registers (h : c.Coherent) {r : Registration} {table : PendingTable}
    (ok : c.table.register .awaited = .ok (r, table)) (errand : Errand)
    (inbox : errand.inbox? = some r) :
    let d : Connection μ := { c with table, inboxes := c.inboxes ++ [Inbox.mk r none] }
    d.Coherent ∧ d.Frees errand ∧
      ∀ other, errand.inbox? = some other → other ∈ d.inboxes.map Inbox.registration := by
  obtain ⟨_, ticket, _, rfl⟩ := PendingTable.registered ok
  have older : ∀ handle ∈ c.inboxes.map Inbox.registration, handle.ticket < r.ticket := by
    intro handle member
    obtain ⟨i, inside, rfl⟩ := List.mem_map.mp member
    rw [ticket]
    exact h.matched.issued i inside
  have owned := h.owned.add ticket
  refine ⟨⟨h.matched.registerAwaited ok, by simpa using owned⟩, ⟨?_, ?_, ?_⟩, ?_⟩
  · intro other found
    obtain rfl : r = other := by simpa [inboxIsRegistered inbox] using found
    refine ⟨by simp [ticket], fun other member same => ?_⟩
    have := h.owned.issued other member
    omega
  · intro other found handle member same
    obtain rfl : r = other := by simpa [inbox] using found
    simp only [List.map_append, List.map_cons, List.map_nil, List.mem_append,
      List.mem_singleton] at member
    rcases member with old | new
    · have := older handle old
      omega
    · exact new
  · rintro other rfl
    contradiction
  · intro other found
    obtain rfl : r = other := by simpa [inbox] using found
    simp

theorem discards (h : c.Coherent) {r : Registration} {table : PendingTable}
    (ok : c.table.register .dropped = .ok (r, table)) :
    ({ c with table } : Connection μ).Coherent ∧
      ({ c with table } : Connection μ).Frees (.discard r) := by
  obtain ⟨_, ticket, _, after⟩ := PendingTable.registered ok
  have later : table.nextTicket = c.table.nextTicket + 1 := by rw [after]
  refine ⟨⟨h.matched.registerDropped ok, ?_⟩, ?_, nofun, ?_⟩
  · exact h.owned.congr (by simp only [later]; omega) fun _ => Iff.rfl
  · intro other found
    obtain rfl : r = other := by simpa [Errand.registration?] using found
    refine ⟨by simp only [later]; omega, fun other member same => ?_⟩
    have := h.owned.issued other member
    omega
  · intro other found handle member same
    obtain rfl : r = other := by simpa using found
    obtain ⟨i, inside, rfl⟩ := List.mem_map.mp member
    have := h.matched.issued i inside
    omega

/-- What a call takes leaves the books in order, and it has it to itself. -/
theorem takes (h : c.Coherent) {d : Connection μ} {purpose : Purpose} {id : UInt32}
    {errand : Errand} (taken : c.Takes purpose d id errand) :
    d.Coherent ∧ d.Frees errand ∧
      ∀ r, errand.inbox? = some r → r ∈ d.inboxes.map Inbox.registration := by
  cases taken with
  | @request r table ok => exact h.registers ok (.handOut r) rfl
  | @receive r table within ok => exact h.registers ok (.await r within) rfl
  | discard ok => exact ⟨(h.discards ok).1, (h.discards ok).2, nofun⟩
  | send ok =>
    obtain ⟨_, rfl⟩ := PendingTable.allocated ok
    exact ⟨⟨h.matched.shrink (.refl _) rfl fun _ member _ => member, h.owned⟩,
      ⟨nofun, nofun, nofun⟩, nofun⟩
  | sendAs => exact ⟨h, ⟨nofun, nofun, nofun⟩, nofun⟩

theorem submit [Message μ] (h : c.Coherent) (call : CallId) (purpose : Purpose) (request : μ) :
    (c.submit call purpose request).connection.Coherent := by
  rcases submitCases c call purpose request with
    ⟨e, refused, _⟩ | ⟨_, d, id, errand, taken, stands⟩
  · rw [refused]
    exact h
  · obtain ⟨books, frees, has⟩ := h.takes taken
    rw [stands]
    exact books.standInLine frees has call _

/-! Writing. -/

theorem sent (h : c.Coherent) {errand : Errand} (free : c.Frees errand)
    (has : ∀ r, errand.inbox? = some r → r ∈ c.inboxes.map Inbox.registration)
    (call : CallId) (now : Instant) : (c.sent call errand now).1.Coherent := by
  cases errand with
  | await r within => exact ⟨h.matched, h.owned.await (free.unheld r rfl) (has r rfl)⟩
  | handOut r => exact h
  | discard r => exact h
  | numbered id => exact h
  | plain => exact h

theorem same {d : Connection μ} (h : c.Coherent) (table : d.table = c.table)
    (inboxes : d.inboxes = c.inboxes) (line : d.line = c.line) (waits : d.waits = c.waits) :
    d.Coherent := by
  refine ⟨?_, ?_⟩
  · rw [table, inboxes]; exact h.matched
  · rw [table, inboxes, line, waits]; exact h.owned

variable {call : CallId} {frame : List UInt8} {errand : Errand} {rest : List Turn}

theorem firstHas (h : c.Coherent) (first : c.line = .write call frame errand :: rest) :
    ∀ r, errand.inbox? = some r → r ∈ c.inboxes.map Inbox.registration := by
  intro r found
  refine h.owned.inLine r (List.mem_filterMap.mpr ⟨.write call frame errand, ?_, found⟩)
  simp [first]

theorem firstGoes (h : c.Coherent) (first : c.line = .write call frame errand :: rest)
    (e : ServerError) : (c.stepAside.notSent errand e).1.Coherent :=
  h.stepAside.letGo (h.firstFrees first)

theorem firstSends (h : c.Coherent) (first : c.line = .write call frame errand :: rest)
    (metrics : Metrics) (written : List UInt8) (writeHalf : Bool) (now : Instant) :
    (({ c with metrics, written, writeHalf } : Connection μ).stepAside.sent call errand
      now).1.Coherent :=
  sent (c := ({ c with metrics, written, writeHalf } : Connection μ).stepAside)
    ⟨h.stepAside.matched, h.stepAside.owned⟩ (h.firstFrees first) (h.firstHas first) call now

theorem firstFails (h : c.Coherent) (first : c.line = .write call frame errand :: rest)
    (written : List UInt8) (w : Warning) (e : ServerError) :
    let d : Connection μ := { c.takeBack errand with written, writeHalf := false }
    (((d.stepAside.warn w).close .writeFailed).notSent errand e).1.Coherent := by
  intro d
  have free := h.firstFrees first
  -- The errand is taken back before the teardown, and once more, to no effect, after it.
  have back := h.stepAside.takeBack free
  have backFrees : (c.stepAside.takeBack errand).Frees errand := by
    have next {r : Registration} : c.stepAside.table.nextTicket ≤
        (c.stepAside.table.cancel r).2.nextTicket :=
      Nat.le_of_eq (PendingTable.cancelNextTicket _ _).symm
    cases errand with
    | handOut r => exact free.fewer next (List.filter_sublist.map _).subset
    | await r within => exact free.fewer next (List.filter_sublist.map _).subset
    | discard r => exact free.fewer next (List.Subset.refl _)
    | numbered id => exact free
    | plain => exact free
  have gone : (d.stepAside.warn w).Coherent ∧ (d.stepAside.warn w).Frees errand := by
    cases errand <;> exact ⟨back.same rfl rfl rfl rfl, backFrees⟩
  exact (gone.1.close _).letGo (gone.1.closeFrees gone.2 _)

theorem writeOn (h : c.Coherent) (first : c.line = .write call frame errand :: rest)
    (before : Nat) (now : Instant) (attempt : WriteAttempt) :
    (c.writeOn call frame errand before now attempt).1.Coherent := by
  unfold Connection.writeOn
  split
  · exact firstGoes (c := { c with writeHalf := false }) ⟨h.matched, h.owned⟩ first _
  · dsimp only
    have after : (if attempt.disconnects then c.close .forced else c).Coherent := by
      split
      · exact h.close _
      · exact h
    have line : (if attempt.disconnects then c.close .forced else c).line =
        .write call frame errand :: rest := by
      split
      · rw [closeLine, first]
      · exact first
    generalize (if attempt.disconnects then c.close .forced else c) = d at after line ⊢
    cases attempt.result with
    | stalled taken => exact ⟨after.matched, after.owned⟩
    | complete =>
      exact after.firstSends line _ _ _ now
    | failed taken cause => exact after.firstFails line _ _ _

theorem takeTurn (h : c.Coherent) (first : c.line = .write call frame errand :: rest)
    (now : Instant) (attempt : WriteAttempt) :
    (c.takeTurn call frame errand now attempt).1.Coherent := by
  unfold Connection.takeTurn
  split
  · exact h.writeOn first _ now attempt
  · split
    · exact firstGoes (c := { c with writeHalf := false }) ⟨h.matched, h.owned⟩ first _
    · exact h.writeOn first _ now attempt

/-! Waiting, and giving up. -/

theorem endWait (h : c.Coherent) {front back : List Wait} {w : Wait}
    (split : c.waits = front ++ w :: back) : (c.endWait w).Coherent := by
  have fewer : (c.waits.filter (·.call != w.call)).Sublist (front ++ back) := by
    have own : (w.call != w.call) = false := by simp
    rw [split, List.filter_append, List.filter_cons, own]
    exact List.filter_sublist.append List.filter_sublist
  have left : Coherent { c with waits := c.waits.filter (·.call != w.call) } :=
    ⟨h.matched, h.owned.shrink (List.Sublist.refl _) List.filter_sublist⟩
  refine left.dropInbox (h.owned.leftWaits split fewer).apart fun handle inside same => ?_
  exact List.inj_on_of_nodup_map h.handles inside (h.owned.inWait w (by simp [split])) same

theorem pollWait (h : c.Coherent) {front back : List Wait} {w : Wait}
    (split : c.waits = front ++ w :: back) (now : Instant) : (c.pollWait w now).1.Coherent := by
  have ended := h.endWait split
  unfold Connection.pollWait
  split
  · exact ended
  · split
    · exact ended
    · split
      · exact h
      · split
        · exact ended
        · exact h

theorem poll (h : c.Coherent) (call : CallId) (now : Instant) (attempt : WriteAttempt) :
    (c.poll call now attempt).1.Coherent := by
  unfold Connection.poll
  split
  · rename_i w found
    obtain ⟨_, front, back, split, _⟩ := List.find?_eq_some_iff_append.mp found
    exact h.pollWait split now
  · split
    · rename_i first
      split
      · rename_i same
        obtain rfl : _ = call := by simpa using same
        exact h.takeTurn first now attempt
      · exact h
    · exact h

theorem leaveLine (h : c.Coherent) (call : CallId) : (c.leaveLine call).Coherent := by
  unfold Connection.leaveLine
  split
  · rename_i caller frame errand found
    obtain ⟨named, front, back, split, _⟩ := List.find?_eq_some_iff_append.mp found
    have fewer : (c.line.filter (·.call? != some call)).Sublist (front ++ back) := by
      have own : ((Turn.write caller frame errand).call? != some call) = false := by
        simpa using named
      rw [split, List.filter_append, List.filter_cons, own]
      exact List.filter_sublist.append List.filter_sublist
    have left : Coherent { c with line := c.line.filter (·.call? != some call) } :=
      ⟨h.matched, h.owned.shrink List.filter_sublist (List.Sublist.refl _)⟩
    exact left.letGo (h.owned.freed split h.handles fewer)
  · exact h

theorem abandon (h : c.Coherent) (call : CallId) : (c.abandon call).Coherent := by
  unfold Connection.abandon
  split
  · rename_i w found
    obtain ⟨_, front, back, split, _⟩ := List.find?_eq_some_iff_append.mp found
    exact h.endWait split
  · split
    · rename_i first
      split
      · dsimp only
        split
        · have down := Coherent.close (c := { c with writeHalf := false }) ⟨h.matched, h.owned⟩
            .writeAbandoned
          exact down.stepAside.letGo (down.firstFrees ((closeLine _ _).trans first))
        · exact h.stepAside.letGo (h.firstFrees first)
      · exact h.leaveLine call
    · exact h.leaveLine call

theorem handedOut (h : c.Coherent) {r : Registration} (out : c.isHandedOut r = true) :
    r ∈ c.inboxes.map Inbox.registration ∧
      Owned.Unheld c.table.nextTicket c.line c.waits r := by
  simp only [isHandedOut, Bool.and_eq_true, List.any_eq_true, List.all_eq_true, beq_iff_eq,
    bne_iff_ne] at out
  obtain ⟨⟨⟨i, member, rfl⟩, waits⟩, line⟩ := out
  have has := List.mem_map_of_mem (f := Inbox.registration) member
  refine ⟨has, h.matched.issued i member, fun other inside same => ?_⟩
  rcases List.mem_append.mp inside with inLine | inWait
  · obtain ⟨turn, within, found⟩ := List.mem_filterMap.mp inLine
    rcases Turn.inboxOrDiscard.mp found with inbox | discard
    · have own := h.owned.inLine other (List.mem_filterMap.mpr ⟨turn, within, inbox⟩)
      rw [List.inj_on_of_nodup_map h.handles own has same] at inbox
      exact line turn within inbox
    · exact h.owned.discards other (List.mem_filterMap.mpr ⟨turn, within, discard⟩) _ has same.symm
  · obtain ⟨w, within, rfl⟩ := List.mem_map.mp inWait
    exact waits w within
      (List.inj_on_of_nodup_map h.handles (h.owned.inWait w within) has same)

theorem dropReply (h : c.Coherent) {r : Registration} (out : c.isHandedOut r = true) :
    (c.dropInbox r).Coherent := by
  obtain ⟨has, unheld⟩ := h.handedOut out
  exact h.dropInbox unheld.apart fun handle inside same =>
    List.inj_on_of_nodup_map h.handles inside has same

theorem beginWait (h : c.Coherent) {r : Registration} (out : c.isHandedOut r = true)
    (call : CallId) (within : Option Duration) (now : Instant) :
    (c.beginWait call r within now).Coherent := by
  obtain ⟨has, unheld⟩ := h.handedOut out
  exact ⟨h.matched, h.owned.await unheld has⟩

/-! Inbound frames. -/

theorem answered (h : c.Coherent) (id : UInt32) (result : Except ServerError (Reply μ)) :
    Coherent { c with table := (c.table.take id).2, inboxes := c.answered id result } := by
  have next : c.table.nextTicket ≤ (c.table.take id).2.nextTicket :=
    Nat.le_of_eq (PendingTable.takeNextTicket _ _).symm
  unfold Connection.answered
  split
  · rename_i ticket found
    have filled := deliverPerm ticket result h.apart
    refine ⟨(h.matched.answer found result).perm filled, h.owned.congr next fun r => ?_⟩
    rw [(filled.map Inbox.registration).mem_iff]
    simp only [List.map_map, Function.comp_def, Inbox.fillRegistration]
  · rename_i unawaited
    refine ⟨h.matched.shrink (PendingTable.takeSublist _ _) (PendingTable.takeNextTicket _ _) ?_,
      h.owned.congr next fun _ => Iff.rfl⟩
    rintro ⟨other, ticket, fate⟩ member rfl
    refine PendingTable.memTake.mpr ⟨member, fun same => unawaited ticket ?_⟩
    rw [← same]
    exact h.matched.distinct.get.mpr member

theorem interrupt (h : c.Coherent) (r : Registration) : (c.interrupt r).1.Coherent := by
  unfold Connection.interrupt PendingTable.cancel
  by_cases holds : c.table.holds r = true
  · rw [if_pos holds]
    obtain ⟨fate, member⟩ := h.matched.distinct.holds.mp holds
    have found := h.matched.distinct.get.mpr member
    have taken := h.answered r.correlationId (.error (.interrupted r.correlationId))
    unfold Connection.answered at taken
    unfold PendingTable.take at taken ⊢
    rw [found] at taken ⊢
    cases fate with
    | dropped => exact taken
    | awaited =>
      dsimp only at taken ⊢
      rw [deliverAs (c := c) (d := { c with table := c.table.erase r.correlationId }) r.ticket
        (.error (.interrupted r.correlationId)) rfl]
      exact taken
  · rw [if_neg holds]
    exact h

theorem leave (h : c.Coherent) : c.leave.Coherent := by
  unfold Connection.leave
  split
  · exact ⟨h.matched, h.owned⟩
  · refine ⟨h.matched, h.owned.push ?_ ?_ ?_⟩ <;> intro r found <;> contradiction

section Read
variable [Message μ]

theorem route (h : c.Coherent) (frame : Frame) : (c.route frame).Coherent := by
  rw [routeEq]
  exact (h.answered frame.header.correlationId (c.verdict frame)).same rfl rfl rfl rfl

theorem routeAll (h : c.Coherent) (frames : List Frame) :
    (frames.foldl Connection.route c).Coherent := by
  induction frames generalizing c with
  | nil => exact h
  | cons frame rest ih => exact ih (h.route frame)

theorem feed (h : c.Coherent) (buffer data : List UInt8) : (c.feed buffer data).Coherent := by
  have counted : Coherent { c with metrics :=
      { c.metrics with bytesRead := c.metrics.bytesRead + data.length } } :=
    ⟨h.matched, h.owned⟩
  have routed := counted.routeAll (Frame.splitAll c.config.maxFrameSize (buffer ++ data)).frames
  unfold Connection.feed
  dsimp only
  generalize List.foldl (Connection.route (μ := μ)) _ _ = d at routed ⊢
  split
  · exact ⟨routed.matched, routed.owned⟩
  · rename_i cause _
    have lost := routed.same (d := { d.warn (.framingLost cause) with
      metrics := d.metrics.countFault }) rfl rfl rfl rfl
    exact (lost.close .corrupted).leave

theorem pollReader (h : c.Coherent) (arrival : Option Arrival) :
    (c.pollReader arrival).Coherent := by
  unfold Connection.pollReader
  split
  · exact h
  · split
    · exact Coherent.stepAside (c := { c with writeHalf := false, reader := .stopped })
        ⟨h.matched, h.owned⟩
    · exact h
  · split
    · exact h.leave
    · split
      · exact h
      · exact (h.close .endOfStream).leave
      · exact h.feed _ _
      · rename_i cause
        have failed := h.same (d := c.warn (.readFailed cause)) rfl rfl rfl rfl
        exact (failed.close .readFailed).leave

end Read

theorem release (h : c.Coherent) : c.release.Coherent := by
  have fewer := h.same (d := { c with references := c.references - 1 }) rfl rfl rfl rfl
  unfold Connection.release
  dsimp only
  split
  · exact fewer.close .released
  · exact fewer

theorem step [Message μ] (h : c.Coherent) (e : Event μ) : (c.step e).Coherent := by
  cases e with
  | submit call purpose request =>
    dsimp only [Connection.step]
    split
    · exact h.submit call purpose request
    · exact h
  | poll call now attempt => exact h.poll call now attempt
  | abandon call => exact h.abandon call
  | wait call r within now =>
    dsimp only [Connection.step]
    split
    · rename_i allowed
      exact h.beginWait (Bool.and_eq_true_iff.mp allowed).2 call within now
    · exact h
  | dropReply r =>
    dsimp only [Connection.step]
    split
    · exact h.dropReply ‹_›
    · exact h
  | interrupt r => exact h.interrupt r
  | read arrival => exact h.pollReader arrival
  | attach =>
    obtain ⟨n, same⟩ := attachStep c
    rw [same]
    exact ⟨h.matched, h.owned⟩
  | release =>
    dsimp only [Connection.step]
    split
    · exact h
    · exact h.release
  | disconnect => exact h.close .forced
  | allocate =>
    obtain ⟨n, same⟩ := allocateStep c
    rw [same]
    exact ⟨h.matched.shrink (.refl _) rfl fun _ member _ => member, h.owned⟩
  | setReplyTimeout timeout => exact ⟨h.matched, h.owned⟩
  | setJob job => exact ⟨h.matched, h.owned⟩
  | setAttributes reply => exact ⟨h.matched, h.owned⟩
  | addPrototype discriminator prototype => exact ⟨h.matched, h.owned⟩
  | clearPrototypes => exact ⟨h.matched, h.owned⟩

end Coherent

/-! What that comes to for a caller. -/

/-- The entry of a pending reply is outstanding, and nothing has come. -/
def IsAwaited (c : Connection μ) (i : Inbox μ) : Prop :=
  c.table.get? i.registration.correlationId = some ⟨i.registration.ticket, .awaited⟩ ∧
    i.result = none

/-- A pending reply has no entry any more, and there is something for its caller. -/
def IsDecided (c : Connection μ) (i : Inbox μ) : Prop :=
  (∀ id slot, c.table.get? id = some slot → slot.ticket ≠ i.registration.ticket) ∧
    ∃ result, i.result = some result

namespace Coherent
variable {c : Connection μ}

theorem awaitedOrDecided (h : c.Coherent) {i : Inbox μ} (member : i ∈ c.inboxes) :
    Xor (c.IsAwaited i) (c.IsDecided i) := by
  cases found : i.result with
  | none =>
    refine .inl ⟨⟨h.matched.distinct.get.mpr (h.matched.waiting i member found), found⟩, ?_⟩
    rintro ⟨_, result, filled⟩
    rw [found] at filled
    contradiction
  | some result =>
    have filled : i.result ≠ none := by simp [found]
    refine .inr ⟨⟨fun id slot entry => ?_, result, found⟩, fun awaited => filled awaited.2⟩
    exact h.matched.decided i member filled (id, slot) (PendingTable.memOfGet entry)

theorem ownerOf (h : c.Coherent) {id : UInt32} {ticket : Nat}
    (entry : c.table.get? id = some ⟨ticket, .awaited⟩) :
    ∃ i ∈ c.inboxes, i.registration = ⟨id, ticket⟩ ∧
      ∀ j ∈ c.inboxes, j.registration.ticket = ticket → j = i := by
  have member := h.matched.served _ (PendingTable.memOfGet entry) rfl
  exact ⟨_, member, rfl, fun j inside same => h.matched.sameTicket inside member same⟩

theorem waitHas (h : c.Coherent) {w : Wait} (member : w ∈ c.waits) :
    ∃ i ∈ c.inboxes, i.registration = w.registration ∧ c.inboxOf w.registration = some i := by
  obtain ⟨i, inside, same⟩ := List.mem_map.mp (h.owned.inWait w member)
  exact ⟨i, inside, same, h.apart.inboxOf.mpr ⟨inside, by rw [same]⟩⟩

theorem emptyIsHeld (h : c.Coherent) {w : Wait} (member : w ∈ c.waits)
    (empty : (c.inboxOf w.registration).bind (·.result) = none) :
    c.table.holds w.registration = true := by
  obtain ⟨i, inside, same, found⟩ := h.waitHas member
  rw [found] at empty
  rw [← same]
  exact h.matched.distinct.holds.mpr ⟨.awaited, h.matched.waiting i inside empty⟩

end Coherent

variable [Message μ]

theorem runCoherent (s : Setting μ) (events : List (Event μ)) : (s.start.run events).Coherent :=
  afterRun Coherent (startCoherent s) (fun _ e h => h.step e) events

theorem noneStranded (s : Setting μ) (events : List (Event μ)) :
    let c := s.start.run events
    (c.inboxes.map fun i => i.registration.ticket).Nodup ∧
      (∀ i ∈ c.inboxes, Xor (c.IsAwaited i) (c.IsDecided i)) ∧
      (∀ id ticket, c.table.get? id = some ⟨ticket, .awaited⟩ →
        ∃ i ∈ c.inboxes, i.registration = ⟨id, ticket⟩ ∧
          ∀ j ∈ c.inboxes, j.registration.ticket = ticket → j = i) ∧
      (∀ turn ∈ c.line, ∀ r, turn.inbox? = some r → ∃ i ∈ c.inboxes, i.registration = r) ∧
      (∀ w ∈ c.waits, ∃ i ∈ c.inboxes, i.registration = w.registration) ∧
      ∀ w ∈ c.waits, (c.inboxOf w.registration).bind (·.result) = none →
        c.table.holds w.registration = true := by
  intro c
  have h : c.Coherent := runCoherent s events
  refine ⟨h.matched.apart, fun i member => h.awaitedOrDecided member,
    fun id ticket entry => h.ownerOf entry, ?_, ?_, fun w member => h.emptyIsHeld member⟩
  · intro turn member r found
    exact List.mem_map.mp (h.owned.inLine r (List.mem_filterMap.mpr ⟨turn, member, found⟩))
  · intro w member
    obtain ⟨i, inside, same, _⟩ := h.waitHas member
    exact ⟨i, inside, same⟩

end ServiceMux.Connection
