import ServiceMux.Proofs.Enrolling
import ServiceMux.Proofs.LateReplies
import ServiceMux.Proofs.Reordering
import ServiceMux.Proofs.Traffic
/-! The counters of what came in. Main statements: what a frame adds to them is told by its lot
(`routeBooks`), a step adds what the frames of that step add, and one fault if it takes the
connection down for a corrupted length (`stepAccounts`), so no frame is left out
(`noneUnaccounted`). -/
namespace ServiceMux
variable {μ : Type}

/-- What comes of an inbound frame. -/
inductive Lot where
  /-- Who waits for it has the reply. -/
  | answer
  /-- Who waits for it is told that it cannot be decoded. -/
  | undecodable
  /-- Nobody waits for it. -/
  | unasked
  /-- It is for another service, or nothing is registered for it. -/
  | unroutable
  /-- The same, and it removes the entry of a request whose reply would be dropped. -/
  | wasted
  deriving DecidableEq, Repr

def Metrics.book (m : Metrics) : Lot → Metrics
  | .answer => m.countDelivered
  | .undecodable | .unroutable => m.countFault
  | .unasked => m.countDiscarded
  | .wasted => m.countFault.countDiscarded

/-- The counters, if these frames came in and the stream was lost so many times. -/
structure Ledger (lots : List Lot) (torn : Nat) (m : Metrics) : Prop where
  delivered : m.repliesDelivered = lots.count .answer
  discarded : m.repliesDiscarded = lots.count .unasked + lots.count .wasted
  faults : m.protocolErrors =
    lots.count .undecodable + lots.count .unroutable + lots.count .wasted + torn

namespace Ledger
variable {lots : List Lot} {torn : Nat} {m m' : Metrics}

theorem same (h : Ledger lots torn m) (inbound : m'.inbound = m.inbound) : Ledger lots torn m' :=
  ⟨(congrArg Metrics.repliesDelivered inbound).trans h.delivered,
    (congrArg Metrics.repliesDiscarded inbound).trans h.discarded,
    (congrArg Metrics.protocolErrors inbound).trans h.faults⟩

theorem book (h : Ledger lots torn m) (lot : Lot) : Ledger (lots ++ [lot]) torn (m.book lot) := by
  obtain ⟨delivered, discarded, faults⟩ := h
  constructor <;> cases lot <;>
    simp only [Metrics.book, Metrics.countDelivered, Metrics.countDiscarded, Metrics.countFault,
      List.count_append, List.count_singleton, delivered, discarded, faults] <;> simp <;> omega

theorem books (h : Ledger lots torn m) (more : List Lot) :
    Ledger (lots ++ more) torn (more.foldl Metrics.book m) := by
  induction more generalizing lots m with
  | nil => simpa using h
  | cons lot rest ih =>
    have next := ih (h.book lot)
    rwa [List.append_assoc] at next

theorem fault (h : Ledger lots torn m) : Ledger lots (torn + 1) m.countFault :=
  ⟨h.delivered, h.discarded, congrArg (· + 1) h.faults⟩

theorem lengthOfLots (lots : List Lot) : lots.length =
    lots.count .answer + lots.count .undecodable + lots.count .unasked + lots.count .unroutable +
      lots.count .wasted := by
  induction lots with
  | nil => rfl
  | cons lot rest ih => cases lot <;> simp [ih] <;> omega

theorem balance (h : Ledger lots torn m) :
    m.repliesDelivered + m.repliesDiscarded + m.protocolErrors =
      lots.length + torn + lots.count .wasted := by
  rw [h.delivered, h.discarded, h.faults, lengthOfLots]
  omega

end Ledger

namespace Inbox

def isReplied (i : Inbox μ) : Bool :=
  match i.result with
  | some (.ok _) => true
  | _ => false

theorem fillAllReplied (tickets : List Nat) (e : ServerError) (i : Inbox μ) :
    (i.fillAll tickets (.error e)).isReplied = i.isReplied := by
  unfold fillAll
  split
  · rename_i target
    simp only [isReplied, target.2]
  · rfl

end Inbox

namespace Connection

/-- A result already lies in the inbox of this registration. -/
def isTold (c : Connection μ) (r : Registration) : Bool :=
  c.inboxes.any fun i => i.registration.ticket == r.ticket && i.result.isSome

variable [Message μ]

/-- How many inboxes have a reply after this event that were empty before. -/
def replies (c : Connection μ) (e : Event μ) : Nat :=
  (c.step e).inboxes.countP fun i => i.isReplied && !c.isTold i.registration

/-- How many replies were put into inboxes, all events taken together. -/
def replied (c : Connection μ) : List (Event μ) → Nat
  | [] => 0
  | e :: rest => c.replies e + (c.step e).replied rest

def lot (c : Connection μ) (frame : Frame) : Lot :=
  let entry := c.table.get? frame.header.correlationId
  if c.canRead frame then
    match entry with
    | some ⟨_, .awaited⟩ =>
      match c.verdict frame with
      | .ok _ => .answer
      | .error _ => .undecodable
    | _ => .unasked
  else
    match entry with
    | some ⟨_, .dropped⟩ => .wasted
    | _ => .unroutable

end Connection

def Occurrence.lot? [Message μ] : Occurrence μ → Option Lot
  | routed found frame => some (found.lot frame)
  | _ => none

namespace Connection
variable [Message μ] {c d : Connection μ} {lots : List Lot} {torn : Nat}

/-! One frame. -/

theorem unreadable {frame : Frame} (strange : ¬c.canRead frame = true) :
    ∃ e, c.verdict frame = .error e := by
  rw [Bool.not_eq_true] at strange
  unfold canRead at strange
  unfold verdict
  dsimp only
  split
  · rename_i accepted
    rw [accepted, Bool.true_and, Option.isSome_eq_false_iff, Option.isNone_iff_eq_none] at strange
    rw [strange]
    exact ⟨_, rfl⟩
  · exact ⟨_, rfl⟩

theorem routeBooks (h : c.Coherent) (frame : Frame) :
    (c.route frame).metrics = c.metrics.book (c.lot frame) := by
  rw [routeEq]
  unfold tally failedTally lot
  dsimp only
  change (if c.canRead frame then _ else _) = _
  cases held : c.table.get? frame.header.correlationId with
  | none => split <;> rfl
  | some slot =>
    obtain ⟨ticket, fate⟩ := slot
    cases fate with
    | dropped => split <;> rfl
    | awaited =>
      split
      · unfold decodedTally
        cases verdict : c.verdict frame <;> simp only [h.told held, if_true] <;> rfl
      · rfl

theorem lotAnswer {frame : Frame} : c.lot frame = .answer ↔
    (∃ ticket, c.table.get? frame.header.correlationId = some ⟨ticket, .awaited⟩) ∧
      ∃ reply, c.verdict frame = .ok reply := by
  unfold lot
  dsimp only
  cases held : c.table.get? frame.header.correlationId with
  | none => split <;> simp
  | some slot =>
    obtain ⟨ticket, fate⟩ := slot
    cases fate with
    | dropped => split <;> simp
    | awaited =>
      split
      · cases verdict : c.verdict frame <;> simp
      · rename_i strange
        obtain ⟨e, verdict⟩ := unreadable strange
        simp [verdict]

theorem lotWasted {frame : Frame} : c.lot frame = .wasted ↔ c.canRead frame = false ∧
    ∃ ticket, c.table.get? frame.header.correlationId = some ⟨ticket, .dropped⟩ := by
  unfold lot
  dsimp only
  cases held : c.table.get? frame.header.correlationId with
  | none => split <;> simp
  | some slot =>
    obtain ⟨ticket, fate⟩ := slot
    cases fate with
    | dropped => split <;> simp_all
    | awaited =>
      split
      · cases c.verdict frame <;> simp
      · simp

theorem lotUnasked {frame : Frame} : c.lot frame = .unasked ↔ c.canRead frame = true ∧
    ∀ ticket, c.table.get? frame.header.correlationId ≠ some ⟨ticket, .awaited⟩ := by
  unfold lot
  dsimp only
  cases held : c.table.get? frame.header.correlationId with
  | none => split <;> simp_all
  | some slot =>
    obtain ⟨ticket, fate⟩ := slot
    cases fate with
    | dropped => split <;> simp_all
    | awaited =>
      split
      · cases c.verdict frame <;> simp
      · simp

theorem routeFrees (c : Connection μ) (frame : Frame) :
    (c.route frame).table.get? frame.header.correlationId = none := by
  rw [routeTable]
  exact PendingTable.takeFrees c.table frame.header.correlationId

/-! Replies put into inboxes. -/

/-- Of the inboxes that were not decided before, one has a reply more if the frame is an answer. -/
theorem routeReplies (h : c.Coherent) (frame : Frame) (told : Registration → Bool)
    (undecided : ∀ i ∈ c.inboxes, i.result = none → told i.registration = false) :
    (c.route frame).inboxes.countP (fun i => i.isReplied && !told i.registration) =
      c.inboxes.countP (fun i => i.isReplied && !told i.registration) +
        [c.lot frame].count .answer := by
  have inboxes := (routeInboxes h.apart frame).countP_eq
    fun i => i.isReplied && !told i.registration
  by_cases awaited : ∃ ticket, c.table.get? frame.header.correlationId = some ⟨ticket, .awaited⟩
  · obtain ⟨ticket, held⟩ := awaited
    have waits := h.matched.served _ (PendingTable.memOfGet held) rfl
    have new := undecided _ waits rfl
    obtain ⟨front, back, split⟩ := List.append_of_mem waits
    rw [Inbox.answerAwaited held, h.apart.fillOne split] at inboxes
    rw [inboxes, split, List.countP_append, List.countP_append, List.countP_cons, List.countP_cons]
    cases verdict : c.verdict frame with
    | ok reply =>
      have answer : c.lot frame = .answer := lotAnswer.mpr ⟨⟨ticket, held⟩, reply, verdict⟩
      simp [Inbox.isReplied, new, answer, Nat.add_assoc]
    | error e =>
      have other : c.lot frame ≠ .answer := fun answer => by
        obtain ⟨_, reply, ok⟩ := lotAnswer.mp answer
        rw [verdict] at ok
        contradiction
      simp [Inbox.isReplied, other]
  · have other : c.lot frame ≠ .answer := fun answer => awaited (lotAnswer.mp answer).1
    rw [Inbox.answerUnawaited fun ticket held => awaited ⟨ticket, held⟩, List.map_id'] at inboxes
    rw [inboxes, List.count_singleton, if_neg (by simpa using other)]
    rfl

/-- What the frames of one read come to. -/
structure Booked (c : Connection μ) (frames : List Frame) (told : Registration → Bool)
    (d : Connection μ) : Prop where
  metrics : d.metrics = ((c.routings frames).filterMap Occurrence.lot?).foldl Metrics.book c.metrics
  replies : d.inboxes.countP (fun i => i.isReplied && !told i.registration) =
    c.inboxes.countP (fun i => i.isReplied && !told i.registration) +
      ((c.routings frames).filterMap Occurrence.lot?).count .answer

theorem routeAllBooked (h : c.Coherent) (frames : List Frame) (told : Registration → Bool)
    (undecided : ∀ i ∈ c.inboxes, i.result = none → told i.registration = false) :
    c.Booked frames told (frames.foldl route c) := by
  induction frames generalizing c with
  | nil => exact ⟨rfl, rfl⟩
  | cons frame rest ih =>
    have still : ∀ i ∈ (c.route frame).inboxes, i.result = none → told i.registration = false := by
      intro i member empty
      rcases routeMembers h frame member with old | ⟨_, _, _, filled⟩
      · exact undecided i old empty
      · rw [empty] at filled
        contradiction
    have later := ih (h.route frame) still
    have first := routeReplies h frame told undecided
    have lots : (c.routings (frame :: rest)).filterMap Occurrence.lot? =
        [c.lot frame] ++ ((c.route frame).routings rest).filterMap Occurrence.lot? := rfl
    rw [List.foldl_cons]
    constructor
    · rw [later.metrics, lots, routeBooks h, List.foldl_append]
      rfl
    · rw [later.replies, first, lots, List.count_append, Nat.add_assoc]

omit [Message μ] in
/-- Going down puts no reply anywhere. -/
theorem lostReplies (h : c.Coherent) (live : c.isLive = true) (cause : WireError)
    (told : Registration → Bool) :
    (c.lost cause).inboxes.countP (fun i => i.isReplied && !told i.registration) =
      c.inboxes.countP fun i => i.isReplied && !told i.registration := by
  have filled := closeInboxes (c := c.alarmed cause) live h.apart .corrupted
  refine (filled.countP_eq _).trans ?_
  rw [List.countP_map]
  refine List.countP_congr fun i _ => ?_
  rw [Function.comp_apply, Inbox.fillAllReplied, Inbox.fillAllRegistration]

omit [Message μ] in
theorem lostMetrics (c : Connection μ) (cause : WireError) :
    (c.lost cause).metrics.inbound = c.metrics.countFault.inbound :=
  congrArg Prod.snd (closeSettled (c.alarmed cause) .corrupted)

/-! One event. -/

omit [Message μ] in
theorem untold (h : c.Coherent) {i : Inbox μ} (member : i ∈ c.inboxes) (empty : i.result = none) :
    c.isTold i.registration = false := by
  refine List.any_eq_false.mpr fun j inside told => ?_
  obtain ⟨ticket, decided⟩ := Bool.and_eq_true_iff.mp told
  rw [h.matched.sameTicket inside member (beq_iff_eq.mp ticket), empty] at decided
  contradiction

omit [Message μ] in
theorem repliedIsTold {i : Inbox μ} (member : i ∈ c.inboxes) (replied : i.isReplied = true) :
    c.isTold i.registration = true := by
  refine List.any_eq_true.mpr ⟨i, member, ?_⟩
  unfold Inbox.isReplied at replied
  split at replied
  · simp [*]
  · contradiction

omit [Message μ] in
theorem noneReplied (c : Connection μ) :
    c.inboxes.countP (fun i => i.isReplied && !c.isTold i.registration) = 0 := by
  refine List.countP_eq_zero.mpr fun i member new => ?_
  obtain ⟨replied, untold⟩ := Bool.and_eq_true_iff.mp new
  rw [repliedIsTold member replied] at untold
  contradiction

theorem silentLots {past : List (Occurrence μ)}
    (silent : past.filterMap Occurrence.routed? = []) : past.filterMap Occurrence.lot? = [] := by
  refine List.filterMap_eq_nil_iff.mpr fun o member => ?_
  cases o with
  | routed found frame => exact absurd member (notRouted silent)
  | _ => rfl

theorem silentReplies (h : c.Sound) {e : Event μ}
    (silent : (c.occurrences e).filterMap Occurrence.routed? = []) : c.replies e = 0 := by
  refine List.countP_eq_zero.mpr fun j member new => ?_
  obtain ⟨replied, untold⟩ := Bool.and_eq_true_iff.mp new
  rcases stepMembers h e member with old | ⟨empty, _⟩ | ⟨result, same, _, puts⟩
  · rw [repliedIsTold old replied] at untold
    contradiction
  · unfold Inbox.isReplied at replied
    rw [empty] at replied
    contradiction
  · cases puts with
    | frame comes => exact notRouted silent comes
    | interrupt | lost =>
      rw [same] at replied
      contradiction

/-- The event takes the connection down for a corrupted length. -/
def Corrupts (c : Connection μ) (e : Event μ) : Prop :=
  c.lifecycle = .live ∧ ∃ b, c.Falls e .corrupted b

/-- What an event puts into inboxes, and what it adds to the counters. -/
structure Accounts (c : Connection μ) (lots : List Lot) (torn : Nat) (e : Event μ) : Prop where
  replies : c.replies e = ((c.occurrences e).filterMap Occurrence.lot?).count .answer
  ledger : ∃ more, (more = 1 ∧ c.Corrupts e ∨ more = 0 ∧ ¬c.Corrupts e) ∧
    Ledger (lots ++ (c.occurrences e).filterMap Occurrence.lot?) (torn + more) (c.step e).metrics

theorem Accounts.silent (h : c.Sound) (ledger : Ledger lots torn c.metrics) {e : Event μ}
    (silent : (c.occurrences e).filterMap Occurrence.routed? = []) (stays : ¬c.Corrupts e)
    (same : (c.step e).metrics.inbound = c.metrics.inbound) : c.Accounts lots torn e := by
  have none := silentLots silent
  refine ⟨?_, 0, .inr ⟨rfl, stays⟩, ?_⟩
  · rw [none, silentReplies h silent]
    rfl
  · rw [none, List.append_nil]
    exact ledger.same same

theorem idleRead {arrival : Option Arrival} (none : c.received (.read arrival) = []) :
    (c.step (.read arrival)).metrics.inbound = c.metrics.inbound := by
  have leaves (d : Connection μ) : d.leave.metrics.inbound = d.metrics.inbound :=
    congrArg Prod.snd (leaveSettled d)
  have closes (d : Connection μ) (reason : CloseReason) :
      (d.close reason).metrics.inbound = d.metrics.inbound :=
    congrArg Prod.snd (closeSettled d reason)
  dsimp only [step]
  cases c.readerCases arrival with
  | stopped _ comes | behind _ _ comes | idle _ _ _ comes => rw [comes]
  | passes _ _ comes =>
    rw [comes]
    rfl
  | leaves _ _ comes => exact comes ▸ leaves c
  | ended _ _ _ comes => exact comes ▸ (leaves _).trans (closes c .endOfStream)
  | feeds reader up brings full =>
    subst brings
    dsimp only [received] at none
    rw [reader, if_neg (by simp [up])] at none
    exact absurd none full
  | fails _ _ _ comes => exact comes ▸ (leaves _).trans (closes _ .readFailed)

theorem corruptsIff {buffer data : List UInt8} (live : c.lifecycle = .live)
    (reader : c.reader = .reading buffer) (full : data ≠ []) :
    c.Corrupts (.read (some (.bytes data))) ↔
      (Frame.splitAll c.config.maxFrameSize (buffer ++ data)).fault ≠ none := by
  constructor
  · rintro ⟨_, b, falls⟩
    cases falls with
    | corrupted reading _ fault =>
      rw [reader] at reading
      cases reading
      rw [fault]
      exact Option.some_ne_none _
  · intro fault
    obtain ⟨cause, some⟩ := Option.ne_none_iff_exists'.mp fault
    exact ⟨live, _, .corrupted reader full some⟩

/-- The frames of a read, with what lies behind the last of them left alone. -/
theorem readBooked (h : c.Sound) (ledger : Ledger lots torn c.metrics) (n : Nat)
    (frames : List Frame) :
    let d := frames.foldl route (c.countRead n)
    let more := ((c.countRead n).routings frames).filterMap Occurrence.lot?
    d.Coherent ∧ Ledger (lots ++ more) torn d.metrics ∧
      d.inboxes.countP (fun i => i.isReplied && !c.isTold i.registration) = more.count .answer := by
  intro d more
  have coherent : (c.countRead n).Coherent := ⟨h.coherent.matched, h.coherent.owned⟩
  have booked := routeAllBooked coherent frames c.isTold
    fun i member empty => untold h.coherent member empty
  have counted : Ledger lots torn (c.countRead n).metrics :=
    ⟨ledger.delivered, ledger.discarded, ledger.faults⟩
  refine ⟨coherent.routeAll frames, ?_, ?_⟩
  · rw [booked.metrics]
    exact counted.books more
  · refine booked.replies.trans ?_
    rw [show (c.countRead n).inboxes.countP _ = 0 from noneReplied c, Nat.zero_add]

theorem Accounts.feed (h : c.Sound) (ledger : Ledger lots torn c.metrics)
    {buffer data : List UInt8} (reader : c.reader = .reading buffer) (up : c.shutdown = false)
    (full : data ≠ []) : c.Accounts lots torn (.read (some (.bytes data))) := by
  have live : c.lifecycle = .live := (upWhileListening h.standing up).lifecycle
  have corrupts := corruptsIff live reader full
  have occurs := readOccurrences reader up full
  have fed := (readStep reader up full).trans (feedStages c buffer data)
  dsimp only at fed
  generalize Frame.splitAll c.config.maxFrameSize (buffer ++ data) = run at corrupts occurs fed
  obtain ⟨frames, fault, rest⟩ := run
  obtain ⟨coherent, books, replies⟩ := readBooked h ledger data.length frames
  rw [← occurs] at books replies
  cases fault with
  | none =>
    refine ⟨?_, 0, .inr ⟨rfl, fun torn => corrupts.mp torn rfl⟩, ?_⟩
    · unfold Connection.replies
      rw [fed]
      exact replies
    · rw [fed]
      exact books
  | some cause =>
    have alive : (frames.foldl route (c.countRead data.length)).isLive = true := by
      rw [routeAllShape]
      exact beq_iff_eq.mpr live
    refine ⟨?_, 1, .inl ⟨rfl, corrupts.mpr (Option.some_ne_none cause)⟩, ?_⟩
    · unfold Connection.replies
      rw [fed]
      dsimp only
      rw [leaveInboxes, lostReplies coherent alive]
      exact replies
    · rw [fed]
      refine books.fault.same ?_
      exact (congrArg Prod.snd (leaveSettled _)).trans (lostMetrics _ cause)

theorem stepAccounts (h : c.Sound) (ledger : Ledger lots torn c.metrics) (e : Event μ) :
    c.Accounts lots torn e := by
  by_cases reads : ∃ arrival, e = .read arrival
  · obtain ⟨arrival, rfl⟩ := reads
    rcases readCases c arrival with ⟨buffer, data, reader, up, full, rfl⟩ | ⟨silent, none, _⟩
    · exact .feed h ledger reader up full
    · refine .silent h ledger (by rw [silent]; rfl) (fun ⟨live, b, falls⟩ => ?_) (idleRead none)
      cases falls with
      | corrupted reading full fault =>
        dsimp only [received] at none
        have up : c.shutdown = false := (upOf h.standing live).shutdown
        rw [reading, up] at none
        exact full none
  · have deaf : ∀ arrival, e ≠ .read arrival := fun arrival same => reads ⟨arrival, same⟩
    have silent : (c.occurrences e).filterMap Occurrence.routed? = [] := by
      rcases c.eventCases e with ⟨call, purpose, request, rfl⟩ | read | passes
      · exact c.submitSilent call purpose request
      · exact absurd read reads
      · exact passes.routed
    refine .silent h ledger silent (fun ⟨_, b, falls⟩ => ?_) (stepInbound c deaf)
    cases falls
    exact reads ⟨_, rfl⟩

/-! All events. -/

/-- A corrupted length has taken the connection down. -/
def Torn (c : Connection μ) (events : List (Event μ)) : Prop :=
  ∃ before e after, events = before ++ e :: after ∧ (c.run before).Corrupts e

theorem tornCons {e : Event μ} {rest : List (Event μ)} :
    c.Torn (e :: rest) ↔ c.Corrupts e ∨ (c.step e).Torn rest := by
  constructor
  · rintro ⟨before, e', after, split, corrupts⟩
    cases before with
    | nil =>
      obtain ⟨rfl, rfl⟩ := List.cons.inj split
      exact .inl corrupts
    | cons first before =>
      obtain ⟨rfl, rfl⟩ := List.cons.inj split
      exact .inr ⟨before, e', after, rfl, corrupts⟩
  · rintro (corrupts | ⟨before, e', after, rfl, corrupts⟩)
    · exact ⟨[], e, rest, rfl, corrupts⟩
    · exact ⟨e :: before, e', after, rfl, corrupts⟩

theorem tornOnce (h : c.Sound) {e : Event μ} (corrupts : c.Corrupts e)
    (rest : List (Event μ)) : ¬(c.step e).Torn rest := by
  obtain ⟨live, b, falls⟩ := corrupts
  have left := falls.leaves (upOf h.standing live) h.coherent h.callers
  have down := downOf (h.step e).standing left.down
  rintro ⟨before, e', after, _, live', _⟩
  have closed : ((c.step e).run before).lifecycle = .closed := (downForGood down before).1.lifecycle
  rw [closed] at live'
  contradiction

theorem runAccounts (h : c.Sound) (ledger : Ledger lots torn c.metrics)
    (events : List (Event μ)) :
    c.replied events = ((c.history events).filterMap Occurrence.lot?).count .answer ∧
      ∃ more, (more = 1 ∧ c.Torn events ∨ more = 0 ∧ ¬c.Torn events) ∧
        Ledger (lots ++ (c.history events).filterMap Occurrence.lot?) (torn + more)
          (c.run events).metrics := by
  induction events generalizing c lots torn with
  | nil =>
    have never : ¬c.Torn [] := fun ⟨before, e, after, split, _⟩ => by simp at split
    exact ⟨rfl, 0, .inr ⟨rfl, never⟩, by simpa [history, run] using ledger⟩
  | cons e rest ih =>
    obtain ⟨replies, one, tears, stepped⟩ := stepAccounts h ledger e
    obtain ⟨later, more, torn', followed⟩ := ih (h.step e) stepped
    rw [history, List.filterMap_append]
    refine ⟨?_, one + more, ?_, ?_⟩
    · rw [replied, replies, later, List.count_append]
    · rw [tornCons]
      rcases tears with ⟨rfl, corrupts⟩ | ⟨rfl, intact⟩
      · have once := tornOnce h corrupts rest
        obtain ⟨rfl, -⟩ := torn'.resolve_left fun again => once again.2
        exact .inl ⟨rfl, .inl corrupts⟩
      · rw [Nat.zero_add]
        exact torn'.imp (And.imp_right .inr) (And.imp_right fun none some => some.elim intact none)
    · rw [← List.append_assoc, ← Nat.add_assoc]
      exact followed

theorem routedLots (past : List (Occurrence μ)) :
    (past.filterMap Occurrence.lot?).length = (past.filterMap Occurrence.routed?).length := by
  induction past with
  | nil => rfl
  | cons o rest ih =>
    cases o <;> simp [List.filterMap_cons, Occurrence.lot?, Occurrence.routed?, ih]

/-- Of all frames that came in, each is in one of the counters, and in two if it has removed an
entry whose reply would be dropped. -/
theorem noneUnaccounted (s : Setting μ) (events : List (Event μ)) :
    let c := s.start.run events
    let past := s.start.history events
    let frames := past.filterMap Occurrence.routed?
    let lots := past.filterMap Occurrence.lot?
    frames = (Frame.splitAll s.config.maxFrameSize (s.start.inbound events)).frames ∧
      c.metrics.repliesDelivered = s.start.replied events ∧
      (∃ torn, (torn = 1 ∧ s.start.Torn events ∨ torn = 0 ∧ ¬s.start.Torn events) ∧
        Ledger lots torn c.metrics ∧
        c.metrics.repliesDelivered + c.metrics.repliesDiscarded + c.metrics.protocolErrors =
          frames.length + torn + lots.count .wasted) ∧
      ∀ found frame, .routed found frame ∈ past →
        (found.lot frame = .wasted ↔ found.canRead frame = false ∧
          (∃ ticket, found.table.get? frame.header.correlationId = some ⟨ticket, .dropped⟩) ∧
          (found.route frame).table.get? frame.header.correlationId = none) ∧
        (found.canRead frame = true →
          (∀ ticket, found.table.get? frame.header.correlationId ≠ some ⟨ticket, .awaited⟩) →
          found.lot frame = .unasked ∧
            (found.route frame).metrics = found.metrics.countDiscarded) := by
  intro c past frames lots
  have start : Ledger [] 0 s.start.metrics := ⟨rfl, rfl, rfl⟩
  obtain ⟨replied, torn, tears, ledger⟩ := runAccounts (runSound s []) start events
  rw [List.nil_append, Nat.zero_add] at ledger
  refine ⟨?_, ledger.delivered.trans replied.symm, ⟨torn, tears, ledger, ?_⟩,
    fun found frame member => ⟨?_, fun reads unawaited => ?_⟩⟩
  · have followed := (runFollows s events).frames
    rwa [(runFixed s.start events).2] at followed
  · rw [← routedLots past]
    exact ledger.balance
  · rw [lotWasted, routeFrees, and_iff_left rfl]
  · have unasked := lotUnasked.mpr ⟨reads, unawaited⟩
    have books := routeBooks (routedCoherent s events member).1 frame
    rw [unasked] at books
    exact ⟨unasked, books⟩

end Connection
end ServiceMux
