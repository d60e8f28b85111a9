import ServiceMux.Proofs.Deciding
import ServiceMux.Proofs.Replies
/-! Replies that come after their caller has given up. Main statements: whoever gives up takes the
entry off the table, and the id is free (`GivesUp.frees`); so the reply is discarded when it comes,
unless its id was given to a later request in the meantime (`lateReply`). With few ids it is, and
the later caller gets the reply (`lateReplyIsMistaken`). -/
namespace ServiceMux
variable {μ : Type}

theorem PendingTable.cancelFrees {t : PendingTable} {r : Registration} (held : t.holds r = true) :
    (t.cancel r).2.get? r.correlationId = none := by
  unfold cancel
  rw [if_pos held]
  exact takeFrees t r.correlationId

namespace Connection

/-- With this event, a caller who waits for the reply to a request gives it up. -/
inductive GivesUp (c : Connection μ) (r : Registration) : Event μ → Prop where
  | timeout {w : Wait} (waits : w ∈ c.waits) (own : w.registration = r) {now : Instant}
      {attempt : WriteAttempt} {after : Duration}
      (told : (c.poll w.call now attempt).2 = some (.error (.timeout r.correlationId after))) :
      GivesUp c r (.poll w.call now attempt)
  | interrupt (told : (c.interrupt r).2 = true) : GivesUp c r (.interrupt r)
  | drop (out : c.isHandedOut r = true) (held : c.table.holds r = true) :
      GivesUp c r (.dropReply r)
  | abandon {w : Wait} (waits : w ∈ c.waits) (own : w.registration = r)
      (held : c.table.holds r = true) : GivesUp c r (.abandon w.call)

theorem interrupted {c : Connection μ} {r : Registration} (told : (c.interrupt r).2 = true) :
    c.table.holds r = true ∧ (c.interrupt r).1.table = (c.table.cancel r).2 := by
  cases c.interruptCases r with
  | missed _ comes | dropped _ comes =>
    rw [comes] at told
    contradiction
  | awaited entry comes =>
    refine ⟨?_, by rw [comes, deliverShape]; rfl⟩
    unfold PendingTable.holds
    rw [entry]
    exact beq_self_eq_true _

variable [Message μ]

theorem GivesUp.cancels {c : Connection μ} {r : Registration} {e : Event μ} (h : c.GivesUp r e)
    (sound : c.Sound) :
    c.table.holds r = true ∧ (c.step e).table = (c.table.cancel r).2 := by
  cases h with
  | timeout waits own told =>
    subst own
    obtain ⟨out, ended⟩ := timesOut sound waits told
    exact ⟨sound.coherent.emptyIsHeld waits (by rw [out.empty]; rfl),
      congrArg Connection.table ended⟩
  | interrupt told => exact interrupted told
  | drop out held =>
    dsimp only [step]
    rw [if_pos out]
    exact ⟨held, rfl⟩
  | abandon waits own held =>
    subst own
    dsimp only [step]
    rw [abandonWaiting sound.callers waits]
    exact ⟨held, rfl⟩

theorem GivesUp.frees {c : Connection μ} {r : Registration} {e : Event μ} (h : c.GivesUp r e)
    (sound : c.Sound) : (c.step e).table.get? r.correlationId = none := by
  obtain ⟨held, cancelled⟩ := h.cancels sound
  rw [cancelled]
  exact PendingTable.cancelFrees held

/-- The frame could yield a reply if somebody waited for it. -/
def canRead (c : Connection μ) (frame : Frame) : Bool :=
  c.service.accepts frame.header.serverId && (c.prototypeFor frame.header.requestReplyId).isSome

structure Discards (c : Connection μ) (frame : Frame) : Prop where
  table : (c.route frame).table = c.table
  inboxes : (c.route frame).inboxes = c.inboxes
  metrics : (c.route frame).metrics =
    if c.canRead frame then c.metrics.countDiscarded else c.metrics.countFault

theorem discards {c : Connection μ} {frame : Frame}
    (free : c.table.get? frame.header.correlationId = none) : c.Discards frame := by
  have untouched : c.table.take frame.header.correlationId = (none, c.table) := by
    unfold PendingTable.take
    rw [free]
  refine ⟨?_, ?_, ?_⟩ <;> rw [routeEq]
  · exact congrArg Prod.snd untouched
  · dsimp only [answered]
    rw [free]
  · dsimp only [tally, failedTally]
    rw [free]
    rfl

theorem lateReply (s : Setting μ) (before after : List (Event μ)) {r : Registration}
    {e next : Event μ} (gone : (s.start.run before).GivesUp r e) {found : Connection μ}
    {frame : Frame}
    (comes : .routed found frame ∈ (((s.start.run before).step e).run after).occurrences next)
    (answers : frame.header.correlationId = r.correlationId) :
    found.Discards frame ∨
      ∃ r' fate, .registered r' fate ∈ ((s.start.run before).step e).history after ∧
        r'.correlationId = r.correlationId ∧
        found.table.get? r.correlationId = some ⟨r'.ticket, fate⟩ := by
  have free := gone.frees (runSound s before)
  -- Its id is free, so an entry that the frame finds there was registered since.
  cases held : found.table.get? r.correlationId with
  | none => exact .inl (discards (answers ▸ held))
  | some slot =>
    rcases foundSince _ after comes _ (PendingTable.memOfGet held) with old | ⟨r', fate, made, same⟩
    · exact absurd rfl (PendingTable.freeOfGet free _ old)
    · obtain ⟨o, inside, enrolled⟩ := List.mem_filterMap.mp made
      obtain ⟨id, rfl⟩ := Prod.mk.inj same
      cases o with
      | registered =>
        cases enrolled
        exact .inr ⟨r', fate, inside, id.symm, rfl⟩
      | _ => contradiction

/-! One id in all, and two calls: the first waits ten milliseconds, the second gets its id. -/

def oneId : Setting Bench.Datastream :=
  ⟨1, .command, .empty, { correlationIdLimit := 1 }, none, none⟩

def impatient : List (Event Bench.Datastream) :=
  [.addPrototype 0x8001 Bench.ReplyType.pong.prototype,
    .submit 0 (.receive (some (.ofMillis 10))) ⟨0, .request 0x1001 0 [] none⟩,
    .poll 0 0 ⟨.complete, false⟩]

def tooLate : Event Bench.Datastream := .poll 0 10000000 ⟨.complete, false⟩

def another : List (Event Bench.Datastream) :=
  [.submit 1 (.receive none) ⟨0, .request 0x1001 0 [] none⟩, .poll 1 10000000 ⟨.complete, false⟩]

def mistaken : Connection Bench.Datastream :=
  (((oneId.start.run impatient).step tooLate).run another).countRead 24

def lateBytes : List UInt8 :=
  [0, 0, 0, 24, 0, 0, 0xE0, 8, 0, 0, 0, 0, 0, 0, 0, 1, 0, 4, 0x80, 1, 0, 0, 0, 7]

def lateFrame : Frame := ⟨⟨24, 0, 0xE008, 0, 1, 4, 0x8001⟩, [0, 0, 0, 7]⟩

theorem impatientGivesUp : (oneId.start.run impatient).GivesUp ⟨1, 1⟩ tooLate := by
  have waits : Wait.mk 0 ⟨1, 1⟩ (some (.set 0 (.ofMillis 10))) ∈
      (oneId.start.run impatient).waits := List.mem_cons_self
  have told : ((oneId.start.run impatient).poll 0 10000000 ⟨.complete, false⟩).2 =
      some (.error (.timeout 1 (.ofMillis 10))) := rfl
  exact .timeout waits rfl told

theorem lateFrameComes {c : Connection Bench.Datastream} (reader : c.reader = .reading [])
    (up : c.shutdown = false) (limit : c.config.maxFrameSize = Frame.defaultMax) :
    .routed (c.countRead 24) lateFrame ∈ c.occurrences (.read (some (.bytes lateBytes))) := by
  have taken : Frame.splitAll Frame.defaultMax lateBytes = ⟨[lateFrame], none, []⟩ := by
    have first : Frame.split Frame.defaultMax lateBytes = .ok (some (lateFrame, [])) := by decide
    rw [Frame.splitAllFrame first, Frame.splitAllPart rfl]
  rw [readOccurrences reader up (by decide), limit]
  show Occurrence.routed (c.countRead 24) lateFrame ∈
    (c.countRead 24).routings (Frame.splitAll Frame.defaultMax lateBytes).frames
  rw [taken]
  exact List.mem_cons_self

/-- The reply comes while the id is free, and it comes once the id was given to the second call. -/
theorem lateReplyOneId :
    let gone := (oneId.start.run impatient).step tooLate
    let free := gone.countRead 24
    let late := .read (some (.bytes lateBytes))
    (oneId.start.run impatient).GivesUp ⟨1, 1⟩ tooLate ∧
      .routed free lateFrame ∈ gone.occurrences late ∧ free.Discards lateFrame ∧
      free.canRead lateFrame = true ∧
      .routed mistaken lateFrame ∈ (gone.run another).occurrences late ∧
      (mistaken.Discards lateFrame ∨
        ∃ r' fate, .registered r' fate ∈ gone.history another ∧ r'.correlationId = 1 ∧
          mistaken.table.get? 1 = some ⟨r'.ticket, fate⟩) := by
  intro gone free late
  have comes : .routed free lateFrame ∈ gone.occurrences late := lateFrameComes rfl rfl rfl
  have again : .routed mistaken lateFrame ∈ (gone.run another).occurrences late :=
    lateFrameComes rfl rfl rfl
  have discarded : free.Discards lateFrame := by
    rcases lateReply oneId impatient [] impatientGivesUp comes rfl with
      discarded | ⟨_, _, registered, _⟩
    · exact discarded
    · exact absurd registered List.not_mem_nil
  exact ⟨impatientGivesUp, comes, discarded, by decide, again,
    lateReply oneId impatient another impatientGivesUp again rfl⟩

/-- The second call gets the reply to the first. -/
theorem lateReplyIsMistaken :
    (oneId.start.run impatient).GivesUp ⟨1, 1⟩ tooLate ∧
      .routed mistaken lateFrame ∈ (((oneId.start.run impatient).step tooLate).run
        another).occurrences (.read (some (.bytes lateBytes))) ∧
      lateFrame.header.correlationId = 1 ∧ mistaken.Resolves lateFrame ⟨1, 2⟩ ∧
      (mistaken.route lateFrame).metrics.repliesDelivered = 1 ∧
      (mistaken.route lateFrame).metrics.repliesDiscarded = 0 := by
  refine ⟨impatientGivesUp, lateFrameComes rfl rfl rfl, rfl, ⟨?_, ?_⟩, by decide, by decide⟩
  · exact List.mem_cons_self
  · exact ⟨_, List.mem_cons_self⟩

end Connection
end ServiceMux
