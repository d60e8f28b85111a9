import ServiceMux.Bench.Datastream
import ServiceMux.Proofs.Encoding
import ServiceMux.Proofs.Enrolling
import ServiceMux.Proofs.Sparing
/-! From the id that a call reports back to its frame. Main statements: a call that has sent was the
first in line and handed over what was left of its frame (`pollAnswers`), a reply that was returned
is in no call's hands any more (`runReturned`), and so the frame on the wire carries the id under
which the call was registered, and was registered when it began to go out
(`requestPathAgrees`). -/
namespace ServiceMux
variable {μ : Type}

/-- A call for this purpose answers like this when it has sent under this id. -/
inductive Purpose.Yields : Purpose → UInt32 → Answer μ → Prop where
  | request (r : Registration) : Yields .request r.correlationId (.handle r)
  | discard (id : UInt32) : Yields .discard id (.id id)
  | send (id : UInt32) : Yields .send id (.id id)
  | sendAs (id : UInt32) : Yields (.sendAs id) id .done

namespace Message
variable [Message μ]

/-- The frame of a message, as it is on the wire. -/
def wired (serverId : UInt16) (message : μ) (body : List UInt8) : Frame :=
  { header :=
      { length := UInt32.ofNat (Header.size + body.length)
        headerId := 0
        serverId
        instanceId := 0
        correlationId := correlationId message
        templateLength := templateLength message
        requestReplyId := requestReplyId message }
    body }

theorem framed {serverId : UInt16} {message : μ} {max : Nat} {bytes : List UInt8}
    (h : frame serverId message max = .ok bytes) :
    ∃ body, encodeBody message = .ok body ∧ bytes.length = Header.size + body.length ∧
      (wired serverId message body).header.length.toNat = bytes.length ∧
      Frame.split max bytes = .ok (some (wired serverId message body, [])) := by
  unfold frame at h
  split at h
  · contradiction
  · rename_i body encoded
    dsimp only at h
    split at h
    · contradiction
    · rename_i whole
      cases h
      have writes : Frame.WrittenAs max (wired serverId message body) bytes := whole
      have alone := Frame.writtenIsSplit writes []
      have length := Frame.writtenLength writes
      rw [List.append_nil] at alone
      exact ⟨body, encoded, length, (Frame.written writes).2.1.trans length.symm, alone⟩

end Message

namespace Connection
variable {c d : Connection μ} {r : Registration} {call : CallId} {frame : List UInt8}
  {errand : Errand} {rest : List Turn} {answer : Answer μ} {now : Instant}
  {attempt : WriteAttempt}

/-! Having sent. -/

/-- If the first in line is done with what it was let do, and without an error, then what was left
of its frame is on the wire, and it has left the line. -/
def Sends (c : Connection μ) (errand : Errand) (left : List UInt8)
    (done : Connection μ × Option (Outcome μ)) : Prop :=
  ∀ answer, done.2 = some (.ok answer) →
    errand.answer? = some answer ∧ done.1.line = c.line.tail ∧ done.1.written = c.written ++ left

theorem notSentSends (c d : Connection μ) (errand : Errand) (left : List UInt8) (e : ServerError) :
    Sends c errand left (d.notSent errand e) := nofun

theorem writeOnSends (c : Connection μ) (call : CallId) (frame : List UInt8) (errand : Errand)
    (before : Nat) (now : Instant) (attempt : WriteAttempt) :
    Sends c errand (frame.drop before) (c.writeOn call frame errand before now attempt) := by
  have written : (c.interfered attempt).written = c.written :=
    interferedState c attempt rfl (closeWritten c .forced)
  cases c.writeCases call frame errand before now attempt with
  | late _ comes | failed _ _ comes => exact comes ▸ notSentSends _ _ _ _ _
  | stalled _ _ comes =>
    rw [comes]
    nofun
  | complete _ _ comes =>
    rw [comes]
    intro answer sent
    refine ⟨sentAnswers sent, ?_, ?_⟩
    · refine (congrArg Outward.line (sentOutward _ call errand now)).trans ?_
      exact congrArg List.tail (interferedLine c attempt)
    · refine (congrArg Outward.written (sentOutward _ call errand now)).trans ?_
      exact congrArg (· ++ frame.drop before) written

theorem takeTurnSends (c : Connection μ) (call : CallId) (frame : List UInt8) (errand : Errand)
    (now : Instant) (attempt : WriteAttempt) :
    Sends c errand (frame.drop (c.progress.getD 0))
      (c.takeTurn call frame errand now attempt) := by
  cases c.turnCases call frame errand now attempt with
  | late _ _ comes => exact comes ▸ notSentSends _ _ _ _ _
  | writes _ comes => exact comes ▸ writeOnSends c call frame errand _ now attempt

/-- A call that has sent was the first in line, and what was left of its frame is on the wire. -/
theorem pollAnswers (sent : (c.poll call now attempt).2 = some (.ok answer))
    (plain : ∀ reply, answer ≠ .reply reply) :
    ∃ frame errand rest, c.line = .write call frame errand :: rest ∧
      errand.answer? = some answer ∧ (c.poll call now attempt).1.line = rest ∧
      (c.poll call now attempt).1.written = c.written ++ frame.drop (c.progress.getD 0) := by
  cases c.pollCases call now attempt with
  | waits _ comes =>
    rw [comes] at sent
    exact absurd sent (pollWaitPlain _ _ _ plain)
  | @turn frame errand rest _ line comes =>
    rw [comes] at sent ⊢
    obtain ⟨answers, gone, written⟩ := takeTurnSends c call frame errand now attempt answer sent
    exact ⟨frame, errand, rest, line, answers, by rw [gone, line]; rfl, written⟩
  | still _ _ comes =>
    rw [comes] at sent
    contradiction

theorem Takes.yields {purpose : Purpose} {id : UInt32} (taken : c.Takes purpose d id errand)
    (answers : errand.answer? = some answer) : purpose.Yields id answer := by
  cases taken with
  | @request r => cases answers; exact .request r
  | receive => contradiction
  | @discard r => cases answers; exact .discard r.correlationId
  | @send id => cases answers; exact .send id
  | @sendAs id => cases answers; exact .sendAs id

theorem Takes.freshTicket {purpose : Purpose} {id : UInt32} (taken : c.Takes purpose d id errand)
    (registered : errand.registration? = some r) : r.ticket = c.table.nextTicket := by
  cases taken with
  | request ok | receive ok | discard ok =>
    cases registered
    exact (PendingTable.registered ok).2.1
  | send | sendAs => contradiction

variable [Message μ]

/-! Registrations that were returned. -/

/-- Whoever interrupts a wait has got the handle of the pending reply. -/
def InterruptsReturned (s : Setting μ) (events : List (Event μ)) : Prop :=
  ∀ before r after, events = before ++ .interrupt r :: after →
    ∃ earlier call now attempt later, before = earlier ++ .poll call now attempt :: later ∧
      ((s.start.run earlier).poll call now attempt).2 = some (.ok (.handle r))

theorem runReturned (s : Setting μ) (earlier later : List (Event μ))
    (out : ((s.start.run earlier).poll call now attempt).2 = some (.ok (.handle r))) :
    let c := s.start.run (earlier ++ .poll call now attempt :: later)
    r.ticket < c.table.nextTicket ∧ ∀ turn ∈ c.line, turn.registration? ≠ some r := by
  have sound := runSound s earlier
  obtain ⟨frame, errand, rest, first, answers, gone, -⟩ := pollAnswers out nofun
  have mine : errand = .handOut r := by
    cases errand <;> cases answers
    rfl
  subst mine
  have free := (sound.coherent.firstFrees first).unheld r rfl
  induction later using List.reverseRecOn with
  | nil =>
    rw [runLast]
    refine ⟨?_, fun turn stands registered => ?_⟩
    · have issued : Inward.Only r.ticket (fun _ => True) (s.start.run earlier).table :=
        ⟨free.issued, fun _ _ _ => trivial⟩
      exact (runOnly issued [.poll call now attempt]).issued
    · have inside : turn ∈ (s.start.run earlier).stepAside.line := by
        have tail : (s.start.run earlier).stepAside.line = rest := by
          unfold stepAside
          rw [first]
          rfl
        rw [tail, ← gone]
        exact stands
      refine free.apart r (List.mem_append_left _ (List.mem_filterMap.mpr ⟨turn, inside, ?_⟩)) rfl
      exact registered
  | append_singleton past e ih =>
    obtain ⟨issued, absent⟩ := ih
    rw [← List.cons_append, ← List.append_assoc, runLast]
    have only : Inward.Only r.ticket (fun _ => True)
        (s.start.run (earlier ++ .poll call now attempt :: past)).table :=
      ⟨issued, fun _ _ _ => trivial⟩
    refine ⟨(runOnly only [e]).issued, fun turn stands registered => ?_⟩
    rcases stepLine stands with old | rfl | ⟨_, _, _, _, _, _, _, _, rfl, enters⟩
    · exact absent turn old registered
    · contradiction
    · have ticket := enters.takes.freshTicket registered
      omega

/-! While the call stands in line. -/

theorem standingSpares (h : c.Sound) {turn : Turn} (registered : turn.registration? = some r)
    (held : c.table.holds r = true) {events : List (Event μ)}
    (stands : ∀ front, front <+: events → turn ∈ (c.run front).line)
    (quiet : .interrupt r ∉ events) (live : (c.run events).isLive = true) :
    (c.run events).table.holds r = true ∨ Claimed r (c.history events) := by
  induction events generalizing c with
  | nil => exact .inl held
  | cons e rest ih =>
    have was := stands [] List.nil_prefix
    have next := stands [e] (List.prefix_append [e] rest)
    have up : (c.step e).isLive = true := by
      by_contra down
      have gone := downOf (h.step e).standing (by simpa using down)
      have lost := downIsNotLive (downForGood gone rest).1
      exact Bool.noConfusion (live.symm.trans lost)
    have more {past : List (Occurrence μ)} (claimed : Claimed r past) (sub : past ⊆
        c.history (e :: rest)) : Claimed r (c.history (e :: rest)) := by
      obtain ⟨found, frame, member, claims⟩ := claimed
      exact ⟨found, frame, sub member, claims⟩
    rcases stepSpares h was registered next held up with stays | claimed | rfl
    · have later := ih (h.step e) stays
        (fun front within => stands (e :: front) (List.cons_prefix_cons.mpr ⟨rfl, within⟩))
        (fun inside => quiet (List.mem_cons_of_mem _ inside)) live
      exact later.imp_right fun claimed => more claimed (List.subset_append_right _ _)
    · exact .inr (more claimed (List.subset_append_left _ _))
    · exact absurd List.mem_cons_self quiet

/-- While a call stands in line, nobody has its registration to interrupt it. -/
theorem standingQuiet (s : Setting μ) (past later : List (Event μ))
    (returned : InterruptsReturned s (past ++ later)) {turn : Turn}
    (registered : turn.registration? = some r)
    (stands : ∀ front, front <+: later → turn ∈ ((s.start.run past).run front).line) :
    .interrupt r ∉ later := by
  intro inside
  obtain ⟨front, back, rfl⟩ := List.append_of_mem inside
  obtain ⟨earlier, call, now, attempt, since, split, out⟩ :=
    returned (past ++ front) r back (by simp)
  have still := stands front (List.prefix_append _ _)
  rw [← runAppend, split] at still
  exact (runReturned s earlier since out).2 turn still registered

/-- Of a connection that is down, nothing is handed over any more. -/
theorem downHands (down : c.outward.IsDown) (e : Event μ) : c.hands call e = [] := by
  unfold hands
  split
  · have same : (c.step e).written = c.written := (downForGood down [e]).2
    rw [same, List.drop_length]
  · rfl

/-- As long as the call stands in line and hands something over, its entry is there or a frame has
taken it. -/
theorem heldWhenHanded (h : c.Sound) {turn : Turn} (registered : turn.registration? = some r)
    (held : c.table.holds r = true) {front : List (Event μ)}
    (stands : ∀ past, past <+: front → turn ∈ (c.run past).line)
    (quiet : .interrupt r ∉ front) {e : Event μ} (begins : (c.run front).hands call e ≠ []) :
    (c.run front).table.holds r = true ∨ Claimed r (c.history front) := by
  refine standingSpares h registered held stands quiet ?_
  by_contra down
  have sound := afterRun Sound h (fun _ e now => now.step e) front
  exact begins (downHands (downOf sound.standing (by simpa using down)) e)

/-- A call that was idle as it came to stand in line has handed over its whole frame once it has
sent. -/
theorem handsWhole (apart : c.callers.Nodup) {after : List (Event μ)}
    (since : ∀ front, front <+: after → .write call frame errand ∈ (c.run front).line)
    (unwritten : c.outward.handedOver (.write call frame errand) frame = [])
    (first : (c.run after).line = .write call frame errand :: rest)
    (written : ((c.run after).poll call now attempt).1.written =
      (c.run after).written ++ frame.drop ((c.run after).progress.getD 0)) :
    c.handed call (after ++ [.poll call now attempt]) = frame := by
  have before : c.handed call after = frame.take ((c.run after).progress.getD 0) := by
    have soFar := standingHanded apart since
    rw [unwritten, List.nil_append] at soFar
    rw [← soFar]
    exact if_pos (congrArg List.head? first)
  have last : (c.run after).handed call [.poll call now attempt] =
      frame.drop ((c.run after).progress.getD 0) := by
    simp only [handed, hands, Event.caller?, step, if_true, written, List.drop_left,
      List.append_nil]
  rw [handedAppend, before, last, List.take_append_drop]

/-! The whole path. -/

omit [Message μ] in
theorem Takes.registers {purpose : Purpose} {id : UInt32} {fate : Fate}
    (taken : c.Takes purpose d id errand) (wanted : purpose.fate? = some fate) :
    ∃ r table, c.table.register fate = .ok (r, table) ∧ d.table = table ∧
      r.correlationId = id ∧ errand.registration? = some r := by
  cases taken with
  | request ok | receive ok | discard ok =>
    cases wanted
    exact ⟨_, _, ok, rfl, rfl, rfl⟩
  | send | sendAs => contradiction

/-- Begun here, the call puts its request on the wire under this id, while these events happen. -/
structure Carries (c : Connection μ) (call : CallId) (purpose : Purpose) (request : μ)
    (id : UInt32) (events : List (Event μ)) : Prop where
  live : c.lifecycle = .live
  fresh : c.isFresh call = true
  stamped : (c.submit call purpose request).request = Message.stamp id request
  /-- Nothing came between what it handed over. -/
  unbroken : ∃ front, ((c.step (.submit call purpose request)).run events).written =
    front ++ (c.step (.submit call purpose request)).handed call events
  accepted : c.service.accepts c.service.wireCode = true
  envelope : Message.correlationId (Message.stamp id request) = id →
    let sent := (c.step (.submit call purpose request)).handed call events
    ∃ body, Message.encodeBody (Message.stamp id request) = .ok body ∧
      sent.length = Header.size + body.length ∧ sent.length < UInt32.size ∧
      Frame.split c.config.maxFrameSize sent = .ok (some
        (⟨{ length := UInt32.ofNat sent.length
            headerId := 0
            serverId := c.service.wireCode
            instanceId := 0
            correlationId := id
            templateLength := Message.templateLength (Message.stamp id request)
            requestReplyId := Message.requestReplyId (Message.stamp id request) }, body⟩, []))
  /-- Whenever it hands something over, its own entry is there, or a frame has taken it. -/
  outstanding : ∀ fate, purpose.fate? = some fate →
    let begun := c.step (.submit call purpose request)
    ∃ r, c.registrations purpose = [.registered r fate] ∧ r.correlationId = id ∧
      ∀ front e back, events = front ++ e :: back → (begun.run front).hands call e ≠ [] →
        (begun.run front).table.holds r = true ∨ Claimed r (begun.history front)

theorem requestPathAgrees (s : Setting μ) (events : List (Event μ))
    (returned : InterruptsReturned s events)
    (sent : ((s.start.run events).poll call now attempt).2 = some (.ok answer))
    (plain : ∀ reply, answer ≠ .reply reply) :
    ∃ before purpose request after id, events = before ++ .submit call purpose request :: after ∧
      purpose.Yields id answer ∧
      (∀ front, front <+: after → call ∈
        (((s.start.run before).step (.submit call purpose request)).run front).callers) ∧
      (s.start.run before).Carries call purpose request id (after ++ [.poll call now attempt]) := by
  obtain ⟨frame, errand, rest, first, answers, -, written⟩ := pollAnswers sent plain
  obtain ⟨before, purpose, request, after, d, id, rfl, enters, since⟩ :=
    runEntered s events (firstStands first)
  refine ⟨before, purpose, request, after, id, rfl, enters.takes.yields answers,
    fun front within => ?_, ?_⟩
  · exact List.mem_append_left _ (List.mem_filterMap.mpr ⟨_, since front within, rfl⟩)
  have sound := (runSound s before).step (.submit call purpose request)
  have outbound := (runOutbound s (before ++ .submit call purpose request :: after)).2.1
  rw [runAppend] at first written outbound
  have unwritten := enters.unwritten (runOutbound s before).2.2.2
  have handed := handsWhole sound.callers since unwritten first written
  obtain ⟨body, encoded, length, field, splits⟩ := Message.framed enters.framed
  refine ⟨beq_iff_eq.mp enters.live, enters.fresh, ?stamped, ?unbroken, Service.acceptsOwnCode _,
    fun law => ?envelope, fun fate wanted => ?outstanding⟩
  case stamped =>
    rw [enters.begins]
    exact standInLineStamps call d _ errand
  case unbroken =>
    obtain ⟨front, ends⟩ := outbound.endsWith first
    refine ⟨front, ?_⟩
    rw [handed, runLast]
    refine (written.trans (congrArg (· ++ _) ends)).trans ?_
    rw [List.append_assoc]
    exact congrArg (front ++ ·) (List.take_append_drop _ frame)
  case envelope =>
    dsimp only
    rw [handed]
    refine ⟨body, encoded, length, field ▸ UInt32.toNat_lt_size _, splits.trans ?_⟩
    simp only [Message.wired, law, length]
  case outstanding =>
    obtain ⟨r, table, ok, tabled, same, registered⟩ := enters.takes.registers wanted
    have held : ((s.start.run before).step (.submit call purpose request)).table.holds r =
        true := by
      rw [enters.step]
      subst tabled
      exact (runSound s before).coherent.matched.distinct.registerHolds ok
    refine ⟨r, registrationsOne wanted enters.live ok, same, fun front e back split begins => ?_⟩
    have within : front <+: after := by
      have whole : front <+: after ++ [.poll call now attempt] := ⟨e :: back, split.symm⟩
      refine (List.prefix_concat_iff.mp whole).resolve_left fun all => ?_
      have shorter := congrArg List.length split
      rw [all, List.length_append, List.length_append, List.length_cons] at shorter
      simp at shorter
    have mine : (Turn.write call frame errand).registration? = some r := registered
    have quiet : .interrupt r ∉ after := by
      refine standingQuiet s (before ++ [.submit call purpose request]) after
        (by simpa using returned) mine fun past earlier => ?_
      rw [runLast]
      exact since past earlier
    exact heldWhenHanded sound mine held (fun past earlier => since past (earlier.trans within))
      (fun inside => quiet (within.subset inside)) begins

/-! A request that goes out in two parts. -/

def inParts : List (Event Bench.Datastream) :=
  [.submit 0 .request ⟨0, .request 0x1001 0 [] none⟩, .poll 0 0 ⟨.stalled 7, false⟩]

theorem sentInParts :
    let s : Setting Bench.Datastream := ⟨1, .command, .empty, {}, none, none⟩
    let done := (s.start.run inParts).poll 0 0 ⟨.complete, false⟩
    InterruptsReturned s inParts ∧ done.2 = some (.ok (.handle ⟨1, 1⟩)) ∧
      done.1.written = [0, 0, 0, 20, 0, 0, 0xE0, 8, 0, 0, 0, 0, 0, 0, 0, 1, 0, 0, 0x10, 1] ∧
      ∃ before purpose request after id, inParts = before ++ .submit 0 purpose request :: after ∧
        purpose.Yields id (.handle ⟨1, 1⟩ : Answer Bench.Datastream) ∧
        (s.start.run before).Carries 0 purpose request id
          (after ++ [.poll 0 0 ⟨.complete, false⟩]) := by
  intro s done
  have returned : InterruptsReturned s inParts := by
    intro before r after split
    have inside : .interrupt r ∈ inParts := by simp [split]
    simp [inParts] at inside
  have sent : done.2 = some (.ok (.handle ⟨1, 1⟩)) := rfl
  obtain ⟨before, purpose, request, after, id, split, yields, -, carries⟩ :=
    requestPathAgrees s inParts returned sent nofun
  exact ⟨returned, sent, by decide, before, purpose, request, after, id, split, yields, carries⟩

end Connection
end ServiceMux
