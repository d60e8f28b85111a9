import ServiceMux.Proofs.Standing
/-! The outbound stream. Main statements: what was written is whole frames, in the order in which
their calls took the write half, and at most the beginning of one more (`Outbound.move`); whoever
takes the write half has stood in line for it, in turn (`Fifo.move`). -/
namespace ServiceMux
variable {μ : Type}

/-- A call and the frame it is to send. -/
abbrev Sending := CallId × List UInt8

namespace Mark

def queued? : Mark → Option Sending
  | queued call frame => some (call, frame)
  | locked _ _ => none

def locked? : Mark → Option Sending
  | locked call frame => some (call, frame)
  | queued _ _ => none

end Mark

def bytesOf (sendings : List Sending) : List UInt8 := (sendings.map Prod.snd).flatten

@[simp] theorem bytesOfAppend (front back : List Sending) :
    bytesOf (front ++ back) = bytesOf front ++ bytesOf back := by
  simp [bytesOf]

@[simp] theorem bytesOfOne (call : CallId) (frame : List UInt8) :
    bytesOf [(call, frame)] = frame := by
  simp [bytesOf]

namespace Outward

/-- As long as nobody writes, an open connection has written all that was begun. A frame that is
being written is there as far as it got. Of a connection that is down, the last frame may be
incomplete. -/
inductive Outbound (locks : List Sending) (o : Outward) : Prop where
  | clear (idle : o.progress = none) (live : o.lifecycle = .live)
      (written : o.written = bytesOf locks) (sent : o.requestsSent = locks.length)
      (bytes : o.bytesWritten = o.written.length)
  | busy (done : List Sending) (call : CallId) (frame : List UInt8) (errand : Errand)
      (rest : List Turn) (k : Nat) (progress : o.progress = some k)
      (first : o.line = .write call frame errand :: rest) (split : locks = done ++ [(call, frame)])
      (within : k ≤ frame.length) (written : o.written = bytesOf done ++ frame.take k)
      (counted : o.lifecycle = .live →
        o.requestsSent = done.length ∧ o.bytesWritten = (bytesOf done).length)
  | ended (done rest : List Sending) (part : List UInt8) (idle : o.progress = none)
      (down : o.lifecycle = .closed) (split : locks = done ++ rest)
      (written : o.written = bytesOf done ++ part)
      (cut : part = [] ∨ ∃ next more, rest = next :: more ∧ part <+: next.2 ∧
        part.length < next.2.length)

variable {locks : List Sending} {o o' : Outward} {marks : List Mark}

namespace Outbound

theorem leftOver {done : List Sending} {call : CallId} {frame : List UInt8} {k : Nat}
    (idle : o.progress = none) (down : o.lifecycle = .closed)
    (split : locks = done ++ [(call, frame)])
    (written : o.written = bytesOf done ++ frame.take k) : Outbound locks o := by
  by_cases whole : frame.length ≤ k
  · rw [List.take_of_length_le whole] at written
    exact .ended (done ++ [(call, frame)]) [] [] idle down (by simp [split])
      (by simp [written]) (.inl rfl)
  · refine .ended done [(call, frame)] (frame.take k) idle down split written (.inr ?_)
    exact ⟨_, _, rfl, List.take_prefix _ _, by simp only [List.length_take]; omega⟩

theorem further (h : Outbound locks o) (idle : o.progress = none) (down : o.lifecycle = .closed)
    (more : List Sending) : Outbound (locks ++ more) o := by
  -- Those who lock from now on write nothing, so the stream ends where it was cut.
  cases h with
  | clear _ live =>
    rw [down] at live
    contradiction
  | busy _ _ _ _ _ k progress =>
    rw [idle] at progress
    contradiction
  | ended done rest part _ _ split written cut =>
    refine .ended done (rest ++ more) part idle down (by simp [split]) written ?_
    rcases cut with empty | ⟨next, others, begins, front, shorter⟩
    · exact .inl empty
    · exact .inr ⟨next, others ++ more, by simp [begins], front, shorter⟩

theorem carry (h : Outbound locks o) (progress : o'.progress = o.progress)
    (lifecycle : o'.lifecycle = o.lifecycle) (written : o'.written = o.written)
    (sent : o'.requestsSent = o.requestsSent) (bytes : o'.bytesWritten = o.bytesWritten)
    (line : o.progress ≠ none → ∀ call frame errand rest,
      o.line = .write call frame errand :: rest →
      ∃ rest', o'.line = .write call frame errand :: rest') : Outbound locks o' := by
  cases h with
  | clear idle live all count size =>
    exact .clear (progress.trans idle) (lifecycle.trans live) (written.trans all)
      (sent.trans count) (by rw [bytes, written, size])
  | busy done call frame errand rest k busy first split within all counted =>
    obtain ⟨rest', still⟩ := line (by simp [busy]) call frame errand rest first
    refine .busy done call frame errand rest' k (progress.trans busy) still split within
      (written.trans all) fun live => ?_
    rw [sent, bytes]
    exact counted (lifecycle.symm.trans live)
  | ended done rest part idle down split all cut =>
    exact .ended done rest part (progress.trans idle) (lifecycle.trans down) split
      (written.trans all) cut

theorem down (h : Outbound locks o) : Outbound locks o.down := by
  by_cases live : o.lifecycle = .live
  · have closed : o.down.lifecycle = .closed := by
      unfold Outward.down
      rw [if_pos live]
    cases h with
    | clear idle _ all =>
      exact .ended locks [] [] (by simpa using idle) closed (by simp) (by simpa using all)
        (.inl rfl)
    | busy done call frame errand rest k busy first split within all counted =>
      refine .busy done call frame errand rest k (by simpa using busy) (by simpa using first) split
        within (by simpa using all) fun up => ?_
      rw [closed] at up
      contradiction
    | ended done rest part idle down =>
      rw [live] at down
      contradiction
  · unfold Outward.down
    rw [if_neg live]
    exact h

theorem leave (h : Outbound locks o) : Outbound locks o.leave := by
  unfold Outward.leave
  split
  · exact h.carry rfl rfl rfl rfl rfl fun _ _ _ _ rest first => ⟨rest, first⟩
  · refine h.carry rfl rfl rfl rfl rfl fun _ call frame errand rest first => ?_
    exact ⟨rest ++ [.release], by simp [first]⟩

theorem writing (h : Outbound locks o) (up : o.IsUp) {call : CallId} {frame : List UInt8}
    {before : Nat} {after : Outward} (writes : o.Writes call frame before after) :
    ∃ done, locks ++ (o.lock call frame).filterMap Mark.locked? = done ++ [(call, frame)] ∧
      before ≤ frame.length ∧ o.written = bytesOf done ++ frame.take before ∧
      o.requestsSent = done.length ∧ o.bytesWritten = (bytesOf done).length := by
  cases h with
  | clear idle live all count size =>
    have begun := writes.before
    rw [idle] at begun
    obtain rfl : before = 0 := begun.symm
    refine ⟨locks, ?_, Nat.zero_le _, by simpa using all, count, by rw [size, all]⟩
    simp [lock, idle, Mark.locked?]
  | busy done caller other errand rest k busy first split within all counted =>
    have begun := writes.before
    rw [busy] at begun
    obtain rfl : before = k := begun.symm
    obtain ⟨errand', rest', line⟩ := writes.first
    rw [first] at line
    cases line
    obtain ⟨count, size⟩ := counted up.lifecycle
    refine ⟨done, ?_, within, all, count, size⟩
    simp [lock, busy, split]
  | ended done rest part idle down =>
    rw [up.lifecycle] at down
    contradiction

theorem goUnsent (h : Outbound locks o) (down : o.IsDown) (call : CallId) (frame : List UInt8) :
    Outbound (locks ++ (o.lock call frame).filterMap Mark.locked?)
      { o.pass with writeHalf := false } := by
  cases progress : o.progress with
  | none =>
    refine (h.further progress down.lifecycle _).carry progress.symm rfl rfl rfl rfl ?_
    exact fun busy => absurd progress busy
  | some k =>
    have silent : o.lock call frame = [] := by simp [lock, progress]
    rw [silent, List.filterMap_nil, List.append_nil]
    cases h with
    | clear idle => simp [progress] at idle
    | ended done rest part idle => simp [progress] at idle
    | busy done caller other errand' rest' before busy line split within all counted =>
      exact leftOver rfl down.lifecycle split all

section Write
variable {call : CallId} {frame : List UInt8} {before : Nat} {after : Outward}
  (h : Outbound locks o) (standing : o.Standing) (writes : o.Writes call frame before after)
include h standing writes

theorem stall {taken : Nat} (atMost : taken ≤ (frame.drop before).length) :
    Outbound (locks ++ (o.lock call frame).filterMap Mark.locked?)
      { after with
        progress := some (before + taken)
        written := o.written ++ (frame.drop before).take taken } := by
  rcases standing with up | down
  · obtain ⟨done, split, within, all, count, size⟩ := h.writing up writes
    obtain ⟨errand, rest, first⟩ := writes.first
    refine .busy done call frame errand rest _ rfl (writes.line.trans first) split ?_ ?_ fun _ => ?_
    · rw [List.length_drop] at atMost
      omega
    · rw [List.take_add, ← List.append_assoc, ← all]
    · exact ⟨writes.sent.trans count, writes.bytes.trans size⟩
  · exact absurd writes down.noWrite

theorem complete :
    Outbound (locks ++ (o.lock call frame).filterMap Mark.locked?)
      { after.pass with
        written := o.written ++ frame.drop before
        requestsSent := o.requestsSent + 1
        bytesWritten := o.bytesWritten + frame.length
        writeHalf := after.writeHalf && !after.shutdown && after.lifecycle == .live } := by
  rcases standing with up | down
  · obtain ⟨done, split, within, all, count, size⟩ := h.writing up writes
    have whole : o.written ++ frame.drop before = bytesOf (done ++ [(call, frame)]) := by
      rw [all, List.append_assoc, List.take_append_drop, bytesOfAppend, bytesOfOne]
    rw [split]
    rcases writes.standing up with ⟨_, rfl⟩ | down
    · refine .clear rfl up.lifecycle whole (by simp [count]) ?_
      simp only [whole, size, bytesOfAppend, bytesOfOne, List.length_append]
    · exact .ended _ [] [] rfl down.lifecycle (List.append_nil _).symm (by simpa using whole)
        (.inl rfl)
  · exact absurd writes down.noWrite

theorem fail (taken : Nat) :
    Outbound (locks ++ (o.lock call frame).filterMap Mark.locked?)
      { after.pass with
        written := o.written ++ (frame.drop before).take taken
        writeHalf := false }.down := by
  rcases standing with up | down
  · obtain ⟨done, split, within, all, count, size⟩ := h.writing up writes
    have down := writes.failed up (o.written ++ (frame.drop before).take taken)
    refine leftOver (k := before + taken) (by simp [pass]) down.lifecycle split ?_
    · rw [downWritten]
      dsimp only
      rw [List.take_add, ← List.append_assoc, ← all]
  · exact absurd writes down.noWrite

end Write

theorem abandon (h : Outbound locks o) (standing : o.Standing) (busy : o.progress ≠ none) :
    Outbound locks { o with writeHalf := false }.down.pass := by
  cases h with
  | clear idle => exact absurd idle busy
  | ended done rest part idle => exact absurd idle busy
  | busy done call frame errand rest k progress first split within all counted =>
    exact leftOver rfl (abandoned standing).lifecycle split (by simpa [pass] using all)

theorem move (h : Outbound locks o) (standing : o.Standing) (move : Move o marks o') :
    Outbound (locks ++ marks.filterMap Mark.locked?) o' := by
  have silent : locks ++ ([] : List Mark).filterMap Mark.locked? = locks := List.append_nil _
  cases move with
  | still => rw [silent]; exact h
  | down => rw [silent]; exact h.down
  | join live call frame errand =>
    refine (silent ▸ h).carry rfl rfl rfl rfl rfl fun _ caller other errand' rest first => ?_
    exact ⟨rest ++ [.write call frame errand], by simp [first]⟩
  | goUnsent first late =>
    rcases standing with up | down
    · exact absurd late up.notLate
    · exact h.goUnsent down _ _
  | stall writes taken atMost => exact h.stall standing writes atMost
  | complete writes => exact h.complete standing writes
  | fail writes taken => exact h.fail standing writes taken
  | giveUp idle first =>
    rw [silent]
    exact h.carry idle.symm rfl rfl rfl rfl fun busy => absurd idle busy
  | abandon busy => rw [silent]; exact h.abandon standing busy
  | step call behind =>
    rw [silent]
    refine h.carry rfl rfl rfl rfl rfl fun _ caller frame errand rest first => ?_
    have other := behind (.write caller frame errand) (by simp [first])
    exact ⟨rest.filter (·.call? != some call), by simp [first, other]⟩
  | leave told => rw [silent]; exact h.leave
  | downAndLeave => rw [silent]; exact h.down.leave
  | release first =>
    rw [silent]
    cases h with
    | busy done caller frame errand rest k busy line =>
      rw [first] at line
      cases line
    | clear idle live written sent bytes => exact .clear rfl live written sent bytes
    | ended done rest part idle down split written cut =>
      exact .ended done rest part rfl down split written cut

/-- Where the whole frames end, and what is behind them. -/
theorem parts (h : Outbound locks o) :
    ∃ n part, n ≤ locks.length ∧ o.written = bytesOf (locks.take n) ++ part ∧
      (part = [] ∨ ∃ next, locks[n]? = some next ∧ part <+: next.2 ∧
        part.length < next.2.length) ∧
      (part ≠ [] → o.progress = none → o.lifecycle = .closed) ∧
      (o.lifecycle = .live → o.progress = none →
        o.written.length = o.bytesWritten ∧ n = o.requestsSent) := by
  cases h with
  | clear idle live written sent bytes =>
    refine ⟨locks.length, [], Nat.le_refl _, ?_, .inl rfl, fun some => absurd rfl some,
      fun _ _ => ?_⟩
    · rw [List.take_length, written, List.append_nil]
    · exact ⟨bytes.symm, sent.symm⟩
  | busy done call frame errand rest k progress first split within written counted =>
    have busy : o.progress ≠ none := by simp [progress]
    by_cases whole : frame.length ≤ k
    · refine ⟨locks.length, [], Nat.le_refl _, ?_, .inl rfl, fun some => absurd rfl some,
        fun _ idle => absurd idle busy⟩
      rw [List.take_length, written, split, List.take_of_length_le whole, bytesOfAppend,
        bytesOfOne, List.append_nil]
    · refine ⟨done.length, frame.take k, by simp [split], ?_, .inr ⟨(call, frame), ?_, ?_, ?_⟩,
        fun _ idle => absurd idle busy, fun _ idle => absurd idle busy⟩
      · rw [split, List.take_left, written]
      · simp [split]
      · exact List.take_prefix _ _
      · simp only [List.length_take]
        omega
  | ended done rest part idle down split written cut =>
    refine ⟨done.length, part, by simp [split], ?_, ?_, fun _ _ => down, fun live => ?_⟩
    · rw [split, List.take_left, written]
    · rcases cut with empty | ⟨next, more, begins, front, shorter⟩
      · exact .inl empty
      · exact .inr ⟨next, by simp [split, begins], front, shorter⟩
    · rw [down] at live
      contradiction

theorem begins (h : Outbound locks o) : o.written <+: bytesOf locks := by
  cases h with
  | clear idle live written =>
    exact ⟨[], by rw [written, List.append_nil]⟩
  | busy done call frame errand rest k progress first split within written =>
    rw [written, split, bytesOfAppend, bytesOfOne]
    exact (List.prefix_append_right_inj _).mpr (List.take_prefix _ _)
  | ended done rest part idle down split written cut =>
    rw [written, split, bytesOfAppend]
    refine (List.prefix_append_right_inj _).mpr ?_
    rcases cut with rfl | ⟨next, more, rfl, front, _⟩
    · exact List.nil_prefix
    · exact front.trans (List.prefix_append _ _)

end Outbound

/-! Who takes the write half, and when. -/

def sending? : Turn → Option Sending
  | .write call frame _ => some (call, frame)
  | .release => none

/-- Those in line who have not taken the write half yet. -/
def unlocked (o : Outward) : List Sending :=
  (if o.progress.isSome then o.line.tail else o.line).filterMap sending?

/-- The write half goes to those who queued for it, in the order in which they did. -/
def Fifo (past : List Mark) (o : Outward) : Prop :=
  (past.filterMap Mark.locked? ++ o.unlocked).Sublist (past.filterMap Mark.queued?) ∧
    (o.progress.isSome → o.line ≠ [])

namespace Fifo
variable {past : List Mark}

theorem fewer (h : Fifo past o) (unlocked : o'.unlocked.Sublist o.unlocked)
    (busy : o'.progress.isSome → o'.line ≠ []) : Fifo past o' :=
  ⟨((List.Sublist.refl _).append unlocked).trans h.1, busy⟩

theorem turn (h : Fifo past o) {call : CallId} {frame : List UInt8} {errand : Errand}
    {rest : List Turn} (first : o.line = .write call frame errand :: rest)
    (unlocked : o'.unlocked = rest.filterMap sending?) (busy : o'.progress.isSome → o'.line ≠ []) :
    Fifo (past ++ o.lock call frame) o' := by
  refine ⟨?_, busy⟩
  have queue : (o.lock call frame).filterMap Mark.locked? ++ o'.unlocked = o.unlocked ∧
      (o.lock call frame).filterMap Mark.queued? = [] := by
    rw [unlocked]
    unfold lock Outward.unlocked
    rw [first]
    cases o.progress with
    | none => simp [Mark.locked?, Mark.queued?, sending?]
    | some k => simp
  rw [List.filterMap_append, List.filterMap_append, List.append_assoc, queue.1, queue.2,
    List.append_nil]
  exact h.1

theorem join (h : Fifo past o) (call : CallId) (frame : List UInt8) (errand : Errand) :
    Fifo (past ++ [.queued call frame])
      { o with line := o.line ++ [.write call frame errand] } := by
  have longer : unlocked { o with line := o.line ++ [.write call frame errand] } =
      o.unlocked ++ [(call, frame)] := by
    unfold unlocked
    dsimp only
    split
    · rename_i busy
      rw [List.tail_append_of_ne_nil (h.2 busy), List.filterMap_append]
      rfl
    · rw [List.filterMap_append]
      rfl
  refine ⟨?_, fun _ => by simp⟩
  rw [longer, List.filterMap_append, List.filterMap_append]
  have silent : [Mark.queued call frame].filterMap Mark.locked? = [] := rfl
  rw [silent, List.append_nil, ← List.append_assoc]
  exact h.1.append_right [(call, frame)]

theorem leave (h : Fifo past o) : Fifo past o.leave := by
  unfold Outward.leave
  split
  · exact ⟨h.1, h.2⟩
  · refine h.fewer ?_ fun _ => by simp
    unfold unlocked
    dsimp only
    split
    · rename_i busy
      rw [List.tail_append_of_ne_nil (h.2 busy)]
      simp [sending?]
    · simp [sending?]

theorem down (h : Fifo past o) : Fifo past o.down := by
  have same : o.down.unlocked = o.unlocked := by simp [unlocked]
  exact h.fewer (by rw [same]) (by simpa using h.2)

theorem step (h : Fifo past o) {call : CallId}
    (behind : ∀ turn, o.line.head? = some turn → turn.call? ≠ some call) :
    Fifo past { o with line := o.line.filter (·.call? != some call) } := by
  cases line : o.line with
  | nil => exact ⟨by simpa [unlocked, line] using h.1, by simpa [line] using h.2⟩
  | cons turn rest =>
    have kept := behind turn (by simp [line])
    have filtered : (turn :: rest).filter (·.call? != some call) =
        turn :: rest.filter (·.call? != some call) := by simp [kept]
    refine h.fewer ?_ fun _ => by simp [kept]
    unfold unlocked
    rw [line, filtered]
    dsimp only
    split
    · exact List.filter_sublist.filterMap _
    · exact (List.filter_sublist.cons_cons turn).filterMap _

theorem move (h : Fifo past o) (move : Move o marks o') : Fifo (past ++ marks) o' := by
  have passed (after : Outward) (line : after.line = o.line) {turn : Turn} {rest : List Turn}
      (first : o.line = turn :: rest) : after.pass.unlocked = rest.filterMap sending? := by
    simp [unlocked, pass, line, first]
  have idle (after : Outward) : after.pass.progress.isSome → after.pass.line ≠ [] := by
    simp [pass]
  cases move with
  | still => simpa using h
  | down => simpa using h.down
  | join live call frame errand => exact h.join call frame errand
  | goUnsent first late => exact h.turn first (passed o rfl first) (idle o)
  | stall writes taken atMost =>
    obtain ⟨errand, rest, first⟩ := writes.first
    refine h.turn first ?_ fun _ => ?_
    · simp [unlocked, writes.line, first]
    · simp [writes.line, first]
  | complete writes =>
    obtain ⟨errand, rest, first⟩ := writes.first
    exact h.turn first (passed _ writes.line first) (idle _)
  | fail writes taken =>
    obtain ⟨errand, rest, first⟩ := writes.first
    refine h.turn first ?_ ?_
    · have same := passed _ writes.line first
      simpa [unlocked] using same
    · simp [pass]
  | giveUp free first =>
    rw [List.append_nil]
    refine h.fewer ?_ (idle _)
    simp only [unlocked, free, pass, Option.isSome_none, Bool.false_eq_true, if_false]
    exact (List.tail_sublist _).filterMap _
  | abandon busy =>
    rw [List.append_nil]
    refine h.fewer ?_ (idle _)
    simp [unlocked, pass, Option.isSome_iff_ne_none.mpr busy]
  | step call behind => simpa using h.step behind
  | leave told => simpa using h.leave
  | downAndLeave => simpa using h.down.leave
  | release first =>
    rw [List.append_nil]
    refine h.fewer ?_ (idle _)
    simp only [unlocked, pass, first]
    cases o.progress <;> exact .refl _

end Fifo
end Outward

namespace Connection
open Outward
variable [Message μ]

theorem submitStamps (c : Connection μ) (call : CallId) (purpose : Purpose) (request : μ)
    (undecided : (c.submit call purpose request).outcome = none) :
    ∃ id, (c.submit call purpose request).request = Message.stamp id request := by
  rcases submitCases c call purpose request with
    ⟨e, refused, _⟩ | ⟨_, d, id, errand, _, stands⟩
  · rw [refused] at undecided
    contradiction
  · exact ⟨id, by rw [stands, standInLineStamps]⟩

/-- The frame of a call that was submitted: its request, stamped, in an envelope. -/
def Encodes (s : Setting μ) (events : List (Event μ)) (sending : Sending) : Prop :=
  ∃ before purpose request after id,
    events = before ++ .submit sending.1 purpose request :: after ∧
      Message.frame s.service.wireCode (Message.stamp id request) s.config.maxFrameSize =
        .ok sending.2

theorem queuedBySubmit {c : Connection μ} {e : Event μ} {call : CallId} {frame : List UInt8}
    (h : .queued call frame ∈ (c.occurrences e).filterMap Occurrence.mark?) :
    ∃ purpose request id, e = .submit call purpose request ∧
      Message.frame c.service.wireCode (Message.stamp id request) c.config.maxFrameSize =
        .ok frame := by
  cases e with
  | submit caller purpose request =>
    dsimp only [occurrences] at h
    split at h
    · rw [queuesMarks] at h
      unfold beginning at h
      split at h
      · rename_i undecided framed
        obtain ⟨id, stamped⟩ := submitStamps c caller purpose request undecided
        rw [stamped] at framed
        cases List.mem_singleton.mp h
        exact ⟨purpose, request, id, rfl, framed⟩
      · contradiction
    · contradiction
  | poll caller now attempt =>
    dsimp only [occurrences, turns] at h
    split at h
    · split at h <;> simp [Occurrence.mark?] at h
    · contradiction
  | read arrival =>
    rcases arrival with _ | ⟨data⟩ | cause
    · contradiction
    · dsimp only [occurrences] at h
      rw [arrivalsMarks] at h
      contradiction
    · contradiction
  | _ => contradiction

theorem laterEncodes (s : Setting μ) (past events : List (Event μ)) {call : CallId}
    {frame : List UInt8} (h : .queued call frame ∈
      ((s.start.run past).history events).filterMap Occurrence.mark?) :
    Encodes s (past ++ events) (call, frame) := by
  -- The call began at one of the steps to come; those that went before are kept in `past`.
  induction events generalizing past with
  | nil => contradiction
  | cons e rest ih =>
    rw [history, List.filterMap_append] at h
    rcases List.mem_append.mp h with now | later
    · obtain ⟨service, config⟩ := runFixed s.start past
      obtain ⟨purpose, request, id, rfl, framed⟩ := queuedBySubmit now
      rw [service, config] at framed
      exact ⟨past, purpose, request, rest, id, rfl, framed⟩
    · have onward := ih (past ++ [e]) (by simpa [run] using later)
      rwa [List.append_assoc] at onward

theorem queuedEncodes (s : Setting μ) (events : List (Event μ)) (sending : Sending)
    (h : sending ∈ ((s.start.history events).filterMap Occurrence.mark?).filterMap Mark.queued?) :
    Encodes s events sending := by
  obtain ⟨call, frame⟩ := sending
  obtain ⟨mark, marked, isQueued⟩ := List.mem_filterMap.mp h
  obtain rfl : mark = .queued call frame := by
    cases mark <;> simp_all [Mark.queued?]
  exact laterEncodes s [] events marked

theorem runOutbound (s : Setting μ) (events : List (Event μ)) :
    let past := (s.start.history events).filterMap Occurrence.mark?
    (s.start.run events).outward.Standing ∧
      Outbound (past.filterMap Mark.locked?) (s.start.run events).outward ∧
      Fifo past (s.start.run events).outward := by
  refine afterHistory (c := s.start) (fun past c => c.outward.Standing ∧
    Outbound ((past.filterMap Occurrence.mark?).filterMap Mark.locked?) c.outward ∧
    Fifo (past.filterMap Occurrence.mark?) c.outward)
    ⟨.inl (startUp s), .clear rfl rfl rfl rfl rfl, ⟨.refl _, nofun⟩⟩ ?_ events
  intro past c e ⟨standing, outbound, fifo⟩
  have move := stepMoves c e
  rw [List.filterMap_append, List.filterMap_append]
  exact ⟨standing.move move, outbound.move standing move, fifo.move move⟩

theorem neverDesynchronised (s : Setting μ) (events : List (Event μ)) :
    let c := s.start.run events
    let past := (s.start.history events).filterMap Occurrence.mark?
    let calls := past.filterMap Mark.queued?
    let locks := past.filterMap Mark.locked?
    (∀ sending ∈ calls, Encodes s events sending) ∧ locks.Sublist calls ∧
      ∃ n part, n ≤ locks.length ∧ c.written = bytesOf (locks.take n) ++ part ∧
        (part = [] ∨ ∃ next, locks[n]? = some next ∧ part <+: next.2 ∧
          part.length < next.2.length) ∧
        (part ≠ [] → c.progress = none →
          c.lifecycle = .closed ∧ ∀ later, (c.run later).written = c.written) ∧
        (c.lifecycle = .live → c.progress = none →
          c.written.length = c.metrics.bytesWritten ∧ n = c.metrics.requestsSent) := by
  intro c past calls locks
  obtain ⟨standing, outbound, fifo⟩ := runOutbound s events
  refine ⟨queuedEncodes s events, (List.sublist_append_left _ _).trans fifo.1, ?_⟩
  obtain ⟨n, part, within, written, cut, unfinished, counted⟩ := outbound.parts
  refine ⟨n, part, within, written, cut, fun some idle => ?_, counted⟩
  have closed : c.outward.lifecycle = .closed := unfinished some idle
  have down : c.outward.IsDown := by
    rcases standing with up | down
    · have live : c.outward.lifecycle = .live := up.lifecycle
      rw [closed] at live
      contradiction
    · exact down
  exact ⟨closed, fun later => (downForGood down later).2⟩

end Connection
end ServiceMux
