import ServiceMux.Proofs.Callers
import ServiceMux.Proofs.Standing
import ServiceMux.Proofs.Waiters
/-! The ways in which a connection goes down. Main statements: each is of one of a few kinds
(`Falls`), and there are no others (`fallsIff`); what lies in the inbox of a caller who has it in
hand stays, or it is the loss of the connection if the caller was still waiting (`Falls.leaves`);
whoever stands in line still does, but the call that took the connection down (`Falls.line`). -/
namespace ServiceMux
variable {μ : Type}

namespace Connection

/-! Up or down. -/

section Standing
variable {c : Connection μ}

theorem upOf (h : c.outward.Standing) (live : c.lifecycle = .live) : c.outward.IsUp := by
  rcases h with up | down
  · exact up
  · have closed : c.lifecycle = .closed := down.lifecycle
    rw [live] at closed
    contradiction

theorem downOf (h : c.outward.Standing) (closed : c.isLive = false) : c.outward.IsDown := by
  rcases h with up | down
  · have live : c.lifecycle = .live := up.lifecycle
    unfold isLive at closed
    rw [live] at closed
    contradiction
  · exact down

theorem upWhileListening (h : c.outward.Standing) (up : c.shutdown = false) : c.outward.IsUp := by
  rcases h with up' | down
  · exact up'
  · have told : c.shutdown = true := down.shutdown
    rw [up] at told
    contradiction

theorem downIsNotLive (h : c.outward.IsDown) : c.isLive = false := by
  have closed : c.lifecycle = .closed := h.lifecycle
  unfold isLive
  rw [closed]
  rfl

theorem closeIsDown (c : Connection μ) (reason : CloseReason) :
    (c.close reason).isLive = false := by
  cases live : c.isLive with
  | true =>
    rw [closeLive live]
    rfl
  | false => rwa [closeDown live]

end Standing

/-! Whose turn it is. -/

end Connection

def Event.caller? : Event μ → Option CallId
  | poll call _ _ | abandon call => some call
  | _ => none

namespace Connection

section Turn
variable {c : Connection μ} {call : CallId} {frame : List UInt8} {errand : Errand}
  {rest : List Turn} (apart : c.callers.Nodup) (first : c.line = .write call frame errand :: rest)
include apart first

theorem firstWaitsNot : c.waits.find? (·.call == call) = none := by
  refine List.find?_eq_none.mpr fun w member named => ?_
  unfold callers at apart
  rw [first] at apart
  refine (List.nodup_cons.mp apart).1 (List.mem_append_right _ (List.mem_map.mpr ⟨w, member, ?_⟩))
  exact beq_iff_eq.mp named

theorem pollFirst (now : Instant) (attempt : WriteAttempt) :
    c.poll call now attempt = c.takeTurn call frame errand now attempt := by
  have absent := firstWaitsNot apart first
  cases c.pollCases call now attempt with
  | waits found => simp [absent] at found
  | turn _ line comes =>
    cases line.symm.trans first
    exact comes
  | still _ behind => exact absurd rfl (behind (.write call frame errand) (by rw [first]; rfl))

theorem abandonFirst (busy : c.progress.isSome = true) : c.abandon call =
    (({ c with writeHalf := false }.close .writeAbandoned).stepAside).letGo errand := by
  have absent := firstWaitsNot apart first
  cases c.abandonCases call with
  | waits found => simp [absent] at found
  | busy _ line _ comes =>
    cases line.symm.trans first
    exact comes
  | idle _ _ idle => simp [idle] at busy
  | behind _ behind => exact absurd rfl (behind (.write call frame errand) (by rw [first]; rfl))

end Turn

theorem upTurn {c : Connection μ} (up : c.outward.IsUp) (call : CallId) (frame : List UInt8)
    (errand : Errand) (now : Instant) (attempt : WriteAttempt) :
    c.takeTurn call frame errand now attempt =
      c.writeOn call frame errand (c.progress.getD 0) now attempt := by
  have live : c.isLive = true := beq_iff_eq.mpr up.lifecycle
  have half : c.writeHalf = true := up.writeHalf
  cases c.turnCases call frame errand now attempt with
  | late _ shut => simp [live, half] at shut
  | writes _ comes => exact comes

theorem writeOnStays {c : Connection μ} {attempt : WriteAttempt}
    (stays : attempt.disconnects = false)
    (writes : ∀ taken cause, attempt.result ≠ .failed taken cause)
    (call : CallId) (frame : List UInt8) (errand : Errand) (before : Nat) (now : Instant) :
    (c.writeOn call frame errand before now attempt).1.lifecycle = c.lifecycle := by
  have met : c.interfered attempt = c := if_neg (by simp [stays])
  cases c.writeCases call frame errand before now attempt with
  | late _ comes => exact comes ▸ congrArg Outward.lifecycle (letGoOutward _ errand)
  | stalled _ _ comes =>
    rw [comes, met]
    rfl
  | complete _ _ comes =>
    rw [comes, met]
    exact congrArg Outward.lifecycle (sentOutward _ call errand now)
  | failed _ result => exact absurd result (writes _ _)

/-! What is left when it is down. -/

/-- No call in line has the inbox of this registration in hand. -/
def Returned (c : Connection μ) (r : Registration) : Prop :=
  ∀ turn ∈ c.line, turn.inbox? ≠ some r

/-- A connection that went down, all but the call whose event it was being told. -/
structure Leaves (c b d : Connection μ) (own : Option CallId) : Prop where
  down : d.isLive = false
  inboxes : ∀ i ∈ b.inboxes, c.Returned i.registration →
    i.fillAll b.table.awaited (.error .connectionLost) ∈ d.inboxes
  line : ∀ turn ∈ c.line, turn.call? ≠ own → turn ∈ d.line
  progress : own = none → d.progress = c.progress ∧ c.line <+: d.line

theorem closeLeaves {b c d : Connection μ} {own : Option CallId} (live : d.isLive = true)
    (apart : b.Apart) (inboxes : d.inboxes = b.inboxes) (table : d.table = b.table)
    (line : ∀ turn ∈ c.line, turn.call? ≠ own → turn ∈ d.line)
    (progress : own = none → d.progress = c.progress ∧ c.line <+: d.line) (reason : CloseReason) :
    Leaves c b (d.close reason) own := by
  refine ⟨closeIsDown d reason, fun i inside _ => ?_, fun turn inside other => ?_, fun none => ?_⟩
  · have filled := closeInboxes live (by unfold Apart; rw [inboxes]; exact apart) reason
    rw [inboxes, table] at filled
    exact filled.mem_iff.mpr (List.mem_map_of_mem inside)
  · rw [closeLine]
    exact line turn inside other
  · rw [closeLine, closeLive live]
    exact progress none

theorem closeKeeps {b c d : Connection μ} {own : Option CallId} (live : d.isLive = true)
    (apart : b.Apart) (inboxes : d.inboxes = b.inboxes) (table : d.table = b.table)
    (line : d.line = c.line) (progress : d.progress = c.progress) (reason : CloseReason) :
    Leaves c b (d.close reason) own := by
  refine closeLeaves live apart inboxes table ?_ ?_ reason
  · rw [line]
    exact fun _ inside _ => inside
  · rw [line]
    exact fun _ => ⟨progress, List.prefix_refl _⟩

namespace Leaves
variable {b c d : Connection μ} {own : Option CallId} (h : Leaves c b d own)
include h

theorem leave : Leaves c b d.leave own := by
  unfold Connection.leave
  split
  · exact ⟨h.down, h.inboxes, h.line, h.progress⟩
  · refine ⟨h.down, h.inboxes, fun turn inside other => ?_, fun none => ?_⟩
    · exact List.mem_append_left _ (h.line turn inside other)
    · exact ⟨(h.progress none).1, (h.progress none).2.trans (List.prefix_append _ _)⟩

theorem dropInbox (coherent : c.Coherent) (older : ∀ i ∈ b.inboxes, i ∈ c.inboxes) {turn : Turn}
    (inLine : turn ∈ c.line) {r : Registration} (has : turn.inbox? = some r) :
    Leaves c b (d.dropInbox r) own := by
  refine ⟨h.down, fun i inside returned => ?_, h.line, h.progress⟩
  refine List.mem_filter.mpr ⟨h.inboxes i inside returned, ?_⟩
  rw [Inbox.fillAllRegistration, bne_iff_ne]
  intro same
  have mine := coherent.owned.inLine r (List.mem_filterMap.mpr ⟨turn, inLine, has⟩)
  obtain ⟨j, within, rfl⟩ := List.mem_map.mp mine
  rw [coherent.matched.sameTicket (older i inside) within same] at returned
  exact returned turn inLine has

section Own
variable (coherent : c.Coherent) (older : ∀ i ∈ b.inboxes, i ∈ c.inboxes) {call : CallId}
  {frame : List UInt8} {errand : Errand} {rest : List Turn}
  (first : c.line = .write call frame errand :: rest)
include coherent older first

theorem letGo : Leaves c b (d.letGo errand) own := by
  unfold Connection.letGo
  cases has : errand.inbox? with
  | none => exact h
  | some r =>
    have mine : Turn.write call frame errand ∈ c.line := by simp [first]
    exact h.dropInbox coherent older mine has

theorem takeBack : Leaves c b (d.takeBack errand) own := by
  unfold Connection.takeBack
  cases has : errand.inbox? with
  | none =>
    dsimp only
    split <;> exact ⟨h.down, h.inboxes, h.line, h.progress⟩
  | some r =>
    have mine : Turn.write call frame errand ∈ c.line := by simp [first]
    exact h.dropInbox coherent older mine has

end Own

theorem pass {call : CallId} {frame : List UInt8} {errand : Errand} {rest : List Turn}
    (first : d.line = .write call frame errand :: rest) (mine : own = some call) :
    Leaves c b d.stepAside own := by
  refine ⟨h.down, h.inboxes, fun turn inside other => ?_, fun none => ?_⟩
  · have stays := h.line turn inside other
    rw [first] at stays
    rcases List.mem_cons.mp stays with rfl | later
    · exact absurd mine.symm other
    · show turn ∈ d.line.tail
      rwa [first]
  · rw [mine] at none
    contradiction

end Leaves

variable [Message μ]

/-- An event takes the connection down for this reason, and finds what is outstanding and what lies
in the inboxes like this at that moment. -/
inductive Falls (c : Connection μ) : Event μ → CloseReason → Connection μ → Prop where
  | released (last : c.references = 1) : Falls c .release .released c
  | forced : Falls c .disconnect .forced c
  /-- While the first in line hands its frame over. -/
  | interfered {call : CallId} {frame : List UInt8} {errand : Errand} {rest : List Turn}
      (first : c.line = .write call frame errand :: rest) (now : Instant) {attempt : WriteAttempt}
      (disconnects : attempt.disconnects = true) : Falls c (.poll call now attempt) .forced c
  | writeFailed {call : CallId} {frame : List UInt8} {errand : Errand} {rest : List Turn}
      (first : c.line = .write call frame errand :: rest) (now : Instant) {attempt : WriteAttempt}
      (alone : attempt.disconnects = false) {taken : Nat} {cause : StreamError}
      (failed : attempt.result = .failed taken cause) :
      Falls c (.poll call now attempt) .writeFailed (c.takeBack errand)
  | writeAbandoned {call : CallId} {frame : List UInt8} {errand : Errand} {rest : List Turn}
      (first : c.line = .write call frame errand :: rest) (busy : c.progress.isSome = true) :
      Falls c (.abandon call) .writeAbandoned c
  | endOfStream {buffer : List UInt8} (reading : c.reader = .reading buffer) :
      Falls c (.read (some (.bytes []))) .endOfStream c
  | readFailed {buffer : List UInt8} (reading : c.reader = .reading buffer)
      (cause : StreamError) : Falls c (.read (some (.failed cause))) .readFailed c
  /-- After the frames in front of the corruption were routed. -/
  | corrupted {buffer data : List UInt8} (reading : c.reader = .reading buffer) (full : data ≠ [])
      {cause : WireError}
      (fault : (Frame.splitAll c.config.maxFrameSize (buffer ++ data)).fault = some cause) :
      Falls c (.read (some (.bytes data))) .corrupted
        ((Frame.splitAll c.config.maxFrameSize (buffer ++ data)).frames.foldl route
          (c.countRead data.length))

/-! Nothing else takes it down. -/

theorem pollStays {c : Connection μ} (up : c.outward.IsUp) {call : CallId} {now : Instant}
    {attempt : WriteAttempt} (stays : ∀ reason b, ¬c.Falls (.poll call now attempt) reason b) :
    (c.poll call now attempt).1.lifecycle = c.lifecycle := by
  cases c.pollCases call now attempt with
  | waits _ comes => exact comes ▸ congrArg Outward.lifecycle (pollWaitOutward c _ now)
  | turn _ first comes =>
    have alone : attempt.disconnects = false := by
      by_contra disconnects
      exact stays _ _ (.interfered first now (by simpa using disconnects))
    rw [comes, upTurn up]
    exact writeOnStays alone
      (fun _ _ failed => stays _ _ (.writeFailed first now alone failed)) ..
  | still _ _ comes => rw [comes]

theorem abandonStays {c : Connection μ} {call : CallId}
    (stays : ∀ reason b, ¬c.Falls (.abandon call) reason b) :
    (c.abandon call).lifecycle = c.lifecycle := by
  cases c.abandonCases call with
  | @waits w _ comes => exact comes ▸ congrArg Outward.lifecycle (endWaitOutward c w)
  | busy _ first busy => exact absurd (.writeAbandoned first busy) (stays _ _)
  | idle _ _ _ comes => exact comes ▸ congrArg Outward.lifecycle (letGoOutward _ _)
  | behind _ _ comes =>
    rw [comes]
    cases c.leaveLineCases call with
    | write _ leaves => exact leaves ▸ congrArg Outward.lifecycle (letGoOutward _ _)
    | still _ leaves => rw [leaves]

theorem readStays {c : Connection μ} (up : c.outward.IsUp) {arrival : Option Arrival}
    (stays : ∀ reason b, ¬c.Falls (.read arrival) reason b) :
    (c.pollReader arrival).lifecycle = c.lifecycle := by
  cases c.readerCases arrival with
  | stopped _ comes | behind _ _ comes | idle _ _ _ comes => rw [comes]
  | passes _ _ comes =>
    rw [comes]
    rfl
  | leaves _ told =>
    have listening : c.shutdown = false := up.shutdown
    simp [listening] at told
  | ended reading _ stops =>
    subst stops
    exact absurd (.endOfStream reading) (stays _ _)
  | feeds reading _ brings full comes =>
    subst brings
    rw [comes, feedStages]
    dsimp only
    split
    · rw [routeAllShape]
      rfl
    · rename_i cause fault
      exact absurd (.corrupted reading full fault) (stays _ _)
  | fails reading _ fault =>
    subst fault
    exact absurd (.readFailed reading _) (stays _ _)

theorem stepStays {c : Connection μ} (up : c.outward.IsUp) {e : Event μ}
    (stays : ∀ reason b, ¬c.Falls e reason b) : (c.step e).lifecycle = c.lifecycle := by
  cases e with
  | submit call purpose request =>
    dsimp only [step]
    split
    · rcases submitCases c call purpose request with
        ⟨_, refused, _⟩ | ⟨_, d, id, errand, taken, stands⟩
      · rw [refused]
      · have same := congrArg Outward.lifecycle taken.outward
        rw [stands]
        exact standInLineState call _
          ((congrArg Outward.lifecycle (takeBackOutward d errand)).trans same) fun _ => same
    · rfl
  | poll call now attempt => exact pollStays up stays
  | abandon call => exact abandonStays stays
  | wait call r within now =>
    dsimp only [step]
    split <;> rfl
  | dropReply r =>
    dsimp only [step]
    split <;> rfl
  | interrupt r => exact congrArg Outward.lifecycle (interruptOutward c r)
  | read arrival => exact readStays up stays
  | attach =>
    obtain ⟨n, same⟩ := attachStep c
    rw [same]
  | release =>
    dsimp only [step, release]
    split
    · rfl
    · rw [if_neg fun last => stays _ _ (.released last)]
  | disconnect => exact absurd .forced (stays _ _)
  | allocate =>
    obtain ⟨n, same⟩ := allocateStep c
    rw [same]
  | setReplyTimeout timeout => rfl
  | setJob job => rfl
  | setAttributes reply => rfl
  | addPrototype discriminator prototype => rfl
  | clearPrototypes => rfl

omit [Message μ] in
theorem interferedLeaves {c : Connection μ} (up : c.outward.IsUp) (coherent : c.Coherent)
    {call : CallId} {frame : List UInt8} {errand : Errand} {rest : List Turn}
    (first : c.line = .write call frame errand :: rest) (before : Nat) (now : Instant)
    {attempt : WriteAttempt} (disconnects : attempt.disconnects = true) :
    Leaves c c (c.writeOn call frame errand before now attempt).1 (some call) := by
  have told : c.shutdown = false := up.shutdown
  have live : c.isLive = true := beq_iff_eq.mpr up.lifecycle
  have gone : Leaves c c (c.interfered attempt) (some call) := by
    rw [interfered, if_pos disconnects]
    exact closeKeeps live coherent.apart rfl rfl rfl rfl .forced
  have line := (interferedLine c attempt).trans first
  have older : ∀ i ∈ c.inboxes, i ∈ c.inboxes := fun _ inside => inside
  -- The close comes first, and then what the transport answers.
  cases c.writeCases call frame errand before now attempt with
  | late down => simp [told] at down
  | stalled _ _ comes => exact comes ▸ ⟨gone.down, gone.inboxes, gone.line, nofun⟩
  | complete _ _ comes =>
    have passed := gone.pass line rfl
    rw [comes]
    cases errand <;> exact ⟨passed.down, passed.inboxes, passed.line, nofun⟩
  | failed _ _ comes =>
    rw [comes]
    generalize c.interfered attempt = d at gone line
    have back := gone.takeBack coherent older first
    have line' : (d.takeBack errand).line = .write call frame errand :: rest :=
      (congrArg Outward.line (takeBackOutward d errand)).trans line
    have passed := back.pass line' rfl
    refine Leaves.letGo ?_ coherent older first
    rw [writeTorn, closeDown]
    · exact ⟨passed.down, passed.inboxes, passed.line, nofun⟩
    · exact passed.down

omit [Message μ] in
theorem takeBackInboxes (c : Connection μ) (errand : Errand) :
    (c.takeBack errand).inboxes.Sublist c.inboxes := by
  cases errand <;> first | exact List.filter_sublist | exact .refl _

omit [Message μ] in
theorem failedLeaves {c : Connection μ} (up : c.outward.IsUp) (coherent : c.Coherent)
    {call : CallId} {frame : List UInt8} {errand : Errand} {rest : List Turn}
    (first : c.line = .write call frame errand :: rest) (before : Nat) (now : Instant)
    {attempt : WriteAttempt} (alone : attempt.disconnects = false) {taken : Nat}
    {cause : StreamError} (failed : attempt.result = .failed taken cause) :
    Leaves c (c.takeBack errand) (c.writeOn call frame errand before now attempt).1
      (some call) := by
  have told : c.shutdown = false := up.shutdown
  have same := takeBackOutward c errand
  have live : (c.takeBack errand).isLive = true := beq_iff_eq.mpr (by
    exact (congrArg Outward.lifecycle same).trans up.lifecycle)
  have line : (c.takeBack errand).line = .write call frame errand :: rest :=
    (congrArg Outward.line same).trans first
  have older := takeBackInboxes c errand
  have apart : (c.takeBack errand).Apart := coherent.apart.sublist (older.map _)
  have met : c.interfered attempt = c := if_neg (by simp [alone])
  -- The entry goes before the close, which so does not tell its own caller.
  cases c.writeCases call frame errand before now attempt with
  | late down => simp [told] at down
  | stalled _ result | complete _ result => simp [failed] at result
  | failed _ _ comes =>
    rw [comes, met]
    refine Leaves.letGo ?_ coherent (fun _ inside => older.subset inside) first
    refine closeLeaves ?_ apart ?_ ?_ ?_ (nofun : some call = none → _) .writeFailed
    · exact live
    · rfl
    · rfl
    · intro turn inside other
      rw [first] at inside
      rcases List.mem_cons.mp inside with rfl | later
      · exact absurd rfl other
      · show turn ∈ (c.takeBack errand).line.tail
        rwa [line]

theorem corruptedLeaves {c : Connection μ} (live : c.isLive = true) (told : c.shutdown = false)
    (coherent : c.Coherent) {buffer data : List UInt8} (reading : c.reader = .reading buffer)
    (full : data ≠ []) {cause : WireError}
    (fault : (Frame.splitAll c.config.maxFrameSize (buffer ++ data)).fault = some cause) :
    Leaves c ((Frame.splitAll c.config.maxFrameSize (buffer ++ data)).frames.foldl route
      (c.countRead data.length)) (c.step (.read (some (.bytes data)))) none := by
  have counted : (c.countRead data.length).Coherent := ⟨coherent.matched, coherent.owned⟩
  have routed := counted.routeAll (Frame.splitAll c.config.maxFrameSize (buffer ++ data)).frames
  have shape := routeAllShape (c.countRead data.length)
    (Frame.splitAll c.config.maxFrameSize (buffer ++ data)).frames
  have fed : c.step (.read (some (.bytes data))) = c.feed buffer data := by
    dsimp only [step, pollReader]
    rw [reading, told]
    cases data with
    | nil => contradiction
    | cons head tail => rfl
  rw [fed, feedStages]
  dsimp only
  rw [fault]
  dsimp only
  generalize List.foldl (route (μ := μ)) _ _ = d at routed shape ⊢
  refine (closeKeeps (c := c) (d := { d.warn (.framingLost cause) with
    metrics := d.metrics.countFault }) ?_ routed.apart rfl rfl ?_ ?_ .corrupted).leave
  · rw [shape]
    exact live
  · rw [shape]
    rfl
  · rw [shape]
    rfl

theorem Falls.leaves {c b : Connection μ} {e : Event μ} {reason : CloseReason}
    (falls : c.Falls e reason b) (up : c.outward.IsUp) (coherent : c.Coherent)
    (apart : c.callers.Nodup) : Leaves c b (c.step e) e.caller? := by
  have live : c.isLive = true := beq_iff_eq.mpr up.lifecycle
  have told : c.shutdown = false := up.shutdown
  cases falls with
  | released last =>
    dsimp only [step, release]
    rw [if_neg (by simp [last]), if_pos last]
    exact closeKeeps (c := c) (d := { c with references := c.references - 1 }) live coherent.apart
      rfl rfl rfl rfl .released
  | forced => exact closeKeeps live coherent.apart rfl rfl rfl rfl .forced
  | interfered first now disconnects =>
    dsimp only [step]
    rw [pollFirst apart first, upTurn up]
    exact interferedLeaves up coherent first _ now disconnects
  | writeFailed first now alone failed =>
    dsimp only [step]
    rw [pollFirst apart first, upTurn up]
    exact failedLeaves up coherent first _ now alone failed
  | @writeAbandoned call frame errand rest first busy =>
    dsimp only [step]
    rw [abandonFirst apart first busy]
    have gone : Leaves c c ({ c with writeHalf := false }.close .writeAbandoned) (some call) :=
      closeKeeps (c := c) (d := { c with writeHalf := false }) live coherent.apart rfl rfl rfl rfl
        .writeAbandoned
    have passed := gone.pass ((closeLine _ _).trans first) rfl
    exact passed.letGo coherent (fun _ inside => inside) first
  | endOfStream reading =>
    dsimp only [step, pollReader]
    rw [reading, told]
    exact (closeKeeps live coherent.apart rfl rfl rfl rfl .endOfStream).leave
  | readFailed reading cause =>
    dsimp only [step, pollReader]
    rw [reading, told]
    exact (closeKeeps (c := c) (d := c.warn (.readFailed cause)) live coherent.apart rfl rfl rfl rfl
      .readFailed).leave
  | corrupted reading full fault => exact corruptedLeaves live told coherent reading full fault

theorem fallsIff (s : Setting μ) (events : List (Event μ))
    (live : (s.start.run events).lifecycle = .live) (e : Event μ) :
    ((s.start.run events).step e).lifecycle = .closed ↔
      ∃ reason b, (s.start.run events).Falls e reason b := by
  have up := upOf (runStanding s events) live
  constructor
  · intro closed
    by_contra none
    have stays := stepStays up fun reason b falls => none ⟨reason, b, falls⟩
    rw [closed, live] at stays
    contradiction
  · rintro ⟨reason, b, falls⟩
    have left := falls.leaves up (runCoherent s events) (runCallers s events)
    have standing := Outward.Standing.move (runStanding s events) (stepMoves _ e)
    exact (downOf standing left.down).lifecycle

end Connection
end ServiceMux
