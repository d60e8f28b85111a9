import ServiceMux.Proofs.Outward
import ServiceMux.Proofs.Reading
import ServiceMux.Proofs.Waiters
/-! What is known of replies, frames and registrations from what has happened. Main statements: each
reply in an inbox was brought by the first frame under its id since it was registered
(`Tracked.step`), the frames that were routed are those of the bytes that came in
(`Followed.step`), and no ticket is handed out twice (`Numbered.step`). -/
namespace ServiceMux
variable {μ : Type}

/-- None of the frames that were routed has the id of the registration. -/
def NoFrameFor (r : Registration) (past : List (Occurrence μ)) : Prop :=
  ∀ found frame, .routed found frame ∈ past → frame.header.correlationId ≠ r.correlationId

/-- A frame, as the connection reads it when it comes in, is this reply to the registration. -/
structure Brings [Message μ] (found : Connection μ) (frame : Frame) (r : Registration)
    (reply : Reply μ) : Prop where
  id : frame.header.correlationId = r.correlationId
  accepted : found.service.accepts frame.header.serverId = true
  decoded : ∃ p message, found.prototypeFor frame.header.requestReplyId = some p ∧
    p.decodeBody frame.header frame.body = .ok message ∧
    reply = ⟨frame.header, Message.stamp r.correlationId message⟩

/-- No frame has come in under the id of the registration since it was made. -/
def Unanswered (past : List (Occurrence μ)) (r : Registration) : Prop :=
  ∃ before between, past = before ++ .registered r .awaited :: between ∧ NoFrameFor r between

/-- The first frame under the id of the registration since it was made brought the reply. -/
def Answered [Message μ] (past : List (Occurrence μ)) (r : Registration) (reply : Reply μ) : Prop :=
  ∃ before between found frame after,
    past = before ++ .registered r .awaited :: between ++ .routed found frame :: after ∧
      NoFrameFor r between ∧ Brings found frame r reply

section Past
variable {past more : List (Occurrence μ)} {r : Registration}

theorem Unanswered.later (h : Unanswered past r) (quiet : NoFrameFor r more) :
    Unanswered (past ++ more) r := by
  obtain ⟨before, between, rfl, none⟩ := h
  refine ⟨before, between ++ more, by simp, fun found frame member => ?_⟩
  rcases List.mem_append.mp member with old | new
  · exact none found frame old
  · exact quiet found frame new

theorem notRouted (silent : past.filterMap Occurrence.routed? = []) {found : Connection μ}
    {frame : Frame} : .routed found frame ∉ past := by
  intro member
  have absent := List.filterMap_eq_nil_iff.mp silent _ member
  contradiction

theorem noFrame (silent : past.filterMap Occurrence.routed? = []) (r : Registration) :
    NoFrameFor r past :=
  fun _ _ member => absurd member (notRouted silent)

theorem Unanswered.begin (past : List (Occurrence μ)) (r : Registration) :
    Unanswered (past ++ [.registered r .awaited]) r :=
  ⟨past, [], rfl, fun _ _ member => by contradiction⟩

variable [Message μ] {reply : Reply μ}

theorem Answered.later (h : Answered past r reply) (more : List (Occurrence μ)) :
    Answered (past ++ more) r reply := by
  obtain ⟨before, between, found, frame, after, rfl, quiet, brings⟩ := h
  exact ⟨before, between, found, frame, after ++ more, by simp, quiet, brings⟩

theorem Unanswered.answer (h : Unanswered past r) {found : Connection μ} {frame : Frame}
    (brings : Brings found frame r reply) : Answered (past ++ [.routed found frame]) r reply := by
  obtain ⟨before, between, rfl, quiet⟩ := h
  exact ⟨before, between, found, frame, [], rfl, quiet, brings⟩

end Past

namespace Connection
variable [Message μ] {c d found : Connection μ} {frame : Frame}

theorem routingsKeep (holds : Connection μ → Prop)
    (routed : ∀ d frame, holds d → holds (d.route frame)) (now : holds c) {frames : List Frame}
    (member : .routed found frame ∈ c.routings frames) : holds found := by
  induction frames generalizing c with
  | nil => contradiction
  | cons head rest ih =>
    rcases List.mem_cons.mp member with same | later
    · cases same
      exact now
    · exact ih (routed c head now) later

/-- What a frame finds, also between the frames of one read. -/
theorem occurrencesKeep (holds : Connection μ → Prop)
    (routed : ∀ d frame, holds d → holds (d.route frame)) (counted : ∀ n, holds (c.countRead n))
    {e : Event μ} (member : .routed found frame ∈ c.occurrences e) : holds found := by
  rcases c.eventCases e with ⟨call, purpose, request, rfl⟩ | ⟨arrival, rfl⟩ | passes
  · exact absurd member (notRouted (c.submitSilent call purpose request))
  · rcases readCases c arrival with ⟨buffer, data, reader, up, full, rfl⟩ | ⟨silent, _, _⟩
    · rw [readOccurrences reader up full] at member
      exact routingsKeep holds routed (counted data.length) member
    · rw [silent] at member
      contradiction
  · exact absurd member (notRouted passes.routed)

theorem verdictBrings {reply : Reply μ} (h : found.verdict frame = .ok reply) {r : Registration}
    (id : r.correlationId = frame.header.correlationId) : Brings found frame r reply := by
  unfold verdict at h
  dsimp only at h
  split at h
  · rename_i accepted
    split at h
    · contradiction
    · rename_i p known
      unfold Prototype.decode at h
      split at h
      · rename_i decoded
        split at decoded
        · rename_i message read
          cases decoded
          cases h
          exact ⟨id.symm, accepted, p, message, known, read, by rw [id]; rfl⟩
        · contradiction
      · contradiction
  · contradiction

/-- An inbox after a frame: as before, or it was empty, its entry was under the frame's id, and it
has the verdict on the frame. -/
theorem routeMembers (h : found.Coherent) (frame : Frame) {i : Inbox μ}
    (member : i ∈ (found.route frame).inboxes) :
    i ∈ found.inboxes ∨ Inbox.mk i.registration none ∈ found.inboxes ∧
      found.table.get? frame.header.correlationId = some ⟨i.registration.ticket, .awaited⟩ ∧
      i.registration.correlationId = frame.header.correlationId ∧
      i.result = some (found.verdict frame) := by
  rw [routeEq] at member
  dsimp only at member
  unfold answered at member
  split at member
  · rename_i ticket held
    have filled := (deliverPerm ticket (found.verdict frame) h.apart).mem_iff.mp member
    obtain ⟨⟨r, result⟩, inside, rfl⟩ := List.mem_map.mp filled
    by_cases target : r.ticket = ticket ∧ result = none
    · obtain ⟨rfl, rfl⟩ := target
      have entry := h.matched.waiting _ inside rfl
      have same := h.matched.distinct.sameTicket entry (PendingTable.memOfGet held) rfl
      refine .inr ⟨by simpa using inside, by simpa using held, ?_, by simp [Inbox.fill]⟩
      simpa using congrArg Prod.fst same
    · refine .inl ?_
      simp only [Inbox.fill, if_neg target]
      exact inside
  · exact .inl member

theorem stillWaiting (h : found.Coherent) (frame : Frame) {i : Inbox μ}
    (member : i ∈ (found.route frame).inboxes) (empty : i.result = none) :
    frame.header.correlationId ≠ i.registration.correlationId := by
  have entry := (h.route frame).matched.waiting i member empty
  rw [routeEq] at entry
  exact (PendingTable.memTake.mp entry).2.symm

end Connection

/-! What is known of each inbox from what has happened. -/

structure Tracked [Message μ] (past : List (Occurrence μ)) (inboxes : List (Inbox μ)) : Prop where
  waiting : ∀ i ∈ inboxes, i.result = none → Unanswered past i.registration
  answered : ∀ i ∈ inboxes, ∀ reply, i.result = some (.ok reply) →
    Answered past i.registration reply

namespace Tracked
variable [Message μ] {past more : List (Occurrence μ)} {inboxes inboxes' : List (Inbox μ)}

theorem inherit (h : Tracked past inboxes)
    (members : ∀ i ∈ inboxes', i ∈ inboxes ∨ ∃ e, i.result = some (.error e)) :
    Tracked past inboxes' := by
  refine ⟨fun i member empty => ?_, fun i member reply found => ?_⟩
  · rcases members i member with old | ⟨e, failed⟩
    · exact h.waiting i old empty
    · rw [empty] at failed
      contradiction
  · rcases members i member with old | ⟨e, failed⟩
    · exact h.answered i old reply found
    · rw [found] at failed
      cases failed

theorem later (h : Tracked past inboxes) (silent : more.filterMap Occurrence.routed? = []) :
    Tracked (past ++ more) inboxes :=
  ⟨fun i member empty => (h.waiting i member empty).later (noFrame silent _),
    fun i member reply found => (h.answered i member reply found).later more⟩

theorem route {found : Connection μ} (h : Tracked past found.inboxes) (coherent : found.Coherent)
    (frame : Frame) : Tracked (past ++ [.routed found frame]) (found.route frame).inboxes := by
  refine ⟨fun i member empty => ?_, fun i member reply known => ?_⟩
  · have other := Connection.stillWaiting coherent frame member empty
    rcases Connection.routeMembers coherent frame member with old | ⟨_, _, _, filled⟩
    · refine (h.waiting i old empty).later fun found' frame' inside => ?_
      cases List.mem_singleton.mp inside
      exact other
    · rw [empty] at filled
      contradiction
  · rcases Connection.routeMembers coherent frame member with old | ⟨waited, _, id, filled⟩
    · exact (h.answered i old reply known).later _
    · rw [known, Option.some.injEq] at filled
      exact (h.waiting _ waited rfl).answer (Connection.verdictBrings filled.symm id)

theorem routeAll {c : Connection μ} (h : Tracked past c.inboxes) (coherent : c.Coherent)
    (frames : List Frame) :
    Tracked (past ++ c.routings frames) (frames.foldl Connection.route c).inboxes := by
  induction frames generalizing past c with
  | nil => simpa [Connection.routings] using h
  | cons frame rest ih =>
    have next := ih (h.route coherent frame) (coherent.route frame)
    rwa [List.append_assoc] at next

theorem adds {c d : Connection μ} {purpose : Purpose} (h : Tracked past c.inboxes)
    (adds : d.Adds c purpose) : Tracked (past ++ c.registrations purpose) d.inboxes := by
  have old := h.later (Connection.registrationsSilent (fun _ _ => rfl) c purpose)
  refine ⟨fun i member empty => ?_, fun i member reply known => ?_⟩
  · rcases adds.inboxes i member with inside | ⟨e, failed⟩ | ⟨r, rfl, one⟩
    · exact old.waiting i inside empty
    · rw [empty] at failed
      contradiction
    · rw [one]
      exact .begin past r
  · rcases adds.inboxes i member with inside | ⟨e, failed⟩ | ⟨r, rfl, one⟩
    · exact old.answered i inside reply known
    · rw [known] at failed
      cases failed
    · contradiction

end Tracked

theorem Tracked.step [Message μ] {past : List (Occurrence μ)} {c : Connection μ}
    (h : Tracked past c.inboxes) (coherent : c.Coherent) (e : Event μ) :
    Tracked (past ++ c.occurrences e) (c.step e).inboxes := by
  rcases c.eventCases e with ⟨call, purpose, request, rfl⟩ | ⟨arrival, rfl⟩ | passes
  · dsimp only [Connection.occurrences, Connection.step]
    split
    · rw [← List.append_assoc]
      exact (h.adds (Connection.submitInherits c call purpose request)).later
        (Connection.queuesSilent c (fun _ _ => rfl) call purpose request)
    · simpa using h
  · rcases Connection.readCases c arrival with
      ⟨buffer, data, reader, up, full, rfl⟩ | ⟨silent, _, idles⟩
    · rw [Connection.readStep reader up full, Connection.readOccurrences reader up full]
      have counted : (c.countRead data.length).Coherent := ⟨coherent.matched, coherent.owned⟩
      have start : Tracked past (c.countRead data.length).inboxes := h
      exact (start.routeAll counted _).inherit (Connection.feedLeaves c buffer data).1
    · rw [silent, List.append_nil]
      exact h.inherit idles.inboxes
  · exact (h.later passes.routed).inherit passes.inherits.inboxes

/-! The frames that were routed, and the registrations that were made. -/

/-- The frames so far are those of the bytes so far, and the reader keeps what is behind them. -/
structure Followed (past : List (Occurrence μ)) (bytes : List UInt8) (c : Connection μ) : Prop where
  frames : past.filterMap Occurrence.routed? = (Frame.splitAll c.config.maxFrameSize bytes).frames
  reading : ∀ buffer, c.reader = .reading buffer →
    (Frame.splitAll c.config.maxFrameSize bytes).fault = none ∧
      (Frame.splitAll c.config.maxFrameSize bytes).rest = buffer

/-- No two registrations so far have one ticket. -/
structure Numbered (past : List (Occurrence μ)) (c : Connection μ) : Prop where
  once : ((past.filterMap Occurrence.registered?).map Registration.ticket).Nodup
  issued : ∀ r ∈ past.filterMap Occurrence.registered?, r.ticket < c.table.nextTicket

section Idle
variable {past more : List (Occurrence μ)} {bytes : List UInt8} {c d : Connection μ}

theorem Followed.idle (h : Followed past bytes c) (config : d.config = c.config)
    (reader : d.reader = c.reader ∨ ∀ buffer, d.reader ≠ .reading buffer)
    (silent : more.filterMap Occurrence.routed? = []) : Followed (past ++ more) bytes d := by
  refine ⟨?_, fun buffer reading => ?_⟩
  · rw [List.filterMap_append, silent, List.append_nil, config]
    exact h.frames
  · rw [config]
    rcases reader with same | deaf
    · exact h.reading buffer (same.symm.trans reading)
    · exact absurd reading (deaf buffer)

theorem Numbered.idle (h : Numbered past c) (tickets : c.table.nextTicket ≤ d.table.nextTicket)
    (silent : more.filterMap Occurrence.registered? = []) : Numbered (past ++ more) d := by
  refine ⟨?_, fun r member => ?_⟩
  · rw [List.filterMap_append, silent, List.append_nil]
    exact h.once
  · rw [List.filterMap_append, silent, List.append_nil] at member
    exact Nat.lt_of_lt_of_le (h.issued r member) tickets

theorem Numbered.adds {purpose : Purpose} (h : Numbered past c) (adds : d.Adds c purpose) :
    Numbered (past ++ c.registrations purpose) d := by
  rcases c.registrationsCases purpose with none | ⟨r, fate, one⟩
  · have tickets := adds.tickets
    rw [none] at tickets
    exact h.idle tickets (by rw [none]; rfl)
  · have ticket := adds.next r fate (by simp [one])
    have later := adds.tickets
    rw [one, List.length_singleton] at later
    have added : (past ++ [Occurrence.registered r fate]).filterMap Occurrence.registered? =
        past.filterMap Occurrence.registered? ++ [r] := by
      rw [List.filterMap_append]
      rfl
    rw [one]
    refine ⟨?_, fun other member => ?_⟩
    · rw [added, List.map_append, List.nodup_append]
      refine ⟨h.once, by simp, ?_⟩
      rintro _ member _ new rfl
      obtain ⟨other, inside, same⟩ := List.mem_map.mp member
      have := h.issued other inside
      simp only [List.map_cons, List.map_nil, List.mem_singleton] at new
      omega
    · rw [added] at member
      rcases List.mem_append.mp member with old | new
      · have := h.issued other old
        omega
      · rw [List.mem_singleton.mp new]
        omega

end Idle

section Step
variable [Message μ] {past : List (Occurrence μ)} {bytes : List UInt8} {c : Connection μ}

theorem Followed.step (h : Followed past bytes c) (e : Event μ) :
    Followed (past ++ c.occurrences e) (bytes ++ c.received e) (c.step e) := by
  have config := (Connection.stepFixed c e).2
  rcases c.eventCases e with ⟨call, purpose, request, rfl⟩ | ⟨arrival, rfl⟩ | passes
  · have reader : (c.step (.submit call purpose request)).reader = c.reader := by
      dsimp only [Connection.step]
      split
      · exact (Connection.submitInherits c call purpose request).reader
      · rfl
    have nothing : c.received (.submit call purpose request) = [] := rfl
    rw [nothing, List.append_nil]
    exact h.idle config (.inl reader) (Connection.submitSilent c call purpose request)
  · rcases Connection.readCases c arrival with
      ⟨buffer, data, reader, up, full, rfl⟩ | ⟨silent, nothing, idles⟩
    · have received : c.received (.read (some (.bytes data))) = data := by
        dsimp only [Connection.received]
        rw [reader, up]
        rfl
      obtain ⟨followed, rest⟩ := h.reading buffer reader
      have whole := Frame.splitAllAppend c.config.maxFrameSize bytes data
      unfold Frame.Run.andThen at whole
      rw [followed] at whole
      dsimp only at whole
      rw [rest] at whole
      rw [received]
      refine ⟨?_, fun kept reading => ?_⟩
      · rw [List.filterMap_append, Connection.readRouted reader up full, config, whole, h.frames]
      · rw [Connection.readStep reader up full] at reading
        obtain ⟨fine, behind⟩ := (Connection.feedLeaves c buffer data).2.2 kept reading
        rw [config, whole]
        exact ⟨fine, behind.symm⟩
    · rw [silent, nothing, List.append_nil bytes]
      exact h.idle config idles.reader rfl
  · rw [passes.received, List.append_nil]
    exact h.idle config (.inl passes.inherits.reader) passes.routed

theorem Numbered.step (h : Numbered past c) (e : Event μ) :
    Numbered (past ++ c.occurrences e) (c.step e) := by
  rcases c.eventCases e with ⟨call, purpose, request, rfl⟩ | ⟨arrival, rfl⟩ | passes
  · dsimp only [Connection.occurrences, Connection.step]
    split
    · rw [← List.append_assoc]
      exact (h.adds (Connection.submitInherits c call purpose request)).idle (Nat.le_refl _)
        (Connection.queuesSilent c (fun _ _ => rfl) call purpose request)
    · simpa using h
  · rcases Connection.readCases c arrival with
      ⟨buffer, data, reader, up, full, rfl⟩ | ⟨silent, _, idles⟩
    · rw [Connection.readStep reader up full, Connection.readOccurrences reader up full]
      exact h.idle (Connection.feedLeaves c buffer data).2.1
        (Connection.routingsSilent _ (fun _ _ => rfl) _)
    · rw [silent]
      exact h.idle idles.tickets rfl
  · exact h.idle passes.inherits.tickets passes.registered

end Step
end ServiceMux
