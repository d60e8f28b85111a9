import Mathlib.Data.List.Forall2
import ServiceMux.Proofs.Enrolling
import ServiceMux.Proofs.Outbound
import ServiceMux.Proofs.Replies
/-! What becomes of the requests of a run. Main statements: a run makes no more registrations than it
has requests (`runRegisters`), and any two runs to one connection make as many (`registeredAlike`);
what was written is whole frames of its requests, in their order, and at most the beginning of one
more (`runWrites`); a reply that a call gets answers one of them (`replyAnswers`). -/
namespace ServiceMux
variable {μ : Type}

def Event.request? : Event μ → Option μ
  | submit _ _ request => some request
  | _ => none

theorem enrolledRegistrations (past : List (Occurrence μ)) :
    past.filterMap Occurrence.registered? = (past.filterMap Occurrence.enrolment?).map Prod.fst := by
  rw [List.map_filterMap]
  refine List.filterMap_congr fun occurrence _ => ?_
  cases occurrence <;> rfl

namespace Inward
variable {i j : Inward μ} {made new : List Enrolment}

theorem Act.tickets (act : Act i new j) : j.table.nextTicket = i.table.nextTicket + new.length := by
  cases act with
  | allocate ok =>
    obtain ⟨_, rfl⟩ := PendingTable.allocated ok
    rfl
  | register live ok =>
    obtain ⟨_, _, _, rfl⟩ := PendingTable.registered ok
    rfl
  | cancel r => exact i.table.cancelNextTicket r
  | interrupt => exact i.table.cancelNextTicket _
  | count => rfl
  | route up id => exact i.table.takeNextTicket id
  | close => rfl

theorem Acts.tickets (acts : Acts i made j) :
    j.table.nextTicket = i.table.nextTicket + made.length := by
  induction acts with
  | still => rfl
  | next _ act ih => rw [act.tickets, ih, List.length_append, Nat.add_assoc]

end Inward

def queuedIn (past : List (Occurrence μ)) : List Sending :=
  (past.filterMap Occurrence.mark?).filterMap Mark.queued?

theorem queuedInAppend (past more : List (Occurrence μ)) :
    queuedIn (past ++ more) = queuedIn past ++ queuedIn more := by
  unfold queuedIn
  rw [List.filterMap_append, List.filterMap_append]

theorem sublistForall₂Fewer {α β : Type} {r : α → β → Prop} {l fewer : List α} {m : List β}
    (h : List.SublistForall₂ r l m) (sub : fewer.Sublist l) : List.SublistForall₂ r fewer m := by
  induction h generalizing fewer with
  | nil =>
    rw [List.sublist_nil.mp sub]
    exact .nil
  | cons related _ ih =>
    cases sub with
    | cons _ sub => exact .cons_right (ih sub)
    | cons_cons _ sub => exact .cons related (ih sub)
  | cons_right _ ih => exact .cons_right (ih sub)

namespace Connection
variable [Message μ]

/-- The frame of a request on such a connection, whichever id it was stamped with. -/
def Frames (service : Service) (config : Config) (frame : List UInt8) (request : μ) : Prop :=
  ∃ id, Message.frame service.wireCode (Message.stamp id request) config.maxFrameSize = .ok frame

/-! Registrations. -/

theorem stepRegisters (c : Connection μ) (e : Event μ) :
    ((c.occurrences e).filterMap Occurrence.registered?).length ≤ e.request?.toList.length := by
  rcases c.eventCases e with ⟨call, purpose, request, rfl⟩ | ⟨arrival, rfl⟩ | passes
  · dsimp only [occurrences]
    split
    · rw [List.filterMap_append, queuesSilent c (fun _ _ => rfl), List.append_nil]
      rcases registrationsCases c purpose with none | ⟨r, fate, one⟩
      · simp [none]
      · rw [one]
        exact Nat.le_refl 1
    · exact Nat.zero_le _
  · have silent : (c.occurrences (.read arrival)).filterMap Occurrence.registered? = [] := by
      rcases readCases c arrival with ⟨buffer, data, reader, up, full, rfl⟩ | ⟨none, _⟩
      · rw [readOccurrences reader up full]
        exact routingsSilent _ (fun _ _ => rfl) _
      · rw [none]
        rfl
    rw [silent]
    exact Nat.zero_le _
  · rw [passes.registered]
    exact Nat.zero_le _

theorem runRegisters (c : Connection μ) (events : List (Event μ)) :
    ((c.history events).filterMap Occurrence.registered?).length ≤
      (events.filterMap Event.request?).length := by
  induction events generalizing c with
  | nil => exact Nat.le_refl 0
  | cons e rest ih =>
    have first := stepRegisters c e
    have later := ih (c.step e)
    rw [history, List.filterMap_append, List.length_append]
    cases asked : e.request? with
    | none =>
      rw [asked] at first
      rw [List.filterMap_cons_none asked]
      simp only [Option.toList_none, List.length_nil] at first
      omega
    | some request =>
      rw [asked] at first
      rw [List.filterMap_cons_some asked, List.length_cons]
      simp only [Option.toList_some, List.length_singleton] at first
      omega

theorem runTickets (c : Connection μ) (events : List (Event μ)) :
    (c.run events).table.nextTicket =
      c.table.nextTicket + ((c.history events).filterMap Occurrence.registered?).length := by
  refine afterHistory (fun past d => d.table.nextTicket =
    c.table.nextTicket + (past.filterMap Occurrence.registered?).length) rfl ?_ events
  intro past d e earlier
  have tickets := (stepActs d e).tickets
  have enrolled := congrArg List.length (enrolledRegistrations (d.occurrences e))
  rw [List.length_map] at enrolled
  rw [List.filterMap_append, List.length_append, enrolled]
  exact tickets.trans (by rw [show d.inward.table = d.table from rfl, earlier, Nat.add_assoc])

theorem registeredAlike {s s' : Setting μ} {events events' : List (Event μ)}
    (same : s.start.run events = s'.start.run events') :
    ((s.start.history events).filterMap Occurrence.registered?).length =
      ((s'.start.history events').filterMap Occurrence.registered?).length := by
  have left := runTickets s.start events
  have right := runTickets s'.start events'
  rw [same, right] at left
  exact (Nat.add_left_cancel (n := s.start.table.nextTicket) left).symm

/-! Frames. -/

theorem stepQueues (c : Connection μ) (e : Event μ) :
    queuedIn (c.occurrences e) = [] ∨ ∃ request sending, e.request? = some request ∧
      queuedIn (c.occurrences e) = [sending] ∧ Frames c.service c.config sending.2 request := by
  by_cases silent : queuedIn (c.occurrences e) = []
  · exact .inl silent
  obtain ⟨sending, more⟩ := List.exists_mem_of_ne_nil _ silent
  obtain ⟨mark, marked, isQueued⟩ := List.mem_filterMap.mp more
  obtain ⟨call, frame⟩ := sending
  obtain rfl : mark = .queued call frame := by
    cases mark <;> simp_all [Mark.queued?]
  obtain ⟨purpose, request, id, rfl, framed⟩ := queuedBySubmit marked
  refine .inr ⟨request, (call, frame), rfl, ?_, id, framed⟩
  unfold queuedIn at more ⊢
  dsimp only [occurrences] at more ⊢
  split at more
  · rename_i fresh
    rw [if_pos fresh]
    rw [queuesMarks] at more ⊢
    unfold beginning at more ⊢
    split at more
    · exact congrArg (· :: []) (List.mem_singleton.mp more).symm
    · contradiction
  · contradiction

theorem runQueues (c : Connection μ) (events : List (Event μ)) :
    List.SublistForall₂ (fun sending => Frames c.service c.config sending.2)
      (queuedIn (c.history events)) (events.filterMap Event.request?) := by
  induction events generalizing c with
  | nil => exact .nil
  | cons e rest ih =>
    have later := ih (c.step e)
    obtain ⟨service, config⟩ := stepFixed c e
    rw [service, config] at later
    rw [history, queuedInAppend]
    rcases stepQueues c e with none | ⟨request, sending, asked, one, framed⟩
    · rw [none, List.nil_append]
      cases asked : e.request? with
      | none => rwa [List.filterMap_cons_none asked]
      | some request =>
        rw [List.filterMap_cons_some asked]
        exact .cons_right later
    · rw [one, List.filterMap_cons_some asked]
      exact .cons framed later

theorem runWrites (s : Setting μ) (events : List (Event μ)) :
    ∃ frames, List.SublistForall₂ (Frames s.service s.config) frames
        (events.filterMap Event.request?) ∧
      (s.start.run events).written <+: frames.flatten := by
  obtain ⟨-, outbound, fifo⟩ := runOutbound s events
  refine ⟨_, List.sublistForall₂_map_left_iff.mpr ?_, outbound.begins⟩
  exact sublistForall₂Fewer (runQueues s.start events)
    ((List.sublist_append_left _ _).trans fifo.1)

/-! Replies. -/

/-- The reply has come to the registration that a call made with this request. -/
def Answers (s : Setting μ) (events : List (Event μ)) (request : μ) (reply : Reply μ) : Prop :=
  ∃ before call purpose after r, events = before ++ .submit call purpose request :: after ∧
    .registered r .awaited ∈ (s.start.run before).occurrences (.submit call purpose request) ∧
    Answered (s.start.history events) r reply

theorem historySplit {c : Connection μ} {events : List (Event μ)} {occurrence : Occurrence μ}
    (h : occurrence ∈ c.history events) :
    ∃ before e after, events = before ++ e :: after ∧
      occurrence ∈ (c.run before).occurrences e := by
  induction events generalizing c with
  | nil => contradiction
  | cons e rest ih =>
    rcases List.mem_append.mp h with now | later
    · exact ⟨[], e, rest, rfl, now⟩
    · obtain ⟨before, e', after, rfl, comes⟩ := ih later
      exact ⟨e :: before, e', after, rfl, comes⟩

theorem historyAppend (c : Connection μ) (events more : List (Event μ)) :
    c.history (events ++ more) = c.history events ++ (c.run events).history more := by
  induction events generalizing c with
  | nil => rfl
  | cons e rest ih =>
    rw [List.cons_append, history, ih, history, List.append_assoc]
    rfl

theorem Answers.later {s : Setting μ} {events : List (Event μ)} {request : μ} {reply : Reply μ}
    (h : Answers s events request reply) (more : List (Event μ)) :
    Answers s (events ++ more) request reply := by
  obtain ⟨before, call, purpose, after, r, rfl, made, answered⟩ := h
  refine ⟨before, call, purpose, after ++ more, r, by simp, made, ?_⟩
  rw [historyAppend]
  exact answered.later _

theorem replyAnswers (s : Setting μ) (events : List (Event μ)) {call : CallId} {now : Instant}
    {attempt : WriteAttempt} {reply : Reply μ}
    (brings : ((s.start.run events).poll call now attempt).2 = some (.ok (.reply reply))) :
    ∃ request ∈ events.filterMap Event.request?, Answers s events request reply := by
  obtain ⟨coherent, tracked⟩ := afterHistory (c := s.start)
    (fun past c => c.Coherent ∧ Tracked past c.inboxes) ⟨startCoherent s, ⟨nofun, nofun⟩⟩
    (fun past c e ⟨coherent, tracked⟩ => ⟨coherent.step e, tracked.step coherent e⟩) events
  obtain ⟨w, _, _, i, inside, _, filled⟩ := pollBrings coherent brings
  have made := runEnlisted s events inside
  obtain ⟨before, e, after, split, comes⟩ := historySplit made
  -- Only a request registers anything.
  have asks := stepRegisters (s.start.run before) e
  have one := List.length_pos_of_mem
    (List.mem_filterMap.mpr ⟨_, comes, rfl⟩ :
      i.registration ∈ ((s.start.run before).occurrences e).filterMap Occurrence.registered?)
  cases e with
  | submit call purpose request =>
    refine ⟨request, List.mem_filterMap.mpr ⟨.submit call purpose request, by simp [split], rfl⟩,
      before, call, purpose, after, i.registration, split, comes, tracked.answered i inside _ filled⟩
  | _ => exact absurd (Nat.lt_of_lt_of_le one asks) (Nat.lt_irrefl 0)

end Connection
end ServiceMux
