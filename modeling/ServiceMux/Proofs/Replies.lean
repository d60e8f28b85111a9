import ServiceMux.Proofs.Tracking
/-! Who gets which reply. Main statements: after every run, a reply in an inbox was brought by the
first frame under its id since it was registered, and a frame resolves at most the one registration
that holds its id (`neverMisrouted`). -/
namespace ServiceMux
variable {μ : Type}

namespace Connection

/-- Routing the frame puts a result into the empty inbox of the registration. -/
def Resolves [Message μ] (found : Connection μ) (frame : Frame) (r : Registration) : Prop :=
  Inbox.mk r none ∈ found.inboxes ∧ ∃ result, Inbox.mk r (some result) ∈ (found.route frame).inboxes

/-- Only a wait brings its caller a reply, and the one in its own inbox. -/
theorem pollBrings {c : Connection μ} (h : c.Coherent) {call : CallId} {now : Instant}
    {attempt : WriteAttempt} {reply : Reply μ}
    (brings : (c.poll call now attempt).2 = some (.ok (.reply reply))) :
    ∃ w ∈ c.waits, w.call = call ∧
      ∃ i ∈ c.inboxes, i.registration = w.registration ∧ i.result = some (.ok reply) := by
  cases c.pollCases call now attempt with
  | @waits w found comes =>
    have member := List.mem_of_find?_eq_some found
    obtain ⟨i, inside, same, own⟩ := h.waitHas member
    refine ⟨w, member, by simpa using List.find?_some found, i, inside, same, ?_⟩
    rw [comes] at brings
    cases c.waitCases w now with
    | @told result filled comes =>
      rw [own] at filled
      rw [comes] at brings
      cases result with
      | error e => cases brings
      | ok answer =>
        cases brings
        exact filled
    | lost _ _ comes | late _ _ _ _ comes | still _ _ _ comes =>
      rw [comes] at brings
      cases brings
  | @turn _ errand _ _ _ comes =>
    rw [comes] at brings
    have answers := turnAnswers brings
    cases errand <;> cases answers
  | still _ _ comes =>
    rw [comes] at brings
    contradiction

variable [Message μ]

theorem runFollowed {c : Connection μ} {past : List (Occurrence μ)} {bytes : List UInt8}
    (h : Followed past bytes c) (events : List (Event μ)) :
    Followed (past ++ c.history events) (bytes ++ c.inbound events) (c.run events) := by
  unfold run
  induction events generalizing c past bytes with
  | nil => simpa [history, inbound] using h
  | cons e rest ih =>
    have next := ih (h.step e)
    rwa [List.append_assoc, List.append_assoc] at next

theorem runFollows (s : Setting μ) (events : List (Event μ)) :
    Followed (s.start.history events) (s.start.inbound events) (s.start.run events) := by
  have none : Frame.splitAll s.start.config.maxFrameSize [] = ⟨[], none, []⟩ :=
    Frame.splitAllPart rfl
  have start : Followed [] [] s.start := by
    refine ⟨by rw [none]; rfl, fun buffer reading => ?_⟩
    cases reading
    rw [none]
    exact ⟨rfl, rfl⟩
  exact runFollowed start events

theorem occurrencesCoherent {c found : Connection μ} (h : c.Coherent) {e : Event μ}
    {frame : Frame} (member : .routed found frame ∈ c.occurrences e) :
    found.Coherent ∧ found.service = c.service := by
  refine occurrencesKeep (fun d => d.Coherent ∧ d.service = c.service) ?_
    (fun _ => ⟨⟨h.matched, h.owned⟩, rfl⟩) member
  intro d head ⟨coherent, service⟩
  exact ⟨coherent.route head, service.symm ▸ by rw [routeEq]⟩

theorem routedCoherent (s : Setting μ) (events : List (Event μ)) {found : Connection μ}
    {frame : Frame} (member : .routed found frame ∈ s.start.history events) :
    found.Coherent ∧ found.service = s.service := by
  have all := afterHistory (c := s.start) (fun past c => c.Coherent ∧
      c.service = s.service ∧ ∀ found frame, .routed found frame ∈ past →
        found.Coherent ∧ found.service = s.service)
    ⟨startCoherent s, rfl, fun _ _ member => by contradiction⟩
    (fun past c e ⟨coherent, service, old⟩ => by
      refine ⟨coherent.step e, (stepFixed c e).1.trans service, fun found frame member => ?_⟩
      rcases List.mem_append.mp member with before | now
      · exact old found frame before
      · rw [← service]
        exact occurrencesCoherent coherent now) events
  exact all.2.2 found frame member

theorem resolvesHolder {found : Connection μ} {frame : Frame} {r : Registration}
    (h : found.Coherent) (resolves : found.Resolves frame r) :
    r.correlationId = frame.header.correlationId ∧
      found.table.get? frame.header.correlationId = some ⟨r.ticket, .awaited⟩ := by
  obtain ⟨waiting, result, filled⟩ := resolves
  rcases routeMembers h frame filled with old | ⟨_, entry, id, _⟩
  · have same := h.matched.sameTicket waiting old rfl
    cases same
  · exact ⟨id, entry⟩

theorem unresolvedStays {found : Connection μ} {frame : Frame} (h : found.Coherent) {i : Inbox μ}
    (member : i ∈ found.inboxes) (unresolved : ¬ found.Resolves frame i.registration) :
    i ∈ (found.route frame).inboxes := by
  unfold Resolves at unresolved
  rw [routeEq] at unresolved ⊢
  dsimp only [answered] at unresolved ⊢
  split at unresolved
  · rename_i ticket held
    have filled := deliverPerm ticket (found.verdict frame) h.apart
    have inside := filled.mem_iff.mpr
      (List.mem_map_of_mem (f := Inbox.fill ticket (found.verdict frame)) member)
    by_cases target : i.registration.ticket = ticket ∧ i.result = none
    · obtain ⟨r, result⟩ := i
      obtain ⟨rfl, rfl⟩ := target
      refine absurd ⟨member, found.verdict frame, ?_⟩ unresolved
      simpa [Inbox.fill] using inside
    · rw [Inbox.fill, if_neg target] at inside
      exact inside
  · exact member

theorem neverMisrouted (s : Setting μ) (events : List (Event μ)) :
    let c := s.start.run events
    let past := s.start.history events
    past.filterMap Occurrence.routed? =
        (Frame.splitAll s.config.maxFrameSize (s.start.inbound events)).frames ∧
      ((past.filterMap Occurrence.registered?).map Registration.ticket).Nodup ∧
      (∀ i ∈ c.inboxes, ∀ reply, i.result = some (.ok reply) →
        Answered past i.registration reply) ∧
      (∀ call now attempt reply, (c.poll call now attempt).2 = some (.ok (.reply reply)) →
        ∃ w ∈ c.waits, w.call = call ∧
          ∃ i ∈ c.inboxes, i.registration = w.registration ∧ i.result = some (.ok reply)) ∧
      ∀ found frame, .routed found frame ∈ past →
        found.service = s.service ∧
          (∀ r, found.Resolves frame r → r.correlationId = frame.header.correlationId ∧
            found.table.get? frame.header.correlationId = some ⟨r.ticket, .awaited⟩) ∧
          (∀ r r', found.Resolves frame r → found.Resolves frame r' → r = r') ∧
          ∀ i ∈ found.inboxes, ¬ found.Resolves frame i.registration →
            i ∈ (found.route frame).inboxes := by
  intro c past
  have coherent : c.Coherent := runCoherent s events
  have known := afterHistory (c := s.start)
    (fun past c => c.Coherent ∧ Tracked past c.inboxes ∧ Numbered past c)
    ⟨startCoherent s, ⟨nofun, nofun⟩, ⟨.nil, nofun⟩⟩
    (fun past c e ⟨coherent, tracked, numbered⟩ =>
      ⟨coherent.step e, tracked.step coherent e, numbered.step e⟩) events
  refine ⟨?_, known.2.2.once, known.2.1.answered, fun call now attempt reply => pollBrings coherent,
    fun found frame member => ?_⟩
  · have followed := (runFollows s events).frames
    rw [(runFixed s.start events).2] at followed
    exact followed
  · obtain ⟨books, service⟩ := routedCoherent s events member
    refine ⟨service, fun r => resolvesHolder books, fun r r' left right => ?_,
      fun i inside => unresolvedStays books inside⟩
    obtain ⟨id, entry⟩ := resolvesHolder books left
    obtain ⟨id', entry'⟩ := resolvesHolder books right
    rw [entry] at entry'
    -- Both have the frame's id, and the ticket of the one entry under it.
    have tickets : r.ticket = r'.ticket := by simpa using entry'
    exact congrArg₂ Registration.mk (id.trans id'.symm) tickets

end Connection
end ServiceMux
