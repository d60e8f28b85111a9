import ServiceMux.Proofs.Callers
import ServiceMux.Proofs.Handles
import ServiceMux.Proofs.Inert
import ServiceMux.Proofs.Provenance
/-! What is put into the inbox of a pending reply. Main statement: with each step it stays as it is,
or it was empty and a frame under its id, its interruption or the loss of the connection fills it,
or it goes with whoever had it in hand (`stepMeets`). -/
namespace ServiceMux
variable {μ : Type}

namespace Connection
variable {b c d : Connection μ} {r : Registration}

/-! What is put into it. -/

/-- One empty inbox is filled: another, or that of the registration. -/
theorem fillInboxOf (h : c.Apart) (knows : c.Knows r) {other : Registration}
    {result : Except ServerError (Reply μ)} (waits : Inbox.mk other none ∈ c.inboxes)
    (same : d.inboxes.Perm (c.inboxes.map (Inbox.fill other.ticket result))) :
    (other.ticket ≠ r.ticket ∧ d.inboxOf r = c.inboxOf r) ∨
      (other = r ∧ c.inboxOf r = some ⟨r, none⟩ ∧ d.inboxOf r = some ⟨r, some result⟩) := by
  have filled := inboxOfMap (r := r) h (fun _ => Inbox.fillRegistration) same
  by_cases ticket : other.ticket = r.ticket
  · obtain rfl : other = r := knows _ waits ticket
    have mine : c.inboxOf other = some ⟨other, none⟩ := h.inboxOf.mpr ⟨waits, rfl⟩
    refine .inr ⟨rfl, mine, filled.trans ?_⟩
    rw [mine]
    simp [Inbox.fill]
  · refine .inl ⟨ticket, filled.trans ?_⟩
    cases found : c.inboxOf r with
    | none => rfl
    | some i =>
      have named := (h.inboxOf.mp found).2
      have apart : i.registration.ticket ≠ other.ticket :=
        fun same => ticket (same.symm.trans named)
      simp [Inbox.fill, apart]

theorem emptyEntry (h : c.Coherent) (empty : c.inboxOf r = some ⟨r, none⟩) :
    c.table.get? r.correlationId = some ⟨r.ticket, .awaited⟩ :=
  h.matched.distinct.get.mpr (h.matched.waiting _ (h.apart.inboxOf.mp empty).1 rfl)

/-- The books of a connection at any time. -/
structure Sound (c : Connection μ) : Prop where
  coherent : c.Coherent
  callers : c.callers.Nodup
  faults : c.inward.Faults
  standing : c.outward.Standing
  inert : c.lifecycle = .closed → c.inward.Inert

theorem Sound.liveOf (h : c.Sound) {e : UInt32 × Slot} (member : e ∈ c.table.entries) :
    c.lifecycle = .live := by
  rcases h.standing with up | down
  · exact up.lifecycle
  · have none : c.table.entries = [] := (h.inert down.lifecycle).empty
    rw [none] at member
    contradiction

variable [Message μ]

/-- With this event, this result is put into the empty inbox of a registration. -/
inductive Puts (c : Connection μ) (r : Registration) :
    Event μ → Except ServerError (Reply μ) → Prop where
  | frame {e : Event μ} {found : Connection μ} {frame : Frame}
      (comes : .routed found frame ∈ c.occurrences e)
      (answers : frame.header.correlationId = r.correlationId)
      (held : found.table.holds r = true) : Puts c r e (found.verdict frame)
  | interrupt (told : (c.interrupt r).2 = true) :
      Puts c r (.interrupt r) (.error (.interrupted r.correlationId))
  /-- The connection is taken down, and no frame under the id comes in before. -/
  | lost {e : Event μ} (live : c.lifecycle = .live) (down : (c.step e).lifecycle = .closed)
      (quiet : NoFrameFor r (c.occurrences e)) : Puts c r e (.error .connectionLost)

/-- What an event makes of the inbox of a registration. -/
inductive Meets (c : Connection μ) (r : Registration) (e : Event μ) : Prop where
  | kept (same : (c.step e).inboxOf r = c.inboxOf r)
      (quiet : c.inboxOf r = some ⟨r, none⟩ → NoFrameFor r (c.occurrences e))
  | told {result : Except ServerError (Reply μ)} (empty : c.inboxOf r = some ⟨r, none⟩)
      (puts : c.Puts r e result) (filled : (c.step e).inboxOf r = some ⟨r, some result⟩)
  | gone (mine : c.Parts r e) (none : (c.step e).inboxOf r = none)

theorem interruptMeets (h : c.Coherent) (knows : c.Knows r) (other : Registration) :
    c.Meets r (.interrupt other) := by
  have silent : NoFrameFor r (c.occurrences (.interrupt other)) :=
    fun _ _ member => absurd member List.not_mem_nil
  cases c.interruptCases other with
  | missed _ comes | dropped _ comes =>
    exact .kept (inboxOfAs (congrArg (·.1.inboxes) comes)) fun _ => silent
  | awaited entry comes =>
    have waits := h.matched.served _ (PendingTable.memOfGet entry) rfl
    have told : (c.interrupt other).2 = true := congrArg Prod.snd comes
    have after : (c.step (.interrupt other)).inboxes.Perm (c.inboxes.map
        (Inbox.fill other.ticket (.error (.interrupted other.correlationId)))) := by
      dsimp only [step]
      rw [comes]
      exact deliverPerm _ _ (c := c.withdraw other) h.apart
    rcases fillInboxOf h.apart knows waits after with ⟨_, same⟩ | ⟨rfl, empty, filled⟩
    · exact .kept same fun _ => silent
    · exact .told empty (.interrupt told) filled

/-! Frames. -/

/-- A frame that comes in and finds an empty inbox fills it, if it is under its id. -/
inductive Reads (c : Connection μ) (r : Registration) (past : List (Occurrence μ))
    (d : Connection μ) : Prop where
  | apart (quiet : c.inboxOf r = some ⟨r, none⟩ → NoFrameFor r past)
      (same : d.inboxOf r = c.inboxOf r)
  | answered {found : Connection μ} {frame : Frame} (comes : .routed found frame ∈ past)
      (answers : frame.header.correlationId = r.correlationId)
      (held : found.table.holds r = true) (empty : c.inboxOf r = some ⟨r, none⟩)
      (filled : d.inboxOf r = some ⟨r, some (found.verdict frame)⟩)

theorem Reads.knows {past : List (Occurrence μ)} (h : Reads c r past d) (apart : c.Apart)
    (after : d.Apart) (knows : c.Knows r) : d.Knows r := by
  intro i inside ticket
  have found := after.inboxOf.mpr ⟨inside, ticket⟩
  cases h with
  | apart _ same =>
    rw [same] at found
    exact knows i (apart.inboxOf.mp found).1 ticket
  | answered _ _ _ _ filled =>
    rw [filled] at found
    cases found
    rfl

theorem routeReads (h : c.Coherent) (knows : c.Knows r) (frame : Frame) :
    Reads c r [.routed c frame] (c.route frame) := by
  have quiet (other : frame.header.correlationId ≠ r.correlationId) :
      NoFrameFor r [.routed c frame] := fun _ _ member => by
    cases List.mem_singleton.mp member
    exact other
  have inboxes : (c.route frame).inboxes =
      c.answered frame.header.correlationId (c.verdict frame) := by rw [routeEq]
  by_cases held : ∃ ticket,
      c.table.get? frame.header.correlationId = some ⟨ticket, .awaited⟩
  · obtain ⟨ticket, entry⟩ := held
    have waits := h.matched.served _ (PendingTable.memOfGet entry) rfl
    have after := deliverPerm ticket (c.verdict frame) h.apart
    have same : c.answered frame.header.correlationId (c.verdict frame) =
        (c.deliver ticket (c.verdict frame)).1.inboxes := by simp only [answered, entry]
    rw [← same, ← inboxes] at after
    rcases fillInboxOf h.apart knows waits after with ⟨other, kept⟩ | ⟨rfl, empty, filled⟩
    · refine .apart (fun empty => quiet fun id => other ?_) kept
      rw [id, emptyEntry h empty] at entry
      cases entry
      rfl
    · exact .answered List.mem_cons_self rfl (PendingTable.cancelOwn entry).1 empty filled
  · refine .apart (fun empty => quiet fun id => held ⟨r.ticket, ?_⟩) (inboxOfAs ?_)
    · rw [id]
      exact emptyEntry h empty
    · rw [inboxes]
      unfold answered
      split
      · exact absurd ⟨_, ‹_›⟩ held
      · rfl

theorem routeAllReads (h : c.Coherent) (knows : c.Knows r) (frames : List Frame) :
    Reads c r (c.routings frames) (frames.foldl route c) := by
  -- On the frames: once one has filled the inbox, it is not empty for those that follow.
  induction frames generalizing c with
  | nil => exact .apart (fun _ _ _ member => absurd member List.not_mem_nil) rfl
  | cons frame rest ih =>
    have first := routeReads h knows frame
    have later := ih (h.route frame) (first.knows h.apart (h.route frame).apart knows)
    rw [routings, List.foldl_cons]
    cases first with
    | apart quiet same =>
      cases later with
      | apart quiet' same' =>
        refine .apart (fun empty found other member => ?_) (same'.trans same)
        rcases List.mem_cons.mp member with now | then'
        · cases now
          exact quiet empty _ _ List.mem_cons_self
        · exact quiet' (same.trans empty) found other then'
      | answered comes answers held empty filled =>
        exact .answered (List.mem_cons_of_mem _ comes) answers held (same.symm.trans empty) filled
    | answered comes answers held empty filled =>
      cases List.mem_singleton.mp comes
      cases later with
      | apart _ same => exact .answered List.mem_cons_self answers held empty (same.trans filled)
      | answered _ _ _ empty' =>
        rw [filled] at empty'
        cases empty'

theorem feedReads (h : c.Coherent) (knows : c.Knows r) (buffer data : List UInt8) :
    ∃ b, Reads c r ((c.countRead data.length).routings
        (Frame.splitAll c.config.maxFrameSize (buffer ++ data)).frames) b ∧
      Fares False r b (c.feed buffer data) := by
  have counted : (c.countRead data.length).Coherent := ⟨h.matched, h.owned⟩
  have reads := routeAllReads (r := r) counted knows
    (Frame.splitAll c.config.maxFrameSize (buffer ++ data)).frames
  have after := counted.routeAll (Frame.splitAll c.config.maxFrameSize (buffer ++ data)).frames
  rw [feedStages]
  dsimp only
  generalize List.foldl (route (μ := μ)) _ _ = b at reads after ⊢
  have same : (c.countRead data.length).inboxOf r = c.inboxOf r := rfl
  refine ⟨b, ?_, ?_⟩
  · cases reads with
    | apart quiet kept => exact .apart quiet kept
    | answered comes answers held empty filled => exact .answered comes answers held empty filled
  · split
    · exact .same rfl
    · rename_i cause _
      have told : Coherent { b.warn (.framingLost cause) with metrics := b.metrics.countFault } :=
        ⟨after.matched, after.owned⟩
      have down : Fares False r b (b.lost cause) := (closeFares told .corrupted).trans (.same rfl)
      exact Fares.trans (.same (leaveInboxes _)) down

/-- After the frames of a read, the connection may go down. -/
theorem readReads (h : c.Coherent) (knows : c.Knows r) (arrival : Option Arrival) :
    ∃ b, Reads c r (c.occurrences (.read arrival)) b ∧
      Fares False r b (c.step (.read arrival)) := by
  rcases readCases c arrival with ⟨buffer, data, reader, up, full, rfl⟩ | ⟨silent, -, -⟩
  · rw [readOccurrences reader up full, readStep reader up full]
    exact feedReads h knows buffer data
  · have nothing : NoFrameFor r (c.occurrences (.read arrival)) := by
      rw [silent]
      exact fun _ _ member => absurd member List.not_mem_nil
    refine ⟨c, .apart (fun _ => nothing) rfl, ?_⟩
    have leaves {d : Connection μ} (fares : Fares False r c d) : Fares False r c d.leave :=
      Fares.trans (.same (leaveInboxes d)) fares
    dsimp only [step]
    cases c.readerCases arrival with
    | stopped _ comes | behind _ _ comes | idle _ _ _ comes | passes _ _ comes =>
      rw [comes]
      exact .same rfl
    | leaves _ _ comes =>
      rw [comes]
      exact leaves (.same rfl)
    | ended _ _ _ comes => exact comes ▸ leaves (closeFares h .endOfStream)
    | @feeds buffer data reader up brings full comes =>
      subst brings
      obtain ⟨b, reads, fares⟩ := feedReads h knows buffer data
      rw [← readOccurrences reader up full, silent] at reads
      rw [comes]
      cases reads with
      | apart _ same => exact fares.trans (.kept same)
      | answered comes => contradiction
    | @fails _ _ _ cause _ comes =>
      have warned : (c.warn (.readFailed cause)).Coherent := ⟨h.matched, h.owned⟩
      exact comes ▸ leaves ((closeFares warned .readFailed).trans (.same rfl))

/-! One step. -/

theorem Sound.step (h : c.Sound) (e : Event μ) : (c.step e).Sound :=
  ⟨h.coherent.step e, stepCallers h.callers e, (stepActs c e).keep Inward.Act.faults h.faults,
    Outward.Standing.move h.standing (stepMoves c e),
    @Inward.Acts.keep _ (fun i => i.lifecycle = .closed → i.Inert) Inward.Act.downIsInert _ _ _
      (stepActs c e) h.inert⟩

theorem runSound (s : Setting μ) (events : List (Event μ)) : (s.start.run events).Sound :=
  ⟨runCoherent s events, runCallers s events, runFaults s events, runStanding s events,
    runDownIsInert s events⟩

/-- An empty inbox is told of the loss of the connection as it goes down. -/
theorem Fares.meets (h : c.Sound) {e : Event μ} (fares : Fares (c.Parts r e) r c (c.step e))
    (knows : c.Knows r) (quiet : c.inboxOf r = some ⟨r, none⟩ → NoFrameFor r (c.occurrences e)) :
    c.Meets r e := by
  cases fares with
  | kept same => exact .kept same quiet
  | gone mine none => exact .gone mine none
  | lost told =>
    cases found : c.inboxOf r with
    | none =>
      rw [found] at told
      exact .kept (told.trans found.symm) quiet
    | some i =>
      obtain ⟨inside, ticket⟩ := h.coherent.apart.inboxOf.mp found
      obtain ⟨s, result⟩ := i
      obtain rfl : s = r := knows _ inside ticket
      rw [found] at told
      cases result with
      | some x => exact .kept (told.trans found.symm) quiet
      | none =>
        have filled := ((h.step e).coherent.apart.inboxOf.mp told).1
        have live := h.liveOf (h.coherent.matched.waiting _ inside rfl)
        have down : (c.step e).lifecycle = .closed := by
          rcases (h.step e).faults _ filled _ rfl with ⟨_, same⟩ | ⟨_, same⟩ | ⟨_, down⟩
          · cases same
          · cases same
          · exact down
        exact .told found (.lost live down (quiet found)) told

theorem readMeets (h : c.Sound) (knows : c.Knows r) (arrival : Option Arrival) :
    c.Meets r (.read arrival) := by
  obtain ⟨b, reads, fares⟩ := readReads h.coherent knows arrival
  cases reads with
  | apart quiet same =>
    exact ((fares.trans (.kept same)).mono False.elim).meets h knows quiet
  | answered comes answers held empty filled =>
    refine .told empty (.frame comes answers held) ?_
    cases fares with
    | kept same => exact same.trans filled
    | lost told => exact told.trans (by rw [filled]; rfl)
    | gone mine => exact mine.elim

theorem passMeets (h : c.Sound) (knows : c.Knows r) {e : Event μ}
    (begins : ∀ call purpose request, e ≠ .submit call purpose request) : c.Meets r e := by
  by_cases reads : ∃ arrival, e = .read arrival
  · obtain ⟨arrival, rfl⟩ := reads
    exact readMeets h knows arrival
  by_cases interrupts : ∃ other, e = .interrupt other
  · obtain ⟨other, rfl⟩ := interrupts
    exact interruptMeets h.coherent knows other
  have others : ∀ arrival, e ≠ .read arrival := fun arrival same => reads ⟨arrival, same⟩
  refine (stepFares h.coherent knows begins others
    fun other same => interrupts ⟨other, same⟩).meets h knows fun _ => ?_
  exact noFrame (stepPasses c begins others).routed r

theorem stepMeets (h : c.Sound) (knows : c.Knows r) (issued : r.ticket < c.table.nextTicket)
    (e : Event μ) : c.Meets r e := by
  by_cases begins : ∃ call purpose request, e = .submit call purpose request
  · obtain ⟨call, purpose, request, rfl⟩ := begins
    refine Fares.meets h ?_ knows fun _ => noFrame (c.submitSilent call purpose request) r
    dsimp only [step]
    split
    · exact submitFares issued call purpose request
    · exact .same rfl
  · exact passMeets h knows fun call purpose request same => begins ⟨call, purpose, request, same⟩

end Connection
end ServiceMux
