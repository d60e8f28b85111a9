import ServiceMux.Proofs.Filling
import ServiceMux.Proofs.Handing
import ServiceMux.Proofs.Notices
/-! What a call has on the table while it stands in line. Main statement: as long as the connection
is up, its entry stays there, unless a frame under its id comes in or it is interrupted
(`stepSpares`). -/
namespace ServiceMux
variable {μ : Type}

namespace PendingTable
variable {t t' : PendingTable} {r other : Registration}

theorem Distinct.cancelSpares (h : t.Distinct) (apart : other ≠ r) (held : t.holds r = true) :
    (t.cancel other).2.holds r = true := by
  obtain ⟨fate, entry⟩ := h.holds.mp held
  refine (h.cancel other).holds.mpr ⟨fate, h.memCancel.mpr ⟨entry, fun ⟨id, ticket⟩ => apart ?_⟩⟩
  exact congrArg₂ Registration.mk id.symm ticket.symm

theorem Distinct.takeSpares (h : t.Distinct) {id : UInt32} (apart : id ≠ r.correlationId)
    (held : t.holds r = true) : (t.take id).2.holds r = true := by
  obtain ⟨fate, entry⟩ := h.holds.mp held
  exact (h.take id).holds.mpr ⟨fate, memTake.mpr ⟨entry, apart.symm⟩⟩

theorem Distinct.registerSpares (h : t.Distinct) {fate : Fate}
    (ok : t.register fate = .ok (other, t')) (held : t.holds r = true) : t'.holds r = true := by
  obtain ⟨fate', entry⟩ := h.holds.mp held
  refine (h.register ok).holds.mpr ⟨fate', ?_⟩
  obtain ⟨_, _, _, rfl⟩ := registered ok
  exact List.mem_append_left _ entry

theorem Distinct.registerHolds (h : t.Distinct) {fate : Fate}
    (ok : t.register fate = .ok (r, t')) : t'.holds r = true := by
  refine (h.register ok).holds.mpr ⟨fate, ?_⟩
  obtain ⟨_, _, _, rfl⟩ := registered ok
  exact List.mem_append_right _ List.mem_cons_self

end PendingTable

namespace Owned
variable {next : Nat} {handles : List Registration} {line : List Turn} {waits : List Wait}
  {turn : Turn} {r : Registration}

theorem apartFromWaits (h : Owned next handles line waits) (stands : turn ∈ line)
    (found : turn.registration? = some r) {w : Wait} (waiting : w ∈ waits) :
    w.registration ≠ r := by
  obtain ⟨front, back, split⟩ := List.append_of_mem stands
  have apart := (h.leftLine split (List.Sublist.refl _) found).apart w.registration
    (List.mem_append_right _ (List.mem_map_of_mem waiting))
  exact fun same => apart (congrArg Registration.ticket same)

theorem apartInLine (h : Owned next handles line waits) (stands : turn ∈ line)
    (found : turn.registration? = some r) {other : Turn} (too : other ∈ line)
    (apart : other ≠ turn) : other.registration? ≠ some r := by
  obtain ⟨front, back, rfl⟩ := List.append_of_mem stands
  have unheld := h.leftLine rfl (List.Sublist.refl _) found
  intro same
  have inside : other ∈ front ++ back := by
    simpa [apart] using too
  exact unheld.apart r
    (List.mem_append_left _ (List.mem_filterMap.mpr ⟨other, inside, same⟩)) rfl

end Owned

namespace Connection
variable {c d : Connection μ} {r : Registration}

/-- The registration stays on the table, unless the connection goes down. -/
def Spares (r : Registration) (c d : Connection μ) : Prop :=
  c.table.holds r = true → d.isLive = true → d.table.holds r = true

theorem sameSpares (same : d.table = c.table) : Spares r c d := fun held _ => same ▸ held

theorem downSpares (down : d.isLive = false) : Spares r c d := by
  intro _ live
  rw [down] at live
  contradiction

theorem leaveTable (c : Connection μ) : c.leave.table = c.table := by
  unfold leave
  split <;> rfl

theorem leaveIsLive (c : Connection μ) : c.leave.isLive = c.isLive := by
  unfold leave
  split <;> rfl

theorem leftIsDown (c : Connection μ) (reason : CloseReason) :
    ¬(c.close reason).leave.isLive = true := by
  rw [leaveIsLive, closeIsDown]
  exact Bool.false_ne_true

section Calls
variable (distinct : c.table.Distinct)
include distinct

theorem withdrawSpares {other : Registration} (apart : other ≠ r) : Spares r c (c.withdraw other) :=
  fun held _ => distinct.cancelSpares apart held

theorem letGoSpares {errand : Errand} (apart : errand.registration? ≠ some r) :
    Spares r c (c.letGo errand) := by
  cases errand with
  | handOut other | await other =>
    exact withdrawSpares distinct fun same => apart (congrArg some same)
  | discard | numbered | plain => exact sameSpares rfl

theorem takeBackSpares {errand : Errand} (apart : errand.registration? ≠ some r) :
    Spares r c (c.takeBack errand) := by
  cases errand with
  | handOut other | await other | discard other =>
    exact withdrawSpares distinct fun same => apart (congrArg some same)
  | numbered | plain => exact sameSpares rfl

theorem pollWaitSpares {w : Wait} (apart : w.registration ≠ r) (now : Instant) :
    Spares r c (c.pollWait w now).1 :=
  pollWaitState c w now (withdrawSpares distinct apart) (sameSpares rfl)

theorem interruptSpares {other : Registration} (apart : other ≠ r) :
    Spares r c (c.interrupt other).1 := by
  cases c.interruptCases other with
  | missed _ comes => exact comes ▸ sameSpares rfl
  | dropped _ comes => exact comes ▸ withdrawSpares distinct apart
  | awaited _ comes =>
    rw [comes, deliverShape]
    exact withdrawSpares (c := c) distinct apart

omit distinct in
theorem writeOnSpares (up : c.shutdown = false) (call : CallId) (frame : List UInt8)
    (errand : Errand) (before : Nat) (now : Instant) (attempt : WriteAttempt) :
    Spares r c (c.writeOn call frame errand before now attempt).1 := by
  have met : (c.interfered attempt).isLive = true → (c.interfered attempt).table = c.table :=
    interferedState c attempt (fun _ => rfl) fun live => by
      rw [closeIsDown] at live
      contradiction
  cases c.writeCases call frame errand before now attempt with
  | late told => simp [up] at told
  | stalled _ _ comes =>
    rw [comes]
    exact fun held live => met live ▸ held
  | complete _ _ comes =>
    rw [comes]
    cases errand <;> exact fun held live => met live ▸ held
  | failed _ _ comes =>
    rw [comes]
    refine downSpares ?_
    unfold notSent
    rw [letGoIsLive]
    exact closeIsDown _ _

end Calls

section Standing
variable {turn : Turn} (h : c.Sound) (stands : turn ∈ c.line)
  (registered : turn.registration? = some r)
include h stands registered

theorem pollSpares (up : c.outward.IsUp) (call : CallId) (now : Instant)
    (attempt : WriteAttempt) : Spares r c (c.poll call now attempt).1 := by
  cases c.pollCases call now attempt with
  | waits found comes =>
    have waiting := List.mem_of_find?_eq_some found
    exact comes ▸ pollWaitSpares h.coherent.matched.distinct
      (h.coherent.owned.apartFromWaits stands registered waiting) now
  | turn _ _ comes =>
    rw [comes, upTurn up]
    exact writeOnSpares up.shutdown call _ _ _ now attempt
  | still _ _ comes => exact comes ▸ sameSpares rfl

theorem leaveLineSpares {call : CallId} (other : turn.call? ≠ some call) :
    Spares r c (c.leaveLine call) := by
  cases c.leaveLineCases call with
  | write found comes =>
    have apart := h.coherent.owned.apartInLine stands registered (List.mem_of_find?_eq_some found)
      (fun same => other (by rw [← same]; rfl))
    rw [comes]
    exact letGoSpares (c := { c with line := c.line.filter (·.call? != some call) })
      h.coherent.matched.distinct apart
  | still _ comes =>
    rw [comes]
    exact sameSpares rfl

theorem abandonSpares {call : CallId} (other : turn.call? ≠ some call) :
    Spares r c (c.abandon call) := by
  cases c.abandonCases call with
  | waits found comes =>
    have waiting := List.mem_of_find?_eq_some found
    exact comes ▸ withdrawSpares h.coherent.matched.distinct
      (h.coherent.owned.apartFromWaits stands registered waiting)
  | busy _ _ _ comes =>
    rw [comes]
    refine downSpares ?_
    rw [letGoIsLive]
    exact closeIsDown _ _
  | idle _ first _ comes =>
    have apart := h.coherent.owned.apartInLine stands registered (firstStands first)
      (fun same => other (by rw [← same]; rfl))
    rw [comes]
    exact letGoSpares (c := c.stepAside) h.coherent.matched.distinct apart
  | behind _ _ comes => exact comes ▸ leaveLineSpares h stands registered other

theorem dropReplySpares {other : Registration} (out : c.isHandedOut other = true) :
    Spares r c (c.dropInbox other) := by
  have inLine : r ∈ held c.line c.waits :=
    List.mem_append_left _ (List.mem_filterMap.mpr ⟨turn, stands, registered⟩)
  have apart := (h.coherent.handedOut out).2.apart r inLine
  exact withdrawSpares h.coherent.matched.distinct fun same =>
    apart (congrArg Registration.ticket same.symm)

end Standing

variable [Message μ]

theorem submitSpares (distinct : c.table.Distinct) (call : CallId) (purpose : Purpose)
    (request : μ) : Spares r c (c.submit call purpose request).connection := by
  intro held live
  obtain ⟨fate, entry⟩ := distinct.holds.mp held
  have old : r.ticket < c.table.nextTicket := distinct.issued _ entry
  rcases submitCases c call purpose request with
    ⟨_, refused, _⟩ | ⟨_, d, id, errand, taken, stood⟩
  · rw [refused]
    exact held
  -- What the call takes is new, so it is not this registration that it may hand back.
  have next : d.table.holds r = true ∧ d.table.Distinct ∧ errand.registration? ≠ some r := by
    cases taken with
    | request ok | receive ok | discard ok =>
      have ticket := (PendingTable.registered ok).2.1
      refine ⟨distinct.registerSpares ok held, distinct.register ok, fun same => ?_⟩
      cases same
      omega
    | send ok =>
      obtain ⟨_, rfl⟩ := PendingTable.allocated ok
      exact ⟨held, distinct.sublist (.refl _) rfl, nofun⟩
    | sendAs => exact ⟨held, distinct, nofun⟩
  have spared : Spares r d (d.standInLine call (Message.stamp id request) errand).connection :=
    standInLineState call _ (takeBackSpares next.2.1 next.2.2) fun _ => sameSpares rfl
  rw [stood] at live ⊢
  exact spared next.1 live

/-- An inbound frame under its id takes it off the table. -/
def Claimed (r : Registration) (past : List (Occurrence μ)) : Prop :=
  ∃ found frame, .routed found frame ∈ past ∧ frame.header.correlationId = r.correlationId ∧
    found.table.holds r = true

theorem routeAllSpares (distinct : c.table.Distinct) (held : c.table.holds r = true)
    (frames : List Frame) :
    (frames.foldl route c).table.holds r = true ∨ Claimed r (c.routings frames) := by
  induction frames generalizing c with
  | nil => exact .inl held
  | cons frame rest ih =>
    by_cases mine : frame.header.correlationId = r.correlationId
    · exact .inr ⟨c, frame, List.mem_cons_self, mine, held⟩
    · have table := routeTable c frame
      have later := ih (c := c.route frame) (table ▸ distinct.take _)
        (table ▸ distinct.takeSpares mine held)
      refine later.imp_right ?_
      rintro ⟨found, other, member, claims⟩
      exact ⟨found, other, List.mem_cons_of_mem _ member, claims⟩

theorem readSpares (distinct : c.table.Distinct) (held : c.table.holds r = true)
    (arrival : Option Arrival) : (c.pollReader arrival).isLive = true →
      (c.pollReader arrival).table.holds r = true ∨ Claimed r (c.occurrences (.read arrival)) := by
  cases c.readerCases arrival with
  | stopped _ comes | behind _ _ comes | idle _ _ _ comes | passes _ _ comes =>
    rw [comes]
    exact fun _ => .inl held
  | leaves _ _ comes =>
    rw [comes]
    exact fun _ => .inl (by rwa [leaveTable])
  | ended _ _ _ comes | fails _ _ _ comes =>
    rw [comes]
    exact fun live => absurd live (leftIsDown _ _)
  | @feeds buffer data reader up brings full comes =>
    subst brings
    have routed := routeAllSpares (c := c.countRead data.length) distinct held
      (Frame.splitAll c.config.maxFrameSize (buffer ++ data)).frames
    rw [comes, readOccurrences reader up full, feedStages]
    dsimp only
    split
    · exact fun _ => routed
    · exact fun live => absurd live (leftIsDown _ _)

omit [Message μ] in
theorem releaseSpares (c : Connection μ) : Spares r c c.release :=
  releaseState c (fun _ => downSpares (closeIsDown _ _)) fun _ => sameSpares rfl

/-- As long as a call stands in line, its registration stays on the table, but for a frame and an
interruption. -/
theorem stepSpares (h : c.Sound) {turn : Turn} (stands : turn ∈ c.line)
    (registered : turn.registration? = some r) {e : Event μ} (still : turn ∈ (c.step e).line)
    (held : c.table.holds r = true) (live : (c.step e).isLive = true) :
    (c.step e).table.holds r = true ∨ Claimed r (c.occurrences e) ∨ e = .interrupt r := by
  have distinct := h.coherent.matched.distinct
  obtain ⟨fate, entry⟩ := distinct.holds.mp held
  have up : c.outward.IsUp := upOf h.standing (h.liveOf entry)
  have spared (spares : Spares r c (c.step e)) : (c.step e).table.holds r = true ∨
      Claimed r (c.occurrences e) ∨ e = .interrupt r := .inl (spares held live)
  cases e with
  | submit call purpose request =>
    refine spared ?_
    dsimp only [step]
    split
    · exact submitSpares distinct call purpose request
    · exact sameSpares rfl
  | poll call now attempt => exact spared (pollSpares h stands registered up call now attempt)
  | abandon call =>
    exact spared (abandonSpares h stands registered (abandonLeaves h.callers still))
  | wait call other within now =>
    refine spared (sameSpares ?_)
    dsimp only [step]
    split <;> rfl
  | dropReply other =>
    refine spared ?_
    dsimp only [step]
    split
    · exact dropReplySpares h stands registered ‹_›
    · exact sameSpares rfl
  | interrupt other =>
    by_cases mine : other = r
    · exact .inr (.inr (by rw [mine]))
    · exact spared (interruptSpares distinct mine)
  | read arrival => exact (readSpares distinct held arrival live).imp_right .inl
  | attach =>
    obtain ⟨n, same⟩ := attachStep c
    exact spared (by rw [same]; exact sameSpares rfl)
  | release =>
    refine spared ?_
    dsimp only [step]
    split
    · exact sameSpares rfl
    · exact releaseSpares c
  | disconnect => exact spared (downSpares (closeIsDown c .forced))
  | allocate =>
    obtain ⟨n, same⟩ := allocateStep c
    exact .inl (by rw [same]; exact held)
  | setReplyTimeout | setJob | setAttributes | addPrototype | clearPrototypes => exact .inl held

end Connection
end ServiceMux
