import ServiceMux.Proofs.Reading
import ServiceMux.Proofs.Waiters
/-! The inbox of one pending reply, and who has it in hand. Main statement: a step that neither
begins a call nor reads nor interrupts leaves it as it is, or the connection is lost, or it goes with
whoever had it in hand (`stepFares`). -/
namespace ServiceMux
variable {μ : Type}

namespace Inbox

/-- An inbox once the connection is lost. -/
def lost (i : Inbox μ) : Inbox μ :=
  match i.result with
  | none => ⟨i.registration, some (.error .connectionLost)⟩
  | some _ => i

@[simp] theorem lostRegistration (i : Inbox μ) : i.lost.registration = i.registration := by
  unfold lost
  split <;> rfl

theorem lostLost (i : Inbox μ) : i.lost.lost = i.lost := by
  obtain ⟨r, _ | _⟩ := i <;> rfl

end Inbox

/-- The errand has the inbox of this registration in hand. -/
def Errand.Holds (errand : Errand) (r : Registration) : Prop :=
  ∃ other, errand.inbox? = some other ∧ other.ticket = r.ticket

namespace Connection
variable {b c d : Connection μ} {r : Registration}

/-! The inbox of one registration. -/

theorem inboxOfAs (inboxes : d.inboxes = c.inboxes) : d.inboxOf r = c.inboxOf r := by
  unfold inboxOf
  rw [inboxes]

theorem inboxOfMap (h : c.Apart) {f : Inbox μ → Inbox μ}
    (keeps : ∀ i, (f i).registration = i.registration) (same : d.inboxes.Perm (c.inboxes.map f)) :
    d.inboxOf r = (c.inboxOf r).map f := by
  have apart := h.perm keeps same
  cases found : c.inboxOf r with
  | some i =>
    obtain ⟨member, ticket⟩ := h.inboxOf.mp found
    exact apart.inboxOf.mpr ⟨same.mem_iff.mpr (List.mem_map_of_mem member), by rw [keeps, ticket]⟩
  | none =>
    cases found' : d.inboxOf r with
    | none => rfl
    | some j =>
      obtain ⟨member, ticket⟩ := apart.inboxOf.mp found'
      obtain ⟨i, inside, rfl⟩ := List.mem_map.mp (same.mem_iff.mp member)
      rw [h.inboxOf.mpr ⟨inside, (keeps i) ▸ ticket⟩] at found
      contradiction

theorem dropInboxOf (c : Connection μ) (other : Registration) : (c.dropInbox other).inboxOf r =
    if other.ticket = r.ticket then none else c.inboxOf r := by
  unfold dropInbox inboxOf
  dsimp only
  split
  · rename_i same
    refine List.find?_eq_none.mpr fun i member => ?_
    have apart := (List.mem_filter.mp member).2
    rw [same] at apart
    simpa using apart
  · rename_i apart
    rw [List.find?_filter]
    congr 1
    funext i
    by_cases named : i.registration.ticket = r.ticket
    · simp [named, Ne.symm apart]
    · simp [named]

/-- What has come of what lies in the inbox of a registration: nothing, or the loss of the
connection, or nobody has it any more. -/
inductive Fares (own : Prop) (r : Registration) (c d : Connection μ) : Prop where
  | kept (same : d.inboxOf r = c.inboxOf r)
  | lost (told : d.inboxOf r = (c.inboxOf r).map Inbox.lost)
  | gone (mine : own) (none : d.inboxOf r = none)

namespace Fares
variable {own own' : Prop}

theorem same (inboxes : d.inboxes = c.inboxes) : Fares own r c d := .kept (inboxOfAs inboxes)

theorem mono (h : Fares own r c d) (wider : own → own') : Fares own' r c d := by
  cases h with
  | kept same => exact .kept same
  | lost told => exact .lost told
  | gone mine none => exact .gone (wider mine) none

theorem trans (later : Fares own r c d) (earlier : Fares own r b c) : Fares own r b d := by
  cases earlier with
  | kept before =>
    cases later with
    | kept same => exact .kept (same.trans before)
    | lost told => exact .lost (before ▸ told)
    | gone mine none => exact .gone mine none
  | lost before =>
    cases later with
    | kept same => exact .lost (same.trans before)
    | lost told =>
      refine .lost ?_
      rw [told, before, Option.map_map]
      exact congrArg (Option.map · _) (funext Inbox.lostLost)
    | gone mine none => exact .gone mine none
  | gone mine none =>
    refine .gone mine ?_
    cases later with
    | kept same => rw [same, none]
    | lost told => rw [told, none]; rfl
    | gone _ none => exact none

end Fares

section Calls
variable {own : Prop}

theorem dropInboxFares (c : Connection μ) (other : Registration) :
    Fares (other.ticket = r.ticket) r c (c.dropInbox other) := by
  have left := dropInboxOf (r := r) c other
  split at left
  · exact .gone ‹_› left
  · exact .kept left

theorem letGoFares (c : Connection μ) (errand : Errand) :
    Fares (errand.Holds r) r c (c.letGo errand) := by
  unfold letGo
  split
  · rename_i other has
    exact (dropInboxFares c other).mono fun same => ⟨other, has, same⟩
  · exact .same rfl

theorem takeBackFares (c : Connection μ) (errand : Errand) :
    Fares (errand.Holds r) r c (c.takeBack errand) := by
  unfold takeBack
  split
  · rename_i other has
    exact (dropInboxFares c other).mono fun same => ⟨other, has, same⟩
  · split <;> exact .same rfl

theorem Coherent.fillsLost (h : c.Coherent) {i : Inbox μ} (member : i ∈ c.inboxes) :
    i.fillAll c.table.awaited (.error .connectionLost) = i.lost := by
  obtain ⟨s, result⟩ := i
  cases result with
  | some _ => simp [Inbox.fillAll, Inbox.lost]
  | none =>
    -- An empty inbox is awaited, so it is among those that are told.
    have awaited : s.ticket ∈ c.table.awaited :=
      List.mem_filterMap.mpr ⟨_, h.matched.waiting _ member rfl, rfl⟩
    simp [Inbox.fillAll, Inbox.lost, awaited]

theorem closeLost (h : c.Coherent) (live : c.isLive = true) (reason : CloseReason) :
    (c.close reason).inboxes.Perm (c.inboxes.map Inbox.lost) := by
  rw [← List.map_congr_left fun i member => h.fillsLost (i := i) member]
  exact closeInboxes live h.apart reason

theorem closeFares (h : c.Coherent) (reason : CloseReason) : Fares own r c (c.close reason) := by
  cases live : c.isLive with
  | false => rw [closeDown live]; exact .same rfl
  | true =>
    exact .lost (inboxOfMap h.apart Inbox.lostRegistration (closeLost h live reason))

theorem pollWaitFares (c : Connection μ) (w : Wait) (now : Instant) :
    Fares (w.registration.ticket = r.ticket) r c (c.pollWait w now).1 := by
  have ended : Fares (w.registration.ticket = r.ticket) r c (c.endWait w) :=
    Fares.trans (c := c.dropInbox w.registration) (.same rfl) (dropInboxFares c w.registration)
  exact pollWaitState c w now ended (.same rfl)

section First
variable {call : CallId} {frame : List UInt8} {errand : Errand} {rest : List Turn}
  (h : c.Coherent) (first : c.line = .write call frame errand :: rest)
include h first

theorem writeOnFares (before : Nat) (now : Instant) (attempt : WriteAttempt) :
    Fares (errand.Holds r) r c (c.writeOn call frame errand before now attempt).1 := by
  have met : (c.interfered attempt).Coherent := interferedState c attempt h (h.close .forced)
  have line := (interferedLine c attempt).trans first
  have fares : Fares (errand.Holds r) r c (c.interfered attempt) :=
    interferedState c attempt (.same rfl) (closeFares h .forced)
  cases c.writeCases call frame errand before now attempt with
  | late _ comes => exact comes ▸ (letGoFares _ errand).trans (.same rfl)
  | stalled _ _ comes =>
    rw [comes]
    exact Fares.trans (c := c.interfered attempt) (.same rfl) fares
  | complete _ _ comes =>
    rw [comes]
    refine Fares.trans (c := c.interfered attempt) ?_ fares
    cases errand <;> exact .same rfl
  | failed _ _ comes =>
    rw [comes]
    refine Fares.trans (c := c.interfered attempt) ?_ fares
    generalize c.interfered attempt = d at met line
    have back : (d.stepAside.takeBack errand).Coherent :=
      met.stepAside.takeBack (met.firstFrees line)
    refine (letGoFares _ errand).trans ((closeFares ?_ .writeFailed).trans ?_)
    · cases errand <;> exact back.same rfl rfl rfl rfl
    · exact Fares.trans (c := d.takeBack errand) (.same rfl) (takeBackFares d errand)

theorem takeTurnFares (now : Instant) (attempt : WriteAttempt) :
    Fares (errand.Holds r) r c (c.takeTurn call frame errand now attempt).1 := by
  cases c.turnCases call frame errand now attempt with
  | late _ _ comes => exact comes ▸ (letGoFares _ errand).trans (.same rfl)
  | writes _ comes => exact comes ▸ writeOnFares h first _ now attempt

end First
end Calls

/-! Who has it in hand. -/

/-- The inbox with this ticket is that of the registration, or there is none. -/
def Knows (c : Connection μ) (r : Registration) : Prop :=
  ∀ i ∈ c.inboxes, i.registration.ticket = r.ticket → i.registration = r

/-- A call has this pending reply in hand: it waits for it, or still stands in line. -/
inductive Has (c : Connection μ) (r : Registration) (call : CallId) : Prop where
  | waiting {w : Wait} (waits : w ∈ c.waits) (named : w.call = call) (own : w.registration = r)
  | inLine {frame : List UInt8} {errand : Errand} (stands : .write call frame errand ∈ c.line)
      (own : errand.inbox? = some r)

/-- With this event, whoever has this pending reply in hand may be done with it. -/
def Parts (c : Connection μ) (r : Registration) : Event μ → Prop
  | .poll call _ _ => c.Has r call
  | .abandon call => c.Has r call
  | .dropReply other => other = r ∧ c.isHandedOut r = true
  | _ => False

theorem firstStands {turn : Turn} {rest : List Turn} (first : c.line = turn :: rest) :
    turn ∈ c.line := by
  rw [first]
  exact List.mem_cons_self

section Own
variable (h : c.Coherent) (knows : c.Knows r)
include h knows

theorem ownWait {w : Wait} (waits : w ∈ c.waits) (ticket : w.registration.ticket = r.ticket) :
    w.registration = r := by
  obtain ⟨i, inside, same, _⟩ := h.waitHas waits
  rw [← same] at ticket ⊢
  exact knows i inside ticket

theorem ownTurn {call : CallId} {frame : List UInt8} {errand : Errand}
    (stands : .write call frame errand ∈ c.line) (holds : errand.Holds r) : c.Has r call := by
  obtain ⟨other, has, ticket⟩ := holds
  have mine := h.owned.inLine other (List.mem_filterMap.mpr ⟨_, stands, has⟩)
  obtain ⟨i, inside, rfl⟩ := List.mem_map.mp mine
  rw [knows i inside ticket] at has
  exact .inLine stands has

theorem pollFares (call : CallId) (now : Instant) (attempt : WriteAttempt) :
    Fares (c.Has r call) r c (c.poll call now attempt).1 := by
  cases c.pollCases call now attempt with
  | @waits w found comes =>
    have waits := List.mem_of_find?_eq_some found
    exact comes ▸ (pollWaitFares c w now).mono fun ticket =>
      .waiting waits (by simpa using List.find?_some found) (ownWait h knows waits ticket)
  | turn _ first comes =>
    exact comes ▸ (takeTurnFares h first now attempt).mono (ownTurn h knows (firstStands first))
  | still _ _ comes => exact comes ▸ .same rfl

theorem leaveLineFares (call : CallId) : Fares (c.Has r call) r c (c.leaveLine call) := by
  cases c.leaveLineCases call with
  | @write _ errand found comes =>
    have stands := List.mem_of_find?_eq_some found
    rw [comes]
    exact ((letGoFares _ errand).mono fun holds => ownTurn h knows stands holds).trans (.same rfl)
  | still _ comes =>
    rw [comes]
    exact .same rfl

theorem abandonFares (call : CallId) : Fares (c.Has r call) r c (c.abandon call) := by
  cases c.abandonCases call with
  | @waits w found comes =>
    have waits := List.mem_of_find?_eq_some found
    have ended := Fares.trans (c := c.dropInbox w.registration) (d := c.endWait w) (.same rfl)
      (dropInboxFares (r := r) c w.registration)
    exact comes ▸ ended.mono fun ticket =>
      .waiting waits (by simpa using List.find?_some found) (ownWait h knows waits ticket)
  | @busy _ errand _ _ first _ comes =>
    have gone : Coherent { c with writeHalf := false } := ⟨h.matched, h.owned⟩
    have down : Fares (c.Has r call) r c ({ c with writeHalf := false }.close .writeAbandoned) :=
      (closeFares gone .writeAbandoned).trans (.same rfl)
    rw [comes]
    refine ((letGoFares _ errand).mono (ownTurn h knows (firstStands first))).trans ?_
    exact Fares.trans (c := { c with writeHalf := false }.close .writeAbandoned) (.same rfl) down
  | @idle _ errand _ _ first _ comes =>
    rw [comes]
    exact ((letGoFares _ errand).mono (ownTurn h knows (firstStands first))).trans (.same rfl)
  | behind _ _ comes => exact comes ▸ leaveLineFares h knows call

end Own

theorem releaseFares {own : Prop} (h : c.Coherent) : Fares own r c c.release := by
  have fewer : Coherent { c with references := c.references - 1 } := ⟨h.matched, h.owned⟩
  exact releaseState c (fun _ => (closeFares fewer .released).trans (.same rfl)) fun _ => .same rfl

/-! What comes from outside. -/

/-- A new registration is none that was made before. -/
theorem takesApart {purpose : Purpose} {id : UInt32} {errand : Errand}
    (taken : c.Takes purpose d id errand) (issued : r.ticket < c.table.nextTicket) :
    d.inboxOf r = c.inboxOf r ∧ ¬errand.Holds r := by
  have awaited {s : Registration} {table : PendingTable}
      (ok : c.table.register .awaited = .ok (s, table)) :
      ({ c with table, inboxes := c.inboxes ++ [Inbox.mk s none] } : Connection μ).inboxOf r =
        c.inboxOf r ∧ s.ticket ≠ r.ticket := by
    have apart : s.ticket ≠ r.ticket := by
      rw [(PendingTable.registered ok).2.1]
      exact (Nat.ne_of_lt issued).symm
    refine ⟨?_, apart⟩
    unfold inboxOf
    simp [List.find?_append, apart]
  cases taken with
  | request ok | receive ok =>
    refine ⟨(awaited ok).1, ?_⟩
    rintro ⟨other, has, same⟩
    cases has
    exact (awaited ok).2 same
  | discard | send | sendAs => exact ⟨rfl, fun ⟨_, has, _⟩ => by contradiction⟩

variable [Message μ]

theorem submitFares {own : Prop} (issued : r.ticket < c.table.nextTicket) (call : CallId)
    (purpose : Purpose) (request : μ) :
    Fares own r c (c.submit call purpose request).connection := by
  rcases submitCases c call purpose request with
    ⟨e, refused, _⟩ | ⟨_, d, id, errand, taken, stands⟩
  · rw [refused]
    exact .same rfl
  · obtain ⟨same, apart⟩ := takesApart taken issued
    rw [stands]
    refine Fares.trans (standInLineState call _ ?_ fun _ => .same rfl) (.kept same)
    exact (takeBackFares d errand).mono fun holds => absurd holds apart

theorem stepFares (h : c.Coherent) (knows : c.Knows r) {e : Event μ}
    (begins : ∀ call purpose request, e ≠ .submit call purpose request)
    (reads : ∀ arrival, e ≠ .read arrival) (interrupts : ∀ other, e ≠ .interrupt other) :
    Fares (c.Parts r e) r c (c.step e) := by
  cases e with
  | submit call purpose request => exact absurd rfl (begins call purpose request)
  | read arrival => exact absurd rfl (reads arrival)
  | interrupt other => exact absurd rfl (interrupts other)
  | poll call now attempt => exact pollFares h knows call now attempt
  | abandon call => exact abandonFares h knows call
  | wait call other within now =>
    dsimp only [step]
    split <;> exact .same rfl
  | dropReply other =>
    dsimp only [step]
    split
    · rename_i out
      refine (dropInboxFares c other).mono fun ticket => ?_
      obtain ⟨member, _⟩ := h.handedOut out
      obtain ⟨i, inside, same⟩ := List.mem_map.mp member
      have mine : other = r := same ▸ knows i inside (same ▸ ticket)
      exact ⟨mine, mine ▸ out⟩
    · exact .same rfl
  | attach =>
    obtain ⟨n, same⟩ := attachStep c
    rw [same]
    exact .same rfl
  | release =>
    dsimp only [step]
    split
    · exact .same rfl
    · exact releaseFares h
  | disconnect => exact closeFares h .forced
  | allocate =>
    obtain ⟨n, same⟩ := allocateStep c
    rw [same]
    exact .same rfl
  | setReplyTimeout | setJob | setAttributes | addPrototype | clearPrototypes => exact .same rfl

end Connection
end ServiceMux
