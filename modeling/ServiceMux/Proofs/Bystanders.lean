import ServiceMux.Proofs.Accounting
import ServiceMux.Proofs.LettingGo
import ServiceMux.Proofs.Sparing
/-! A frame more. Main statements: a frame changes nothing beside its own id (`routeBeside`), and
frames under other ids find and leave everything there as they would have without it
(`Beside.routeAll`), so a frame that is put between others harms its own caller at most
(`harmsOnlyItsCaller`). -/
namespace ServiceMux
variable {μ : Type}

/-- What becomes of a frame that comes in. -/
structure Treatment (μ : Type) where
  frame : Frame
  entry : Option Slot
  verdict : Except ServerError (Reply μ)
  lot : Lot
  reports : List Warning

namespace Connection

/-- The same, but for what is outstanding under one id, what came of it, the counters and what was
reported. -/
structure Beside (id : UInt32) (d c : Connection μ) : Prop where
  lifecycle : d.lifecycle = c.lifecycle
  terms : d.terms = c.terms
  /-- The next id and the next ticket among others. -/
  books : { d.table with entries := [] } = { c.table with entries := [] }
  entries : ∀ other, other ≠ id → d.table.get? other = c.table.get? other
  inboxes : ∀ i : Inbox μ, i.registration.correlationId ≠ id → (i ∈ d.inboxes ↔ i ∈ c.inboxes)

namespace Beside
variable {id : UInt32} {b c d : Connection μ}

theorem symm (h : Beside id d c) : Beside id c d :=
  ⟨h.lifecycle.symm, h.terms.symm, h.books.symm, fun other apart => (h.entries other apart).symm,
    fun i apart => (h.inboxes i apart).symm⟩

theorem trans (left : Beside id d c) (right : Beside id c b) : Beside id d b :=
  ⟨left.lifecycle.trans right.lifecycle, left.terms.trans right.terms,
    left.books.trans right.books,
    fun other apart => (left.entries other apart).trans (right.entries other apart),
    fun i apart => (left.inboxes i apart).trans (right.inboxes i apart)⟩

theorem finds (h : Beside id d c) (after : d.Coherent) (before : c.Coherent) {other : UInt32}
    (apart : other ≠ id) : d.FindsAs c other := by
  have entry := h.entries other apart
  refine ⟨congrArg Terms.service h.terms, congrArg Terms.registry h.terms,
    congrArg Terms.prototypes h.terms, entry, fun ticket held result => ?_⟩
  rw [after.told held, before.told (entry ▸ held)]

theorem ofLost {cause : WireError} (down : c.isLive = false) : Beside id (c.lost cause) c := by
  rw [lostStages, closeDown (c := c.alarmed cause) down]
  exact ⟨rfl, rfl, rfl, fun _ _ => rfl, fun _ _ => .rfl⟩

theorem lostMembers (coherent : c.Coherent) (live : c.isLive = true) {cause : WireError}
    {i : Inbox μ} : i ∈ (c.lost cause).inboxes ↔ ∃ j ∈ c.inboxes, j.lost = i := by
  have told : (c.alarmed cause).Coherent := ⟨coherent.matched, coherent.owned⟩
  exact (closeLost told live .corrupted).mem_iff.trans List.mem_map

theorem lostTable (live : c.isLive = true) (cause : WireError) :
    (c.lost cause).table = c.table.close := by
  rw [lostStages, closeLive (c := c.alarmed cause) live]
  rfl

theorem lostTerms (c : Connection μ) (cause : WireError) : (c.lost cause).terms = c.terms :=
  closeTerms (c.alarmed cause) .corrupted

/-- Going down as the stream is lost tells all whose wait is not decided. -/
theorem lost (h : Beside id d c) (after : d.Coherent) (before : c.Coherent) (cause : WireError) :
    Beside id (d.lost cause) (c.lost cause) := by
  have lives : d.isLive = c.isLive := by unfold isLive; rw [h.lifecycle]
  cases live : c.isLive with
  | false => exact ((ofLost (lives.trans live)).trans h).trans (ofLost live).symm
  | true =>
    have live' := lives.trans live
    refine ⟨(lostEq live' cause).1.trans (lostEq live cause).1.symm, ?_, ?_, fun _ _ => ?_,
      fun i apart => ?_⟩
    · rw [lostTerms, lostTerms, h.terms]
    · rw [lostTable live, lostTable live']
      exact congrArg (fun t : PendingTable => { t with closed := true }) h.books
    · rw [lostTable live, lostTable live']
      rfl
    · rw [lostMembers after live', lostMembers before live]
      have mine {j : Inbox μ} (same : j.lost = i) : j.registration.correlationId ≠ id := by
        rwa [← same, Inbox.lostRegistration] at apart
      exact exists_congr fun j => and_congr_left fun same => h.inboxes j (mine same)

end Beside

variable [Message μ] {id : UInt32} {c d : Connection μ}

def treat (c : Connection μ) (frame : Frame) : Treatment μ where
  frame
  entry := c.table.get? frame.header.correlationId
  verdict := c.verdict frame
  lot := c.lot frame
  reports := c.reports frame

omit [Message μ] in
theorem FindsAs.canRead {frame : Frame} {id : UInt32} (h : d.FindsAs c id) :
    d.canRead frame = c.canRead frame := by
  unfold Connection.canRead
  rw [h.service, h.prototypeFor]

theorem FindsAs.treat {frame : Frame} (h : d.FindsAs c frame.header.correlationId) :
    d.treat frame = c.treat frame := by
  have lot : d.lot frame = c.lot frame := by
    unfold Connection.lot
    rw [h.entry, h.canRead, h.verdict]
  unfold Connection.treat
  rw [h.entry, h.verdict, lot, h.reports]

/-- A frame changes nothing beside its own id. -/
theorem routeBeside (h : c.Coherent) (frame : Frame) :
    Beside frame.header.correlationId (c.route frame) c := by
  refine ⟨by rw [routeEq], by rw [routeEq]; rfl, ?_, fun other apart => ?_, fun i apart => ?_⟩
  · rw [routeTable, PendingTable.takeShape]
  · rw [routeTable, PendingTable.getTake h.matched.distinct apart.symm]
  · constructor
    · intro member
      rcases routeMembers h frame member with old | ⟨_, _, same, _⟩
      · exact old
      · exact absurd same apart
    · intro member
      exact unresolvedStays h member fun resolves => apart (resolvesHolder h resolves).1

theorem routeIncludes (h : Beside id d c) (after : d.Coherent) (before : c.Coherent)
    {frame : Frame} (apart : frame.header.correlationId ≠ id) {i : Inbox μ}
    (other : i.registration.correlationId ≠ id) (member : i ∈ (d.route frame).inboxes) :
    i ∈ (c.route frame).inboxes := by
  have found := h.finds after before apart
  have same : Inbox.answer d.table frame.header.correlationId (d.verdict frame) =
      Inbox.answer c.table frame.header.correlationId (c.verdict frame) := by
    rw [Inbox.answerAs found.entry, found.verdict]
  obtain ⟨j, inside, filled⟩ :=
    List.mem_map.mp ((routeInboxes after.apart frame).mem_iff.mp member)
  rw [same] at filled
  refine (routeInboxes before.apart frame).mem_iff.mpr (List.mem_map.mpr ⟨j, ?_, filled⟩)
  refine (h.inboxes j fun mine => other ?_).mp inside
  rw [← filled, Inbox.answerRegistration, mine]

theorem Beside.route (h : Beside id d c) (after : d.Coherent) (before : c.Coherent)
    {frame : Frame} (apart : frame.header.correlationId ≠ id) :
    Beside id (d.route frame) (c.route frame) := by
  refine ⟨?_, ?_, ?_, fun other others => ?_, fun i others => ⟨?_, ?_⟩⟩
  · rw [routeEq, routeEq]
    exact h.lifecycle
  · rw [routeEq, routeEq]
    exact h.terms
  · rw [routeTable, routeTable, PendingTable.takeShape d.table, PendingTable.takeShape c.table]
    exact h.books
  · by_cases mine : frame.header.correlationId = other
    · subst mine
      rw [routeFrees, routeFrees]
    · rw [routeTable, routeTable, PendingTable.getTake after.matched.distinct mine,
        PendingTable.getTake before.matched.distinct mine, h.entries other others]
  · exact routeIncludes h after before apart others
  · exact routeIncludes h.symm before after apart others

end Connection

/-- What becomes of a frame under another id. -/
def Occurrence.beside? [Message μ] (id : UInt32) : Occurrence μ → Option (Treatment μ)
  | routed found frame =>
    if frame.header.correlationId = id then none else some (found.treat frame)
  | _ => none

namespace Connection
variable [Message μ] {id : UInt32} {c d : Connection μ}

theorem Beside.routeAll (h : Beside id d c) (after : d.Coherent) (before : c.Coherent)
    (frames : List Frame) :
    Beside id (frames.foldl Connection.route d) (frames.foldl Connection.route c) ∧
      (d.routings frames).filterMap (Occurrence.beside? id) =
        (c.routings frames).filterMap (Occurrence.beside? id) := by
  induction frames generalizing c d with
  | nil => exact ⟨h, rfl⟩
  | cons frame rest ih =>
    by_cases mine : frame.header.correlationId = id
    · have beside : Beside id (d.route frame) (c.route frame) := by
        subst mine
        exact ((routeBeside after frame).trans h).trans (routeBeside before frame).symm
      obtain ⟨later, same⟩ := ih beside (after.route frame) (before.route frame)
      exact ⟨later, by simpa [routings, Occurrence.beside?, mine] using same⟩
    · have found := h.finds after before mine
      obtain ⟨later, same⟩ :=
        ih (h.route after before mine) (after.route frame) (before.route frame)
      refine ⟨later, ?_⟩
      simpa [routings, List.filterMap_cons, Occurrence.beside?, mine, found.treat] using same

/-! What is decided stays decided. -/

structure Decided (c d : Connection μ) : Prop where
  filled : ∀ i ∈ c.inboxes, i.result ≠ none → i ∈ d.inboxes
  free : ∀ id, c.table.get? id = none → d.table.get? id = none

omit [Message μ] in
theorem Decided.trans {b : Connection μ} (first : Decided b c) (second : Decided c d) :
    Decided b d :=
  ⟨fun i member some => second.filled i (first.filled i member some) some,
    fun id free => second.free id (first.free id free)⟩

theorem routeDecided (h : c.Coherent) (frame : Frame) : Decided c (c.route frame) := by
  refine ⟨fun i member some => ?_, fun id free => ?_⟩
  · refine (routeInboxes h.apart frame).mem_iff.mpr (List.mem_map.mpr ⟨i, member, ?_⟩)
    unfold Inbox.answer Inbox.fill
    split
    · rw [if_neg fun empty => some empty.2]
    · rfl
  · cases found : (c.route frame).table.get? id with
    | none => rfl
    | some slot =>
      have inside := PendingTable.memOfGet found
      rw [routeTable] at inside
      exact absurd rfl (PendingTable.freeOfGet free _ (PendingTable.memTake.mp inside).1)

theorem routeAllDecided (h : c.Coherent) (frames : List Frame) :
    Decided c (frames.foldl route c) := by
  induction frames generalizing c with
  | nil => exact ⟨fun _ member _ => member, fun _ free => free⟩
  | cons frame rest ih => exact (routeDecided h frame).trans (ih (h.route frame))

omit [Message μ] in
theorem lostDecided (h : c.Coherent) (cause : WireError) : Decided c (c.lost cause) := by
  cases live : c.isLive with
  | false =>
    rw [lostStages, closeDown (c := c.alarmed cause) live]
    exact ⟨fun _ member _ => member, fun _ free => free⟩
  | true =>
    refine ⟨fun i member some => ?_, fun id _ => by rw [Beside.lostTable live]; rfl⟩
    refine (Beside.lostMembers h live).mpr ⟨i, member, ?_⟩
    unfold Inbox.lost
    split
    · contradiction
    · rfl

/-! Bytes. -/

theorem splitBehind {max : Nat} {front : List UInt8} {xs : List Frame}
    (whole : Frame.splitAll max front = ⟨xs, none, []⟩) (more : List UInt8) :
    Frame.splitAll max (front ++ more) = ⟨xs ++ (Frame.splitAll max more).frames,
      (Frame.splitAll max more).fault, (Frame.splitAll max more).rest⟩ := by
  rw [Frame.splitAllAppend, whole]
  rfl

theorem routeAllConfig (c : Connection μ) (frames : List Frame) :
    (frames.foldl route c).config = c.config := by
  rw [routeAllShape]

theorem digestBehind {front : List UInt8} {xs : List Frame}
    (whole : Frame.splitAll c.config.maxFrameSize front = ⟨xs, none, []⟩) (more : List UInt8) :
    c.digest (front ++ more) = (xs.foldl route c).digest more := by
  unfold digest
  dsimp only
  rw [splitBehind whole, routeAllConfig]
  dsimp only
  rw [List.foldl_append]

theorem digestDecided (h : c.Coherent) (data : List UInt8) : Decided c (c.digest data) := by
  have routed := routeAllDecided h (Frame.splitAll c.config.maxFrameSize data).frames
  unfold digest
  dsimp only
  split
  · exact routed
  · exact routed.trans (lostDecided (h.routeAll _) _)

theorem Beside.digest (h : Beside id d c) (after : d.Coherent) (before : c.Coherent)
    (data : List UInt8) : Beside id (d.digest data) (c.digest data) := by
  have config : d.config = c.config := congrArg Terms.config h.terms
  have routed := (h.routeAll after before (Frame.splitAll c.config.maxFrameSize data).frames).1
  unfold Connection.digest
  dsimp only
  rw [config]
  split
  · exact routed
  · exact routed.lost (after.routeAll _) (before.routeAll _) _

/-! Reads. -/

theorem unheardBeside (id : UInt32) (past : List (Occurrence μ)) :
    (past.map Occurrence.unheard).filterMap (Occurrence.beside? id) =
      past.filterMap (Occurrence.beside? id) := by
  have same : Occurrence.beside? id ∘ Occurrence.unheard (μ := μ) = Occurrence.beside? id := by
    funext o
    cases o with
    | routed found frame =>
      have alike : found.unheard.RoutesAs found := ⟨rfl, rfl, rfl, rfl, rfl⟩
      simp only [Function.comp_apply, Occurrence.unheard, Occurrence.beside?,
        (alike.finds frame.header.correlationId).treat]
    | _ => rfl
  rw [List.filterMap_map, same]

/-- The bytes of a frame that is not complete yet. -/
def unread (c : Connection μ) : List UInt8 :=
  match c.reader with
  | .reading buffer => buffer
  | _ => []

/-- Somebody who has been told, or has left, reads nothing. -/
theorem deafKeeps (deaf : ∀ buffer, c.reader = .reading buffer → c.shutdown = true)
    (chunks : List (List UInt8)) :
    (c.run (reads chunks)).Agrees c ∧ c.history (reads chunks) = [] := by
  cases chunks with
  | nil => exact ⟨⟨rfl, rfl, rfl, rfl, rfl⟩, rfl⟩
  | cons data rest =>
    cases reader : c.reader with
    | leaving | stopped => exact deafReads (by simp [reader]) (data :: rest)
    | reading buffer =>
      have left : c.step (.read (some (.bytes data))) = c.leave := by
        dsimp only [step, pollReader]
        rw [reader]
        exact if_pos (deaf buffer reader)
      obtain ⟨agrees, nothing⟩ := deafReads (leaveDeaf c) rest
      refine ⟨?_, ?_⟩
      · refine Agrees.trans ?_ (Agrees.leave c)
        rw [← left] at agrees ⊢
        exact agrees
      · have silent := (deafRead deaf (some (.bytes data))).1
        unfold reads at nothing ⊢
        rw [List.map_cons, history, silent, left, nothing]
        rfl

/-- What a frame that cannot be used does in the end: who waits for it is told, an entry whose reply
would be dropped is gone, and it is counted once. -/
structure Fails (found : Connection μ) (frame : Frame) (d : Connection μ) : Prop where
  told : ∀ ticket, found.table.get? frame.header.correlationId = some ⟨ticket, .awaited⟩ →
    ∃ reason, ⟨⟨frame.header.correlationId, ticket⟩, some (.error (.protocol reason))⟩ ∈ d.inboxes
  gone : d.table.get? frame.header.correlationId = none
  fault : (found.canRead frame = false ∨
      ∃ ticket, found.table.get? frame.header.correlationId = some ⟨ticket, .awaited⟩) →
    (found.route frame).metrics.protocolErrors = found.metrics.protocolErrors + 1
  unasked : found.canRead frame = true →
    (∀ ticket, found.table.get? frame.header.correlationId ≠ some ⟨ticket, .awaited⟩) →
    (found.route frame).metrics = found.metrics.countDiscarded

theorem routeFails (h : c.Coherent) {frame : Frame} {e : ServerError}
    (bad : c.verdict frame = .error e) (later : Decided (c.route frame) d) : Fails c frame d := by
  have books := routeBooks h frame
  refine ⟨fun ticket held => ?_, later.free _ (routeFrees c frame), fun counts => ?_,
    fun reads unawaited => ?_⟩
  · obtain ⟨reason, rfl⟩ := verdictFault bad
    have waits := h.matched.served _ (PendingTable.memOfGet held) rfl
    refine ⟨reason, later.filled _ ((routeInboxes h.apart frame).mem_iff.mpr
      (List.mem_map.mpr ⟨_, waits, ?_⟩)) (by simp)⟩
    rw [Inbox.answerAwaited held, bad]
    simp [Inbox.fill]
  · rw [books]
    cases lot : c.lot frame with
    | answer =>
      obtain ⟨_, reply, ok⟩ := lotAnswer.mp lot
      rw [bad] at ok
      contradiction
    | unasked =>
      obtain ⟨reads, unawaited⟩ := lotUnasked.mp lot
      rcases counts with strange | ⟨ticket, held⟩
      · rw [reads] at strange
        contradiction
      · exact absurd held (unawaited ticket)
    | undecodable | unroutable | wasted => rfl
  · rw [books, lotUnasked.mpr ⟨reads, unawaited⟩]
    rfl

/-! A connection that is open takes bytes in. -/

theorem readListens {buffer : List UInt8} (reader : c.reader = .reading buffer)
    (up : c.shutdown = false) (arrival : Option Arrival)
    (live : (c.step (.read arrival)).isLive = true) :
    ∃ kept, (c.step (.read arrival)).reader = .reading kept := by
  dsimp only [step] at live ⊢
  cases c.readerCases arrival with
  | stopped other | behind other | passes other =>
    rw [reader] at other
    contradiction
  | leaves _ told =>
    rw [up] at told
    contradiction
  | idle _ _ _ comes => exact ⟨buffer, by rw [comes, reader]⟩
  | ended _ _ _ comes | fails _ _ _ comes =>
    rw [comes] at live
    exact absurd live (leftIsDown _ _)
  | feeds _ _ _ _ comes =>
    rw [comes, feedStages] at live ⊢
    dsimp only at live ⊢
    split at live
    · exact ⟨_, rfl⟩
    · exact absurd live (leftIsDown _ _)

theorem runListens (s : Setting μ) (events : List (Event μ))
    (live : (s.start.run events).lifecycle = .live) :
    ∃ buffer, (s.start.run events).reader = .reading buffer := by
  have all := afterRun (c := s.start) (fun c => c.outward.Standing ∧
    (c.lifecycle = .live → ∃ buffer, c.reader = .reading buffer))
    ⟨runStanding s [], fun _ => ⟨[], rfl⟩⟩ ?_ events
  · exact all.2 live
  intro c e ⟨standing, listens⟩
  refine ⟨Outward.Standing.move standing (stepMoves c e), fun live => ?_⟩
  have before : c.lifecycle = .live := by
    rcases standing with up | down
    · exact up.lifecycle
    · have closed : (c.step e).lifecycle = .closed := (downForGood down [e]).1.lifecycle
      rw [closed] at live
      contradiction
  obtain ⟨buffer, reader⟩ := listens before
  by_cases reads : ∃ arrival, e = .read arrival
  · obtain ⟨arrival, rfl⟩ := reads
    exact readListens reader (upOf standing before).shutdown arrival (beq_iff_eq.mpr live)
  · exact ⟨buffer, (stepReader c fun arrival same => reads ⟨arrival, same⟩).trans reader⟩

/-! A frame between others. -/

theorem RoutesAs.route (h : d.RoutesAs c) (frame : Frame) :
    (d.route frame).table = (c.route frame).table ∧
      (d.route frame).inboxes = (c.route frame).inboxes := by
  rw [routeEq, routeEq]
  dsimp only
  rw [h.table, h.verdict, answeredAs h.table h.inboxes]
  exact ⟨rfl, rfl⟩

omit [Message μ] in
theorem Agrees.beside (h : d.Agrees c) (terms : d.terms = c.terms) (id : UInt32) :
    Beside id d c :=
  ⟨h.lifecycle, terms, by rw [h.table], fun _ _ => by rw [h.table],
    fun _ _ => by rw [h.inboxes]⟩

theorem readsTerms (c : Connection μ) (chunks : List (List UInt8)) :
    (c.run (reads chunks)).terms = c.terms := by
  unfold run reads
  induction chunks generalizing c with
  | nil => rfl
  | cons data rest ih => exact (ih _).trans (stepTerms c rfl)

theorem routeAllTerms (c : Connection μ) (frames : List Frame) :
    (frames.foldl route c).terms = c.terms := by
  rw [routeAllShape]
  rfl

theorem digestTerms (c : Connection μ) (data : List UInt8) : (c.digest data).terms = c.terms := by
  unfold digest
  dsimp only
  split
  · exact routeAllTerms c _
  · exact (Beside.lostTerms _ _).trans (routeAllTerms c _)

/-- Reads that bring whole frames in, and then more. -/
theorem readsBehind {buffer front after : List UInt8} {xs : List Frame}
    (reader : c.reader = .reading buffer) (up : c.shutdown = false)
    (part : Frame.splitAll c.config.maxFrameSize buffer = ⟨[], none, buffer⟩)
    (whole : Frame.splitAll c.config.maxFrameSize (buffer ++ front) = ⟨xs, none, []⟩)
    {chunks : List (List UInt8)} (full : [] ∉ chunks) (all : chunks.flatten = front ++ after) :
    (c.run (reads chunks)).Agrees ((xs.foldl route c).digest after) ∧
      (c.history (reads chunks)).map Occurrence.unheard = (c.routings xs).map Occurrence.unheard ++
        ((xs.foldl route c).routings
          (Frame.splitAll c.config.maxFrameSize after).frames).map Occurrence.unheard := by
  have agrees := readsAgree reader up part full
  have past := (readsFrom reader up part full).1
  rw [all, ← List.append_assoc] at agrees past
  rw [digestBehind whole] at agrees
  rw [splitBehind whole] at past
  exact ⟨agrees, past.trans (by rw [routingsAppend, List.map_append])⟩

/-- The frame is routed in its turn, and finds the connection as those before it have left it. -/
theorem routedAmong {past : List (Occurrence μ)} {xs ys : List Frame} {f : Frame}
    (same : past.map Occurrence.unheard = (c.routings (xs ++ [f])).map Occurrence.unheard ++
      (d.routings ys).map Occurrence.unheard) :
    ∃ front found back, past = front ++ .routed found f :: back ∧
      front.filterMap Occurrence.routed? = xs ∧ back.filterMap Occurrence.routed? = ys ∧
      found.unheard = (xs.foldl route c).unheard := by
  rw [routingsAppend, List.map_append, List.append_assoc] at same
  obtain ⟨front, rest, rfl, left, right⟩ := List.map_eq_append_iff.mp same
  obtain ⟨o, back, rfl, mine, later⟩ := List.map_eq_cons_iff.mp right
  have frames {part : List (Occurrence μ)} {b : Connection μ} {zs : List Frame}
      (same : part.map Occurrence.unheard = (b.routings zs).map Occurrence.unheard) :
      part.filterMap Occurrence.routed? = zs := by
    rw [← unheardRouted, same, unheardRouted, routingsFrames]
  cases o with
  | routed found frame =>
    obtain ⟨unheard, rfl⟩ := Occurrence.routed.inj mine
    exact ⟨front, found, back, rfl, frames left, frames later, unheard⟩
  | _ => contradiction

theorem treatedAlike {past past' : List (Occurrence μ)} {xs ys : List Frame} {f : Frame}
    (coherent : (xs.foldl route c).Coherent)
    (without : past.map Occurrence.unheard = (c.routings xs).map Occurrence.unheard ++
      ((xs.foldl route c).routings ys).map Occurrence.unheard)
    (among : past'.map Occurrence.unheard = (c.routings (xs ++ [f])).map Occurrence.unheard ++
      (((xs.foldl route c).route f).routings ys).map Occurrence.unheard) :
    past'.filterMap (Occurrence.beside? f.header.correlationId) =
      past.filterMap (Occurrence.beside? f.header.correlationId) := by
  have later := ((routeBeside coherent f).routeAll (coherent.route f) coherent ys).2
  have mine : [Occurrence.routed (xs.foldl route c) f].filterMap
      (Occurrence.beside? f.header.correlationId) = [] := by
    simp [Occurrence.beside?]
  rw [← unheardBeside _ past', ← unheardBeside _ past, among, without, List.filterMap_append,
    List.filterMap_append, unheardBeside, unheardBeside, unheardBeside, unheardBeside, later,
    routingsAppend, List.filterMap_append]
  exact congrArg (· ++ _) ((congrArg (_ ++ ·) mine).trans (List.append_nil _))

/-- What the reads come to is the same with it and without it, but for its own id. -/
theorem endsBeside {after : List UInt8} {xs : List Frame} {f : Frame}
    {chunks chunks' : List (List UInt8)} (coherent : (xs.foldl route c).Coherent)
    (without : (c.run (reads chunks)).Agrees ((xs.foldl route c).digest after))
    (among : (c.run (reads chunks')).Agrees (((xs.foldl route c).route f).digest after)) :
    Beside f.header.correlationId (c.run (reads chunks')) (c.run (reads chunks)) := by
  have beside := routeBeside coherent f
  have settled (chunks : List (List UInt8)) (b : Connection μ) (same : b.terms = c.terms) :
      (c.run (reads chunks)).terms = (b.digest after).terms :=
    (readsTerms c chunks).trans ((digestTerms b after).trans same).symm
  have left := without.beside (settled chunks _ (routeAllTerms c xs)) f.header.correlationId
  have right := among.beside (settled chunks' _ (beside.terms.trans (routeAllTerms c xs)))
    f.header.correlationId
  exact (right.trans (beside.digest (coherent.route f) coherent after)).trans left.symm

/-- What the frame does depends only on what it finds. -/
theorem foundFails {found : Connection μ} {frame : Frame} {e : ServerError} (h : c.Coherent)
    (alike : found.unheard = c.unheard) (bad : found.verdict frame = .error e)
    (later : Decided (c.route frame) d) : Fails found frame d := by
  have books : found.unheard.Coherent := alike ▸ ⟨h.matched, h.owned⟩
  have coherent : found.Coherent := ⟨books.matched, books.owned⟩
  have finds : found.unheard.RoutesAs c := alike ▸ ⟨rfl, rfl, rfl, rfl, rfl⟩
  have same : found.RoutesAs c :=
    ⟨finds.service, finds.registry, finds.prototypes, finds.table, finds.inboxes⟩
  obtain ⟨table, inboxes⟩ := same.route frame
  refine routeFails coherent bad ⟨fun i member some => ?_, fun id free => ?_⟩
  · rw [inboxes] at member
    exact later.filled i member some
  · rw [table] at free
    exact later.free id free

theorem runPart (s : Setting μ) (events : List (Event μ)) {buffer : List UInt8}
    (reader : (s.start.run events).reader = .reading buffer) :
    Frame.splitAll (s.start.run events).config.maxFrameSize buffer = ⟨[], none, buffer⟩ := by
  obtain ⟨fault, rest⟩ := (runFollows s events).reading buffer reader
  rw [← rest]
  exact Frame.restPart fault

theorem harmsOnlyItsCaller (s : Setting μ) (events : List (Event μ))
    {before extra after : List UInt8} {xs : List Frame} {f : Frame}
    (boundary : Frame.splitAll s.config.maxFrameSize ((s.start.run events).unread ++ before) =
      ⟨xs, none, []⟩)
    (valid : Frame.split s.config.maxFrameSize extra = .ok (some (f, [])))
    {chunks chunks' : List (List UInt8)} (full : [] ∉ chunks) (full' : [] ∉ chunks')
    (without : chunks.flatten = before ++ after)
    (among : chunks'.flatten = before ++ extra ++ after) :
    let c := s.start.run events
    let id := f.header.correlationId
    let past := c.history (reads chunks)
    let past' := c.history (reads chunks')
    Beside id (c.run (reads chunks')) (c.run (reads chunks)) ∧
      past'.filterMap (Occurrence.beside? id) = past.filterMap (Occurrence.beside? id) ∧
      (c.lifecycle = .live → ∃ front found back,
        past' = front ++ .routed found f :: back ∧ front.filterMap Occurrence.routed? = xs ∧
          back.filterMap Occurrence.routed? = (Frame.splitAll s.config.maxFrameSize after).frames ∧
          ∀ e, found.verdict f = .error e → Fails found f (c.run (reads chunks'))) := by
  intro c id past past'
  have coherent : c.Coherent := runCoherent s events
  have config : c.config = s.config := (runFixed s.start events).2
  by_cases hears : ∃ buffer, c.reader = .reading buffer ∧ c.shutdown = false
  · obtain ⟨buffer, reader, up⟩ := hears
    have unread : c.unread = buffer := by
      unfold Connection.unread
      rw [reader]
    have part := runPart s events reader
    rw [unread, ← config] at boundary
    rw [← config] at valid ⊢
    have one : Frame.splitAll c.config.maxFrameSize extra = ⟨[f], none, []⟩ := by
      rw [Frame.splitAllFrame valid, Frame.splitAllPart rfl]
    have wider : Frame.splitAll c.config.maxFrameSize (buffer ++ (before ++ extra)) =
        ⟨xs ++ [f], none, []⟩ := by
      rw [← List.append_assoc, splitBehind boundary, one]
    obtain ⟨agrees, passed⟩ := readsBehind reader up part boundary full without
    obtain ⟨agrees', passed'⟩ := readsBehind reader up part wider full' among
    have routed : (xs.foldl route c).Coherent := coherent.routeAll xs
    have last : (xs ++ [f]).foldl route c = (xs.foldl route c).route f := List.foldl_append
    rw [last] at agrees' passed'
    refine ⟨endsBeside routed agrees agrees', treatedAlike routed passed passed', fun _ => ?_⟩
    obtain ⟨front, found, back, split, earlier, later, alike⟩ := routedAmong passed'
    refine ⟨front, found, back, split, earlier, later, fun e bad => ?_⟩
    have decided := digestDecided (routed.route f) after
    exact foundFails routed alike bad
      ⟨fun i member some => agrees'.inboxes ▸ decided.filled i member some,
        fun other free => agrees'.table ▸ decided.free other free⟩
  · have deaf : ∀ buffer, c.reader = .reading buffer → c.shutdown = true := by
      intro buffer reader
      by_contra up
      exact hears ⟨buffer, reader, by simpa using up⟩
    obtain ⟨agrees, nothing⟩ := deafKeeps deaf chunks
    obtain ⟨agrees', nothing'⟩ := deafKeeps deaf chunks'
    refine ⟨?_, ?_, fun live => ?_⟩
    · exact (agrees'.beside (readsTerms c chunks') id).trans
        (agrees.beside (readsTerms c chunks) id).symm
    · rw [show past' = [] from nothing', show past = [] from nothing]
    · obtain ⟨buffer, reader⟩ := runListens s events live
      exact absurd ⟨buffer, reader, (upOf (runStanding s events) live).shutdown⟩ hears

/-! A body that is too short. -/

def shortPong (id : UInt8) : List UInt8 :=
  [0, 0, 0, 22, 0, 0, 0xE0, 8, 0, 0, 0, 0, 0, 0, 0, id, 0, 4, 0x80, 1, 0, 0]

def shortFrame (id : UInt32) : Frame := ⟨⟨22, 0, 0xE008, 0, id, 4, 0x8001⟩, [0, 0]⟩

/-- Two wait, and the body for the one is too short. It comes in two pieces, the second of them
together with the reply for the other. -/
theorem shortForTheFirst :
    let s : Setting Bench.Datastream := ⟨1, .command, .empty, {}, none, none⟩
    let c := s.start.run bothWait
    let reply : List UInt8 :=
      [0, 0, 0, 24, 0, 0, 0xE0, 8, 0, 0, 0, 0, 0, 0, 0, 2, 0, 4, 0x80, 1, 0, 0, 0, 8]
    let pieces := [(shortPong 1).take 7, (shortPong 1).drop 7 ++ reply]
    Frame.splitAll s.config.maxFrameSize (c.unread ++ []) = ⟨[], none, []⟩ ∧
      Frame.split s.config.maxFrameSize (shortPong 1) = .ok (some (shortFrame 1, [])) ∧
      [] ∉ [reply] ∧ [] ∉ pieces ∧ [reply].flatten = [] ++ reply ∧
      pieces.flatten = [] ++ shortPong 1 ++ reply ∧ c.lifecycle = .live ∧
      (∃ e, c.verdict (shortFrame 1) = .error e) ∧
      Beside 1 (c.run (reads pieces)) (c.run (reads [reply])) ∧
      ∃ front found back, c.history (reads pieces) = front ++ .routed found (shortFrame 1) :: back ∧
        front.filterMap Occurrence.routed? = [] ∧
        ∀ e, found.verdict (shortFrame 1) = .error e →
          Fails found (shortFrame 1) (c.run (reads pieces)) := by
  intro s c reply pieces
  have boundary : Frame.splitAll s.config.maxFrameSize (c.unread ++ []) = ⟨[], none, []⟩ :=
    Frame.splitAllPart rfl
  have valid : Frame.split s.config.maxFrameSize (shortPong 1) = .ok (some (shortFrame 1, [])) := by
    decide
  have full : [] ∉ [reply] := by decide
  have full' : [] ∉ pieces := by decide
  have without : [reply].flatten = [] ++ reply := by decide
  have among : pieces.flatten = [] ++ shortPong 1 ++ reply := by decide
  have live : c.lifecycle = .live := by decide
  obtain ⟨beside, -, fails⟩ :=
    harmsOnlyItsCaller s bothWait boundary valid full full' without among
  obtain ⟨front, found, back, split, earlier, -, bad⟩ := fails live
  exact ⟨boundary, valid, full, full', without, among, live, ⟨_, rfl⟩, beside, front, found, back,
    split, earlier, bad⟩

/-- Nobody waits for it: it is not decoded at all, and is no fault. -/
theorem shortForNobody :
    let s : Setting Bench.Datastream := ⟨1, .command, .empty, {}, none, none⟩
    let c := s.start.run [.addPrototype 0x8001 Bench.ReplyType.pong.prototype]
    let d := c.step (.read (some (.bytes (shortPong 1))))
    c.lifecycle = .live ∧ c.unread = [] ∧
      Frame.split s.config.maxFrameSize (shortPong 1) = .ok (some (shortFrame 1, [])) ∧
      (∃ e, c.verdict (shortFrame 1) = .error e) ∧
      d.metrics.protocolErrors ≠ c.metrics.protocolErrors + 1 ∧
      d.metrics.protocolErrors = c.metrics.protocolErrors ∧
      d.metrics.repliesDiscarded = c.metrics.repliesDiscarded + 1 := by
  intro s c d
  have valid : Frame.split s.config.maxFrameSize (shortPong 1) = .ok (some (shortFrame 1, [])) := by
    decide
  have taken : Frame.splitAll s.config.maxFrameSize (shortPong 1) = ⟨[shortFrame 1], none, []⟩ := by
    rw [Frame.splitAllFrame valid, Frame.splitAllPart rfl]
  have read : d = (c.route (shortFrame 1)).heard 22 (.reading []) := by
    refine (readStep rfl rfl (by decide)).trans ((feedEq c [] (shortPong 1)).trans ?_)
    rw [List.nil_append, show c.config = s.config from rfl, taken]
    rfl
  refine ⟨rfl, rfl, valid, ⟨_, rfl⟩, ?_, ?_, ?_⟩ <;> rw [read] <;> decide

end Connection
end ServiceMux
