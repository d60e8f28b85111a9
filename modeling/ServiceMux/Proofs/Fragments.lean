import ServiceMux.Bench.Datastream
import ServiceMux.Proofs.Framing
import ServiceMux.Proofs.History
import ServiceMux.Proofs.Routing
import ServiceMux.Transport.Pipe
/-! Inbound bytes in pieces. Main statements: however a stream is cut into reads, the same frames
are routed in the same order, and the connection ends up the same (`anyFragmentation`); whatever a
pipe is asked for in one read, it cuts its stream like that (`Pipe.Drained.all`). -/
namespace ServiceMux
variable {μ : Type}

namespace Connection

/-- More bytes were read, and the reader keeps something else of them. -/
def heard (n : Nat) (reader : Reader) (c : Connection μ) : Connection μ :=
  { c.countRead n with reader }

theorem heardHeard (c : Connection μ) (m n : Nat) (r s : Reader) :
    (c.heard m r).heard n s = c.heard (m + n) s := by
  simp only [heard, countRead, Nat.add_assoc]

/-- A connection but for how much was read, and what the reader keeps of it. -/
def unheard (c : Connection μ) : Connection μ :=
  { c with reader := .stopped, metrics := { c.metrics with bytesRead := 0 } }

end Connection

def Occurrence.unheard : Occurrence μ → Occurrence μ
  | routed found frame => routed found.unheard frame
  | o => o

theorem unheardRouted (past : List (Occurrence μ)) :
    (past.map Occurrence.unheard).filterMap Occurrence.routed? =
      past.filterMap Occurrence.routed? := by
  have same : Occurrence.routed? ∘ Occurrence.unheard (μ := μ) = Occurrence.routed? := by
    funext o
    cases o <;> rfl
  rw [List.filterMap_map, same]

namespace Connection

/-! What it comes to. -/

/-- The same but for what the reader and the writers are at, and the counter of bytes read. -/
structure Agrees (d c : Connection μ) : Prop where
  table : d.table = c.table
  inboxes : d.inboxes = c.inboxes
  lifecycle : d.lifecycle = c.lifecycle
  warnings : d.warnings = c.warnings
  metrics : { d.metrics with bytesRead := 0 } = { c.metrics with bytesRead := 0 }

/-- The bytes behind the last frame cannot be split, and the connection goes down. -/
def lost (c : Connection μ) (cause : WireError) : Connection μ :=
  let c := c.warn (.framingLost cause)
  { c with metrics := c.metrics.countFault }.close .corrupted

namespace Agrees
variable {b c d : Connection μ}

theorem trans (left : d.Agrees c) (right : c.Agrees b) : d.Agrees b :=
  ⟨left.table.trans right.table, left.inboxes.trans right.inboxes,
    left.lifecycle.trans right.lifecycle, left.warnings.trans right.warnings,
    left.metrics.trans right.metrics⟩

theorem heard (c : Connection μ) (n : Nat) (reader : Reader) : (c.heard n reader).Agrees c :=
  ⟨rfl, rfl, rfl, rfl, rfl⟩

theorem leave (c : Connection μ) : c.leave.Agrees c := by
  unfold Connection.leave
  split <;> exact ⟨rfl, rfl, rfl, rfl, rfl⟩

theorem close (h : d.Agrees c) (service : d.service = c.service) (reason : CloseReason) :
    (d.close reason).Agrees (c.close reason) := by
  have lives : d.isLive = c.isLive := by unfold isLive; rw [h.lifecycle]
  cases live : c.isLive with
  | false => rw [closeDown live, closeDown (lives.trans live)]; exact h
  | true =>
    rw [closeLive live, closeLive (lives.trans live)]
    refine ⟨congrArg PendingTable.close h.table, ?_, rfl, ?_,
      congrArg (fun m : Metrics => { m with closes := m.closes + 1 }) h.metrics⟩
    · simp only [h.table]
      exact deliverAllInboxes _ _ h.inboxes
    · simp only [h.table, h.warnings, service]

theorem lost (h : d.Agrees c) (service : d.service = c.service) (cause : WireError) :
    (d.lost cause).Agrees (c.lost cause) := by
  have told : Agrees { d.warn (.framingLost cause) with metrics := d.metrics.countFault }
      { c.warn (.framingLost cause) with metrics := c.metrics.countFault } :=
    ⟨h.table, h.inboxes, h.lifecycle, congrArg (· ++ _) h.warnings,
      congrArg Metrics.countFault h.metrics⟩
  exact told.close service .corrupted

end Agrees

/-- The bytes behind the last frame cannot be split, and nothing has come of it yet. -/
def alarmed (c : Connection μ) (cause : WireError) : Connection μ :=
  { c.warn (.framingLost cause) with metrics := c.metrics.countFault }

theorem lostStages (c : Connection μ) (cause : WireError) :
    c.lost cause = (c.alarmed cause).close .corrupted := rfl

theorem lostEq {c : Connection μ} (live : c.isLive = true) (cause : WireError) :
    (c.lost cause).lifecycle = .closed ∧
      (c.lost cause).metrics.protocolErrors = c.metrics.protocolErrors + 1 ∧
      (c.lost cause).warnings = c.warnings ++
        [.framingLost cause, .disconnecting c.service c.table.awaited.length .corrupted] := by
  rw [lostStages, closeLive (c := c.alarmed cause) live]
  refine ⟨rfl, rfl, ?_⟩
  simp [alarmed, warn]

theorem leaveDeaf (c : Connection μ) (buffer : List UInt8) : c.leave.reader ≠ .reading buffer := by
  unfold leave
  split <;> exact Reader.noConfusion

section Read
variable [Message μ]

theorem tallyKeepsRead (c : Connection μ) (frame : Frame) (m : Metrics) :
    (c.tally frame m).bytesRead = m.bytesRead := by
  have same : c.tally frame m = { c.tally frame m with bytesRead := m.bytesRead } :=
    tallyRead c frame m m.bytesRead
  rw [same]

theorem routeHeard (c : Connection μ) (n : Nat) (reader : Reader) (frame : Frame) :
    (c.heard n reader).route frame = (c.route frame).heard n reader := by
  have same : (c.heard n reader).RoutesAs c := ⟨rfl, rfl, rfl, rfl, rfl⟩
  have verdict := same.verdict frame
  have inboxes : (c.heard n reader).answered frame.header.correlationId (c.verdict frame) =
      c.answered frame.header.correlationId (c.verdict frame) := answeredAs rfl rfl
  have tally : (c.heard n reader).tally frame (c.heard n reader).metrics =
      { c.tally frame c.metrics with bytesRead := (c.tally frame c.metrics).bytesRead + n } := by
    refine (same.tally frame _).trans ((tallyRead c frame c.metrics _).trans ?_)
    rw [tallyKeepsRead]
  have reports := same.reports frame
  rw [routeEq, routeEq, verdict, inboxes, tally, reports]
  rfl

theorem routeAllHeard (c : Connection μ) (n : Nat) (reader : Reader) (frames : List Frame) :
    frames.foldl route (c.heard n reader) = (frames.foldl route c).heard n reader := by
  induction frames generalizing c with
  | nil => rfl
  | cons frame rest ih => rw [List.foldl_cons, List.foldl_cons, routeHeard, ih]

theorem routeAllShape (c : Connection μ) (frames : List Frame) :
    frames.foldl route c =
      { c with
        table := (frames.foldl route c).table
        inboxes := (frames.foldl route c).inboxes
        metrics := (frames.foldl route c).metrics
        warnings := (frames.foldl route c).warnings } := by
  induction frames generalizing c with
  | nil => rfl
  | cons frame rest ih =>
    rw [List.foldl_cons, ih, routeEq]

/-- What bytes come to when they are looked at as a whole. -/
def digest (c : Connection μ) (data : List UInt8) : Connection μ :=
  let run := Frame.splitAll c.config.maxFrameSize data
  let c := run.frames.foldl route c
  match run.fault with
  | none => c
  | some cause => c.lost cause

theorem routeAllRead (c : Connection μ) (frames : List Frame) :
    (frames.foldl route c).metrics.bytesRead = c.metrics.bytesRead := by
  induction frames generalizing c with
  | nil => rfl
  | cons frame rest ih =>
    rw [List.foldl_cons, ih, routeEq]
    exact tallyKeepsRead c frame c.metrics

theorem routingsFrames (c : Connection μ) (frames : List Frame) :
    (c.routings frames).filterMap Occurrence.routed? = frames := by
  induction frames generalizing c with
  | nil => rfl
  | cons frame rest ih => simp only [routings, List.filterMap_cons, Occurrence.routed?, ih]

theorem routingsHeard (c : Connection μ) (n : Nat) (reader : Reader) (frames : List Frame) :
    ((c.heard n reader).routings frames).map Occurrence.unheard =
      (c.routings frames).map Occurrence.unheard := by
  induction frames generalizing c with
  | nil => rfl
  | cons frame rest ih =>
    rw [routings, routings, List.map_cons, List.map_cons, routeHeard, ih]
    rfl

theorem routingsAppend (c : Connection μ) (frames more : List Frame) :
    c.routings (frames ++ more) = c.routings frames ++ (frames.foldl route c).routings more := by
  induction frames generalizing c with
  | nil => rfl
  | cons frame rest ih => exact congrArg (_ :: ·) (ih _)

/-! One read. -/

section Step
variable {c : Connection μ} {buffer data : List UInt8}

theorem readStep (reader : c.reader = .reading buffer) (up : c.shutdown = false)
    (full : data ≠ []) : c.step (.read (some (.bytes data))) = c.feed buffer data := by
  obtain ⟨b, rest, rfl⟩ := List.exists_cons_of_ne_nil full
  dsimp only [step, pollReader]
  rw [reader, up]
  rfl

theorem readOccurrences (reader : c.reader = .reading buffer) (up : c.shutdown = false)
    (full : data ≠ []) : c.occurrences (.read (some (.bytes data))) =
      (c.countRead data.length).routings
        (Frame.splitAll c.config.maxFrameSize (buffer ++ data)).frames := by
  have some : data.isEmpty = false := by simpa using full
  dsimp only [occurrences, arrivals]
  rw [reader, up, some]
  rfl

theorem readRouted (reader : c.reader = .reading buffer) (up : c.shutdown = false)
    (full : data ≠ []) : (c.occurrences (.read (some (.bytes data)))).filterMap Occurrence.routed? =
      (Frame.splitAll c.config.maxFrameSize (buffer ++ data)).frames := by
  rw [readOccurrences reader up full]
  exact routingsFrames _ _

theorem readUnheard (reader : c.reader = .reading buffer) (up : c.shutdown = false)
    (full : data ≠ []) : (c.occurrences (.read (some (.bytes data)))).map Occurrence.unheard =
      (c.routings (Frame.splitAll c.config.maxFrameSize (buffer ++ data)).frames).map
        Occurrence.unheard := by
  rw [readOccurrences reader up full]
  exact routingsHeard c data.length c.reader _

theorem feedStages (c : Connection μ) (buffer data : List UInt8) :
    c.feed buffer data =
      let run := Frame.splitAll c.config.maxFrameSize (buffer ++ data)
      let d := run.frames.foldl route (c.countRead data.length)
      match run.fault with
      | none => { d with reader := .reading run.rest }
      | some cause => (d.lost cause).leave := rfl

theorem feedEq (c : Connection μ) (buffer data : List UInt8) :
    c.feed buffer data =
      let run := Frame.splitAll c.config.maxFrameSize (buffer ++ data)
      match run.fault with
      | none => (run.frames.foldl route c).heard data.length (.reading run.rest)
      | some cause =>
        (((run.frames.foldl route c).heard data.length c.reader).lost cause).leave := by
  have counted : (Frame.splitAll c.config.maxFrameSize (buffer ++ data)).frames.foldl route
      (c.countRead data.length) = _ := routeAllHeard c data.length c.reader _
  rw [feedStages]
  dsimp only
  rw [counted]
  split <;> rfl

end Step

/-! Any number of reads. -/

def reads (chunks : List (List UInt8)) : List (Event μ) :=
  chunks.map fun data => .read (some (.bytes data))

theorem deafReads {c : Connection μ} (deaf : ∀ buffer, c.reader ≠ .reading buffer)
    (chunks : List (List UInt8)) : (c.run (reads chunks)).Agrees c ∧
      c.history (reads chunks) = [] := by
  unfold run reads
  induction chunks generalizing c with
  | nil => exact ⟨⟨rfl, rfl, rfl, rfl, rfl⟩, rfl⟩
  | cons data rest ih =>
    have silent : c.occurrences (.read (some (.bytes data))) = [] := by
      dsimp only [occurrences, arrivals]
      split
      · rename_i buffer reader
        exact absurd reader (deaf buffer)
      · rfl
    have one : (c.step (.read (some (.bytes data)))).Agrees c ∧
        ∀ buffer, (c.step (.read (some (.bytes data)))).reader ≠ .reading buffer := by
      dsimp only [step, pollReader]
      split
      · exact ⟨⟨rfl, rfl, rfl, rfl, rfl⟩, deaf⟩
      · split
        · exact ⟨⟨rfl, rfl, rfl, rfl, rfl⟩, fun _ => Reader.noConfusion⟩
        · exact ⟨⟨rfl, rfl, rfl, rfl, rfl⟩, deaf⟩
      · rename_i buffer reader
        exact absurd reader (deaf buffer)
    obtain ⟨agrees, nothing⟩ := ih one.2
    refine ⟨agrees.trans one.1, ?_⟩
    simp only [List.map_cons, history, silent, List.nil_append, nothing]

theorem readsFrom {c : Connection μ} {buffer : List UInt8} (reader : c.reader = .reading buffer)
    (up : c.shutdown = false)
    (part : Frame.splitAll c.config.maxFrameSize buffer = ⟨[], none, buffer⟩)
    {chunks : List (List UInt8)} (full : [] ∉ chunks) :
    let run := Frame.splitAll c.config.maxFrameSize (buffer ++ chunks.flatten)
    (c.history (reads chunks)).map Occurrence.unheard =
        (c.routings run.frames).map Occurrence.unheard ∧
      match run.fault with
      | none => c.run (reads chunks) =
          (run.frames.foldl route c).heard chunks.flatten.length (.reading run.rest)
      | some cause => (c.run (reads chunks)).Agrees ((run.frames.foldl route c).lost cause) := by
  -- On the reads to come; between two of them the bytes kept hold no whole frame (`part`).
  induction chunks generalizing c buffer with
  | nil =>
    simp only [List.flatten_nil, List.append_nil, part]
    refine ⟨rfl, ?_⟩
    rw [← reader]
    rfl
  | cons data rest ih =>
    obtain ⟨head, tail⟩ : data ≠ [] ∧ [] ∉ rest := by
      simpa [eq_comm (a := ([] : List UInt8))] using full
    have routed := readUnheard reader up head
    have stepped := (readStep reader up head).trans (feedEq c buffer data)
    have whole : Frame.splitAll c.config.maxFrameSize (buffer ++ (data :: rest).flatten) =
        (Frame.splitAll c.config.maxFrameSize (buffer ++ data)).andThen c.config.maxFrameSize
          rest.flatten := by
      rw [List.flatten_cons, ← List.append_assoc, Frame.splitAllAppend]
    have followed := @Frame.restPart c.config.maxFrameSize (buffer ++ data)
    rw [whole]
    generalize Frame.splitAll c.config.maxFrameSize (buffer ++ data) = first at *
    obtain ⟨frames, fault, left⟩ := first
    cases fault with
    | some cause =>
      dsimp only at stepped routed
      have deaf := leaveDeaf (((frames.foldl route c).heard data.length c.reader).lost cause)
      rw [← stepped] at deaf
      obtain ⟨agrees, nothing⟩ := deafReads deaf rest
      refine ⟨?_, ?_⟩
      · unfold reads at nothing ⊢
        rw [List.map_cons, history, nothing, List.append_nil]
        exact routed
      · refine agrees.trans ?_
        rw [stepped]
        exact (Agrees.leave _).trans (Agrees.lost (Agrees.heard _ _ _) rfl cause)
    | none =>
      dsimp only at stepped routed followed
      have shape := routeAllShape c frames
      have config : (c.step (.read (some (.bytes data)))).config = c.config := by
        rw [stepped, shape]; rfl
      have shutdown : (c.step (.read (some (.bytes data)))).shutdown = false := by
        rw [stepped, shape]; exact up
      have reading : (c.step (.read (some (.bytes data)))).reader = .reading left := by
        rw [stepped]; rfl
      have later := ih reading shutdown (by rw [config]; exact followed rfl) tail
      rw [config] at later
      dsimp only [Frame.Run.andThen] at later ⊢
      generalize Frame.splitAll c.config.maxFrameSize (left ++ rest.flatten) = second at later ⊢
      obtain ⟨others, fault, remain⟩ := second
      dsimp only at later ⊢
      obtain ⟨routedLater, end_⟩ := later
      have onward : others.foldl route (c.step (.read (some (.bytes data)))) =
          ((frames ++ others).foldl route c).heard data.length (.reading left) := by
        rw [stepped, routeAllHeard, List.foldl_append]
      rw [onward] at end_
      refine ⟨?_, ?_⟩
      · rw [stepped, routingsHeard] at routedLater
        unfold reads at routedLater ⊢
        rw [List.map_cons, history, List.map_append, routed, stepped, routedLater, routingsAppend,
          List.map_append]
      · cases fault with
        | none =>
          dsimp only at end_ ⊢
          rw [heardHeard] at end_
          rw [List.flatten_cons, List.length_append]
          exact end_
        | some cause =>
          dsimp only at end_ ⊢
          exact end_.trans (Agrees.lost (Agrees.heard _ _ _) rfl cause)

theorem readsAgree {c : Connection μ} {buffer : List UInt8} (reader : c.reader = .reading buffer)
    (up : c.shutdown = false)
    (part : Frame.splitAll c.config.maxFrameSize buffer = ⟨[], none, buffer⟩)
    {chunks : List (List UInt8)} (full : [] ∉ chunks) :
    (c.run (reads chunks)).Agrees (c.digest (buffer ++ chunks.flatten)) := by
  obtain ⟨_, all⟩ := readsFrom reader up part full
  unfold digest
  dsimp only
  split at all
  · rw [all]
    exact Agrees.heard _ _ _
  · exact all

/-- What bytes come to, whatever the reads that brought them in: the frames that were routed, the
state they left behind, and whether the stream could be followed to its end. -/
structure Digested (c : Connection μ) (data : List UInt8) (past : List (Occurrence μ))
    (d : Connection μ) : Prop where
  routed : past.filterMap Occurrence.routed? =
    (Frame.splitAll c.config.maxFrameSize data).frames
  agrees : d.Agrees (c.digest data)
  followed : (Frame.splitAll c.config.maxFrameSize data).fault = none →
    d.lifecycle = .live ∧ d.metrics.bytesRead = c.metrics.bytesRead + data.length
  corrupted : ∀ cause, (Frame.splitAll c.config.maxFrameSize data).fault = some cause →
    let routed := (Frame.splitAll c.config.maxFrameSize data).frames.foldl route c
    d.lifecycle = .closed ∧ d.metrics.protocolErrors = routed.metrics.protocolErrors + 1 ∧
      d.warnings = routed.warnings ++
        [.framingLost cause, .disconnecting c.service routed.table.awaited.length .corrupted]

theorem readsDigested {c : Connection μ} (live : c.isLive = true) (up : c.shutdown = false)
    (empty : c.reader = .reading []) {chunks : List (List UInt8)} (full : [] ∉ chunks) :
    c.Digested chunks.flatten (c.history (reads chunks)) (c.run (reads chunks)) := by
  have part : Frame.splitAll c.config.maxFrameSize [] = ⟨[], none, []⟩ := Frame.splitAllPart rfl
  obtain ⟨routed, all⟩ := readsFrom empty up part full
  rw [List.nil_append] at routed all
  have shape := routeAllShape c (Frame.splitAll c.config.maxFrameSize chunks.flatten).frames
  have bytes := routeAllRead c (Frame.splitAll c.config.maxFrameSize chunks.flatten).frames
  have alive : ((Frame.splitAll c.config.maxFrameSize chunks.flatten).frames.foldl route
      c).isLive = true := by
    rw [shape]; exact live
  have service : ((Frame.splitAll c.config.maxFrameSize chunks.flatten).frames.foldl route
      c).service = c.service := by
    rw [shape]
  refine ⟨?_, ?_, fun fault => ?_, fun cause fault => ?_⟩
  · rw [← unheardRouted, routed, unheardRouted]
    exact routingsFrames _ _
  · simpa using readsAgree empty up part full
  · rw [fault] at all
    dsimp only at all
    rw [all]
    exact ⟨beq_iff_eq.mp alive, congrArg (· + _) bytes⟩
  · rw [fault] at all
    dsimp only at all
    obtain ⟨lifecycle, errors, warnings⟩ := lostEq alive cause
    rw [service] at warnings
    have counted := congrArg Metrics.protocolErrors all.metrics
    exact ⟨all.lifecycle.trans lifecycle, counted.trans errors, all.warnings.trans warnings⟩

end Read
end Connection

/-! Where the reads come from. -/

/-- Reading from the pipe until it is empty, so many bytes at most at a time, comes to these
reads. -/
inductive Pipe.Drained (size : Nat) : Pipe → List (List UInt8) → Prop where
  | done {p : Pipe} (empty : p.inbound = []) : Drained size p []
  | read {p rest : Pipe} {data : List UInt8} {chunks : List (List UInt8)}
      (head : p.read size = some (.bytes data, rest)) (tail : Drained size rest chunks) :
      Drained size p (data :: chunks)

theorem Pipe.Drained.all {size : Nat} {p : Pipe} {chunks : List (List UInt8)}
    (h : p.Drained size chunks) {pieces : List (List UInt8)}
    (inbound : p.inbound = pieces.map .bytes) (full : [] ∉ pieces) :
    [] ∉ chunks ∧ chunks.flatten = pieces.flatten := by
  induction h generalizing pieces with
  | done empty =>
    rw [empty] at inbound
    obtain rfl : pieces = [] := by simpa using inbound.symm
    exact ⟨full, rfl⟩
  | read head tail ih =>
    cases pieces with
    | nil => simp [Pipe.read, inbound] at head
    | cons piece others =>
      obtain ⟨first, later⟩ : piece ≠ [] ∧ [] ∉ others := by
        simpa [eq_comm (a := ([] : List UInt8))] using full
      simp only [Pipe.read, inbound, List.map_cons] at head
      split at head
      · simp only [Option.some.injEq, Prod.mk.injEq, Arrival.bytes.injEq] at head
        obtain ⟨rfl, rfl⟩ := head
        obtain ⟨nonempty, same⟩ := ih rfl later
        simpa [eq_comm (a := ([] : List UInt8)), first, nonempty] using same
      · rename_i long
        simp only [Option.some.injEq, Prod.mk.injEq, Arrival.bytes.injEq] at head
        obtain ⟨rfl, rfl⟩ := head
        have left : piece.drop (max size 1) ≠ [] := by
          simp only [ne_eq, List.drop_eq_nil_iff]
          omega
        have taken : piece.take (max size 1) ≠ [] := by
          simp only [ne_eq, List.take_eq_nil_iff, not_or]
          exact ⟨by omega, first⟩
        have full : [] ∉ piece.drop (max size 1) :: others := by
          simp [eq_comm (a := ([] : List UInt8)), left, later]
        obtain ⟨nonempty, same⟩ := ih rfl full
        refine ⟨by simp [eq_comm (a := ([] : List UInt8)), taken, nonempty], ?_⟩
        rw [List.flatten_cons, same, List.flatten_cons, List.flatten_cons, ← List.append_assoc,
          List.take_append_drop]

/-- Reading comes to an end. -/
theorem Pipe.drains (size : Nat) {p : Pipe} {pieces : List (List UInt8)}
    (inbound : p.inbound = pieces.map .bytes) : ∃ chunks, p.Drained size chunks := by
  induction work : (pieces.map (·.length + 1)).sum using Nat.strongRecOn generalizing p pieces with
  | _ work ih =>
    cases pieces with
    | nil => exact ⟨[], .done inbound⟩
    | cons piece others =>
      simp only [List.map_cons, List.sum_cons] at work
      by_cases short : piece.length ≤ max size 1
      · obtain ⟨chunks, later⟩ := ih _ (by omega) (p := { p with inbound := others.map .bytes }) rfl
          rfl
        exact ⟨piece :: chunks, .read (by simp [Pipe.read, inbound, short]) later⟩
      · obtain ⟨chunks, later⟩ := ih
          (((piece.drop (max size 1) :: others).map (·.length + 1)).sum)
          (by simp only [List.map_cons, List.sum_cons, List.length_drop]; omega)
          (p := { p with inbound := (piece.drop (max size 1) :: others).map .bytes }) rfl rfl
        exact ⟨piece.take (max size 1) :: chunks,
          .read (by simp [Pipe.read, inbound, short]) later⟩

namespace Connection

theorem anyFragmentation [Message μ] {c : Connection μ} (live : c.isLive = true)
    (up : c.shutdown = false) (empty : c.reader = .reading []) :
    (∀ chunks, [] ∉ chunks →
      c.Digested chunks.flatten (c.history (reads chunks)) (c.run (reads chunks))) ∧
    ∀ (p : Pipe) (pieces : List (List UInt8)), p.inbound = pieces.map .bytes → [] ∉ pieces →
      (∃ chunks, p.Drained c.config.readBufferSize chunks) ∧
      ∀ chunks, p.Drained c.config.readBufferSize chunks →
        c.Digested pieces.flatten (c.history (reads chunks)) (c.run (reads chunks)) := by
  refine ⟨fun chunks full => readsDigested live up empty full, ?_⟩
  intro p pieces inbound full
  refine ⟨p.drains _ inbound, fun chunks drained => ?_⟩
  obtain ⟨nonempty, same⟩ := drained.all inbound full
  rw [← same]
  exact readsDigested live up empty nonempty

/-- A call waits. Its reply is cut in its length field and in its body, and behind it a length field
that covers no header is cut as well. -/
theorem cutAcrossFrames :
    let s : Setting Bench.Datastream := ⟨1, .command, .empty, {}, none, none⟩
    let c := s.start.run [.addPrototype 0x8001 Bench.ReplyType.pong.prototype,
      .submit 0 (.receive none) ⟨0, .request 0x1001 0 [] none⟩, .poll 0 0 ⟨.complete, false⟩]
    let frame : Frame := ⟨⟨24, 0, 0xE008, 0, 1, 4, 0x8001⟩, [0, 0, 0, 7]⟩
    let chunks : List (List UInt8) :=
      [[0, 0], [0, 24, 0, 0, 0xE0, 8, 0, 0, 0, 0, 0, 0, 0, 1, 0, 4, 0x80, 1, 0], [0, 0, 7, 0, 0],
        0 :: 5 :: List.replicate 16 0]
    c.isLive = true ∧ c.shutdown = false ∧ c.reader = .reading [] ∧ [] ∉ chunks ∧
      (c.history (reads chunks)).filterMap Occurrence.routed? = [frame] ∧
      (c.run (reads chunks)).lifecycle = .closed ∧
      (c.run (reads chunks)).metrics.repliesDelivered = 1 ∧
      (c.run (reads chunks)).metrics.protocolErrors = 1 := by
  intro s c frame chunks
  have split : Frame.splitAll c.config.maxFrameSize chunks.flatten =
      ⟨[frame], some (.invalidLength 5), 0 :: 0 :: 0 :: 5 :: List.replicate 16 0⟩ := by
    have first : Frame.split Frame.defaultMax chunks.flatten =
      .ok (some (frame, 0 :: 0 :: 0 :: 5 :: List.replicate 16 0)) := by decide
    rw [show c.config.maxFrameSize = Frame.defaultMax from rfl, Frame.splitAllFrame first,
      Frame.splitAllFault (e := .invalidLength 5) rfl]
  have digested := (anyFragmentation (c := c) rfl rfl rfl).1 chunks (by decide)
  have lost : c.digest chunks.flatten = (c.route frame).lost (.invalidLength 5) := by
    unfold digest
    rw [split]
    rfl
  have metrics := digested.agrees.metrics
  rw [lost] at metrics
  have counted : ((c.route frame).lost (.invalidLength 5)).metrics.repliesDelivered = 1 ∧
      ((c.route frame).lost (.invalidLength 5)).metrics.protocolErrors = 1 := by decide +kernel
  have delivered := congrArg Metrics.repliesDelivered metrics
  have errors := congrArg Metrics.protocolErrors metrics
  dsimp only at delivered errors
  refine ⟨rfl, rfl, rfl, by decide, digested.routed.trans (by rw [split]), ?_,
    delivered.trans counted.1, errors.trans counted.2⟩
  rw [digested.agrees.lifecycle, lost]
  rfl

end Connection
end ServiceMux
