import ServiceMux.Proofs.Replies
import ServiceMux.Proofs.Verdicts
/-! What the reader keeps of a stream. Main statements: a buffer is gone over from offset to offset,
twenty bytes at a time at least and never past its end, whatever it holds (`drains`,
`Drains.bounds`), and that comes to what splitting it comes to (`Drains.splits`); so what is kept
between two reads is the end of the stream, and shorter than any frame that could still come of it
(`bufferStaysSmall`). -/
namespace ServiceMux

namespace Frame
variable {limit offset last : Nat} {buffer data : List UInt8}

/-- The bytes from one place of a buffer to another, if it has them all. -/
def slice? (buffer : List UInt8) (first past : Nat) : Option (List UInt8) :=
  if first ≤ past ∧ past ≤ buffer.length then some ((buffer.take past).drop first) else none

structure Cut where
  offset : Nat
  taken : Nat
  frame : Frame
  deriving DecidableEq, Repr

/-- Going over a buffer from an offset on, frame after frame, and where that stops. From a place
outside of the buffer there is no way on. -/
inductive Drains (limit : Nat) (buffer : List UInt8) :
    Nat → List Cut → Option WireError → Nat → Prop where
  | waits {offset : Nat} {data : List UInt8}
      (ahead : slice? buffer offset buffer.length = some data)
      (undecided : verdict limit data = .ok none) : Drains limit buffer offset [] none offset
  | refuses {offset : Nat} {data : List UInt8} {e : WireError}
      (ahead : slice? buffer offset buffer.length = some data)
      (refused : verdict limit data = .error e) : Drains limit buffer offset [] (some e) offset
  | takes {offset n last : Nat} {data body : List UInt8} {header : Header} {cuts : List Cut}
      {fault : Option WireError} (ahead : slice? buffer offset buffer.length = some data)
      (found : verdict limit data = .ok (some (header, n)))
      (inside : slice? buffer (offset + Header.size) (offset + n) = some body)
      (further : Drains limit buffer (offset + n) cuts fault last) :
      Drains limit buffer offset (⟨offset, n, ⟨header, body⟩⟩ :: cuts) fault last

theorem sliceIff {first past : Nat} : slice? buffer first past = some data ↔
    first ≤ past ∧ past ≤ buffer.length ∧ data = (buffer.take past).drop first := by
  unfold slice?
  split
  · rename_i inside
    simp [inside, eq_comm]
  · rename_i outside
    simp only [reduceCtorEq, false_iff]
    exact fun ⟨order, within, _⟩ => outside ⟨order, within⟩

theorem sliceAhead : slice? buffer offset buffer.length = some data ↔
    offset ≤ buffer.length ∧ data = buffer.drop offset := by
  simp [sliceIff]

theorem drains (limit : Nat) (within : offset ≤ buffer.length) :
    ∃ cuts fault last, Drains limit buffer offset cuts fault last := by
  -- On what is ahead: each frame takes some of it.
  induction left : buffer.length - offset using Nat.strongRecOn generalizing offset with
  | _ left ih =>
    have ahead := sliceAhead.mpr ⟨within, rfl⟩
    cases judged : verdict limit (buffer.drop offset) with
    | error e => exact ⟨[], some e, offset, .refuses ahead judged⟩
    | ok found =>
      cases found with
      | none => exact ⟨[], none, offset, .waits ahead judged⟩
      | some pair =>
        obtain ⟨header, n⟩ := pair
        obtain ⟨-, -, covers, -, whole, -⟩ := verdictFrame judged
        rw [List.length_drop] at whole
        have positive : 0 < n := Nat.lt_of_lt_of_le (by decide) covers
        have inside : offset + n ≤ buffer.length := by omega
        obtain ⟨cuts, fault, last, further⟩ :=
          ih (buffer.length - (offset + n)) (by omega) inside rfl
        exact ⟨_, fault, last, .takes ahead judged (sliceIff.mpr ⟨by omega, inside, rfl⟩) further⟩

namespace Drains
variable {cuts : List Cut} {fault : Option WireError}

theorem bounds (h : Drains limit buffer offset cuts fault last) :
    (∀ cut ∈ cuts, Header.size ≤ cut.taken ∧ cut.offset + cut.taken ≤ buffer.length) ∧
      offset + Header.size * cuts.length ≤ last ∧ last ≤ buffer.length := by
  induction h with
  | waits ahead | refuses ahead => exact ⟨nofun, Nat.le_refl _, (sliceAhead.mp ahead).1⟩
  | takes ahead found inside further ih =>
    obtain ⟨later, many, stops⟩ := ih
    have covers := (verdictFrame found).2.2.1
    refine ⟨List.forall_mem_cons.mpr ⟨⟨covers, (sliceIff.mp inside).2.1⟩, later⟩, ?_, stops⟩
    rw [List.length_cons, Nat.mul_succ]
    omega

theorem splits (h : Drains limit buffer offset cuts fault last) :
    splitAll limit (buffer.drop offset) = ⟨cuts.map Cut.frame, fault, buffer.drop last⟩ := by
  induction h with
  | waits ahead undecided =>
    obtain ⟨-, rfl⟩ := sliceAhead.mp ahead
    exact splitAllPart (verdictNone.mp undecided)
  | refuses ahead refused =>
    obtain ⟨-, rfl⟩ := sliceAhead.mp ahead
    exact splitAllFault (verdictError.mp refused)
  | @takes offset n last data body header cuts fault ahead found inside further ih =>
    obtain ⟨-, rfl⟩ := sliceAhead.mp ahead
    obtain ⟨-, -, rfl⟩ := sliceIff.mp inside
    have split := (verdictFrame found).2.2.2.2.2
    have body : ((buffer.drop offset).take n).drop Header.size =
        (buffer.take (offset + n)).drop (offset + Header.size) := by
      rw [List.take_drop, List.drop_drop]
    rw [body, List.drop_drop] at split
    rw [splitAllFrame split, ih]
    rfl

end Drains

theorem keptPart (part : splitAll limit data = ⟨[], none, data⟩) : split limit data = .ok none := by
  cases taken : split limit data with
  | error e =>
    rw [splitAllFault taken] at part
    cases part
  | ok found =>
    cases found with
    | none => rfl
    | some pair =>
      obtain ⟨frame, rest⟩ := pair
      rw [splitAllFrame taken] at part
      cases part

theorem keptShort (h : (splitAll limit data).fault = none) :
    (splitAll limit data).rest.length < max Header.size limit := by
  rcases splitWaits.mp (keptPart (restPart h)) with short | ⟨-, fits, cut⟩
  · omega
  · omega

theorem splitAllWhole (limit : Nat) (data : List UInt8) :
    ∃ chunks, List.Forall₂ (WrittenAs limit) (splitAll limit data).frames chunks ∧
      data = chunks.flatten ++ (splitAll limit data).rest := by
  induction size : data.length using Nat.strongRecOn generalizing data with
  | _ size ih =>
    cases taken : split limit data with
    | error e =>
      rw [splitAllFault taken]
      exact ⟨[], .nil, rfl⟩
    | ok found =>
      cases found with
      | none =>
        rw [splitAllPart taken]
        exact ⟨[], .nil, rfl⟩
      | some pair =>
        obtain ⟨frame, rest⟩ := pair
        obtain ⟨chunks, written, whole⟩ :=
          ih rest.length (by have := (restShorter taken).2; omega) rest rfl
        obtain ⟨-, -, -, -, -, behind⟩ := splitFrame.mp taken
        rw [splitAllFrame taken]
        refine ⟨_, .cons (splitIsWritten taken) written, ?_⟩
        rw [List.flatten_cons, List.append_assoc, ← whole, behind, List.take_append_drop]

end Frame

theorem Pipe.readFits {p rest : Pipe} {size : Nat} {data : List UInt8}
    (h : p.read size = some (.bytes data, rest)) : data.length ≤ max size 1 := by
  unfold Pipe.read at h
  split at h
  · contradiction
  · cases h
  · dsimp only at h
    split at h
    · cases h
      assumption
    · cases h
      exact List.length_take_le _ _

namespace Connection
variable {μ : Type} [Message μ] {c : Connection μ} {buffer data : List UInt8}

theorem readDrains (reader : c.reader = .reading buffer) (up : c.shutdown = false)
    (full : data ≠ []) {cuts : List Frame.Cut} {fault : Option WireError} {last : Nat}
    (h : Frame.Drains c.config.maxFrameSize (buffer ++ data) 0 cuts fault last) :
    (c.occurrences (.read (some (.bytes data)))).filterMap Occurrence.routed? =
        cuts.map Frame.Cut.frame ∧
      (fault = none →
        (c.step (.read (some (.bytes data)))).reader = .reading ((buffer ++ data).drop last)) ∧
      (fault ≠ none → ∀ kept, (c.step (.read (some (.bytes data)))).reader ≠ .reading kept) := by
  have run : Frame.splitAll c.config.maxFrameSize (buffer ++ data) = _ := h.splits
  rw [readRouted reader up full, readStep reader up full, feedEq, run]
  refine ⟨rfl, ?_, fun some => ?_⟩
  · rintro rfl
    rfl
  · obtain ⟨e, rfl⟩ := Option.ne_none_iff_exists'.mp some
    exact leaveDeaf _

theorem bufferStaysSmall (s : Setting μ) (events : List (Event μ)) :
    let c := s.start.run events
    let limit := s.config.maxFrameSize
    let bound := max Header.size limit
    let chunk := max s.config.readBufferSize 1
    (∀ buffer, (∃ cuts fault last, Frame.Drains limit buffer 0 cuts fault last) ∧
      ∀ cuts fault last, Frame.Drains limit buffer 0 cuts fault last →
        (∀ cut ∈ cuts, Header.size ≤ cut.taken ∧ cut.offset + cut.taken ≤ buffer.length) ∧
          Header.size * cuts.length ≤ last ∧ last ≤ buffer.length ∧
          (fault = none → (buffer.drop last).length < bound)) ∧
      (∀ p data rest, Pipe.read p s.config.readBufferSize = some (.bytes data, rest) →
        data.length ≤ chunk) ∧
      ∀ buffer, c.reader = .reading buffer →
        (∃ consumed, List.Forall₂ (Frame.WrittenAs limit)
            ((s.start.history events).filterMap Occurrence.routed?) consumed ∧
          s.start.inbound events = consumed.flatten ++ buffer) ∧
        buffer.length < bound ∧
        (∀ data, data.length ≤ chunk → (buffer ++ data).length < bound + chunk) ∧
        ∀ data, data ≠ [] → c.shutdown = false → ∀ cuts fault last,
          Frame.Drains limit (buffer ++ data) 0 cuts fault last →
            let read := .read (some (.bytes data))
            (c.occurrences read).filterMap Occurrence.routed? = cuts.map Frame.Cut.frame ∧
              (fault = none → (c.step read).reader = .reading ((buffer ++ data).drop last)) ∧
              (fault ≠ none → ∀ kept, (c.step read).reader ≠ .reading kept) := by
  intro c limit bound chunk
  have config : c.config = s.config := (runFixed s.start events).2
  have followed := runFollows s events
  refine ⟨fun buffer => ⟨Frame.drains limit (Nat.zero_le _), fun cuts fault last h => ?_⟩,
    fun p data rest => Pipe.readFits, fun buffer reader => ?_⟩
  · obtain ⟨inside, many, stops⟩ := h.bounds
    rw [Nat.zero_add] at many
    refine ⟨inside, many, stops, ?_⟩
    rintro rfl
    have run : Frame.splitAll limit buffer = _ := h.splits
    have followed : (Frame.splitAll limit buffer).fault = none := by rw [run]
    have short := Frame.keptShort followed
    rwa [run] at short
  · obtain ⟨fault, rest⟩ := followed.reading buffer reader
    have frames := followed.frames
    rw [config] at fault rest frames
    have short : buffer.length < bound := by
      rw [← rest]
      exact Frame.keptShort fault
    refine ⟨?_, short, fun data fits => ?_, fun data full up cuts fault last h => ?_⟩
    · obtain ⟨consumed, written, whole⟩ := Frame.splitAllWhole limit (s.start.inbound events)
      rw [frames]
      exact ⟨consumed, written, whole.trans (by rw [rest])⟩
    · rw [List.length_append]
      omega
    · refine readDrains reader up full ?_
      rwa [config]

/-- The longest frame lacks its last byte, and the next read brings in as much as it may. -/
theorem lastByteMissing :
    let s : Setting Bench.Datastream :=
      ⟨1, .file, .empty, { maxFrameSize := 24, readBufferSize := 23 }, none, none⟩
    let part : List UInt8 := 0 :: 0 :: 0 :: 24 :: List.replicate 19 0
    (s.start.run [.read (some (.bytes part))]).reader = .reading part ∧
      part.length < max Header.size 24 ∧ part.length + 1 = max Header.size 24 ∧
      part.length ≤ max 23 1 ∧ (part ++ part).length < max Header.size 24 + max 23 1 ∧
      (part ++ part).length + 1 = max Header.size 24 + max 23 1 := by
  intro s part
  have reader : (s.start.run [.read (some (.bytes part))]).reader = .reading part := by
    have fed : s.start.step (.read (some (.bytes part))) = s.start.feed [] part :=
      readStep rfl rfl (by decide)
    change (s.start.step (.read (some (.bytes part)))).reader = .reading part
    rw [fed, feedEq, Frame.splitAllPart (by decide)]
    rfl
  obtain ⟨-, short, room, -⟩ :=
    (bufferStaysSmall s [.read (some (.bytes part))]).2.2 part reader
  exact ⟨reader, short, by decide, by decide, room part (by decide), by decide⟩

end Connection
end ServiceMux
