import Mathlib.Data.List.Forall2
import ServiceMux.Proofs.BigEndian
import ServiceMux.Proofs.Framing
/-! Writing frames and splitting them off again. Main statements: a header reads back as it was
written (`decodeEncode`, `encodeDecode`), a frame that fits is split off whole, and what is split
off is a frame written (`writtenIsSplit`, `splitIsWritten`); so a stream of frames that ends inside
a further one splits into just these frames (`splittingUndoesWriting`). -/
namespace ServiceMux

namespace Header
open BigEndian

/-! Each field, and then the header. -/

theorem bytes16Word (a b : UInt8) : bytes16 (word16 a b) = [a, b] := by
  have small : value [a, b] < 256 ^ 2 := valueBound [a, b]
  unfold bytes16 word16
  rw [UInt16.toNat_ofNat_of_lt' (Nat.lt_of_lt_of_eq small (by decide))]
  exact bytesValue [a, b]

theorem bytes32Word (a b c d : UInt8) : bytes32 (word32 a b c d) = [a, b, c, d] := by
  have small : value [a, b, c, d] < 256 ^ 4 := valueBound [a, b, c, d]
  unfold bytes32 word32
  rw [UInt32.toNat_ofNat_of_lt' (Nat.lt_of_lt_of_eq small (by decide))]
  exact bytesValue [a, b, c, d]

theorem word16Bytes (n : UInt16) : ∃ a b, bytes16 n = [a, b] ∧ word16 a b = n := by
  refine ⟨_, _, rfl, ?_⟩
  have same : value (bytes 2 n.toNat) = n.toNat := valueBytes 2 n.toNat n.toNat_lt
  exact (congrArg UInt16.ofNat same).trans UInt16.ofNat_toNat

theorem word32Bytes (n : UInt32) : ∃ a b c d, bytes32 n = [a, b, c, d] ∧ word32 a b c d = n := by
  refine ⟨_, _, _, _, rfl, ?_⟩
  have same : value (bytes 4 n.toNat) = n.toNat := valueBytes 4 n.toNat n.toNat_lt
  exact (congrArg UInt32.ofNat same).trans UInt32.ofNat_toNat

theorem decodeEncode (h : Header) (more : List UInt8) : decode (h.encode ++ more) = .ok h := by
  obtain ⟨length, headerId, serverId, instanceId, correlationId, templateLength, replyId⟩ := h
  obtain ⟨_, _, _, _, lengthBytes, rfl⟩ := word32Bytes length
  obtain ⟨_, _, headerBytes, rfl⟩ := word16Bytes headerId
  obtain ⟨_, _, serverBytes, rfl⟩ := word16Bytes serverId
  obtain ⟨_, _, _, _, instanceBytes, rfl⟩ := word32Bytes instanceId
  obtain ⟨_, _, _, _, correlationBytes, rfl⟩ := word32Bytes correlationId
  obtain ⟨_, _, templateBytes, rfl⟩ := word16Bytes templateLength
  obtain ⟨_, _, replyBytes, rfl⟩ := word16Bytes replyId
  unfold encode
  rw [lengthBytes, headerBytes, serverBytes, instanceBytes, correlationBytes, templateBytes,
    replyBytes]
  rfl

theorem encodeDecode {data : List UInt8} {h : Header} (decoded : decode data = .ok h) :
    h.encode = data.take size := by
  unfold decode at decoded
  split at decoded
  · cases decoded
    unfold encode
    rw [bytes32Word, bytes16Word, bytes16Word, bytes32Word, bytes32Word, bytes16Word, bytes16Word]
    rfl
  · contradiction

end Header

namespace Frame
variable {max : Nat} {data rest : List UInt8} {frame : Frame}

/-- The frame as it goes out: its length field covers it. -/
def sized (f : Frame) : Frame :=
  { f with header := { f.header with length := UInt32.ofNat (Header.size + f.body.length) } }

/-- These bytes are what the frame is written as. -/
def WrittenAs (max : Nat) (f : Frame) (bytes : List UInt8) : Prop :=
  encode f.header f.body max = .ok bytes

theorem encodesIff {header : Header} {body : List UInt8} :
    (∃ bytes, encode header body max = .ok bytes) ↔
      Header.size + body.length ≤ min max lengthLimit := by
  unfold encode
  dsimp only
  split
  · simp only [reduceCtorEq, exists_false, false_iff]
    omega
  · simp only [Except.ok.injEq, exists_eq', true_iff]
    omega

theorem written {bytes : List UInt8} (h : frame.WrittenAs max bytes) :
    Header.size + frame.body.length ≤ max ∧
      frame.sized.header.length.toNat = Header.size + frame.body.length ∧
      bytes = frame.sized.header.encode ++ frame.body := by
  have fits := encodesIff.mp ⟨bytes, h⟩
  unfold WrittenAs encode at h
  dsimp only at h
  split at h
  · contradiction
  · cases h
    refine ⟨by omega, UInt32.toNat_ofNat_of_lt' ?_, rfl⟩
    have under : Header.size + frame.body.length ≤ lengthLimit := by omega
    exact Nat.lt_of_le_of_lt under (by decide)

theorem writtenLength {bytes : List UInt8} (h : frame.WrittenAs max bytes) :
    bytes.length = Header.size + frame.body.length := by
  rw [(written h).2.2, List.length_append, Header.encodeLength]

theorem checkedLength {header : Header} : checkLength header max = .ok () ↔
    Header.size ≤ header.length.toNat ∧ header.length.toNat ≤ max := by
  unfold checkLength
  split
  · simp only [reduceCtorEq, false_iff]
    omega
  · split
    · simp only [reduceCtorEq, false_iff]
      omega
    · simp only [true_iff]
      omega

theorem writtenIsSplit {bytes : List UInt8} (h : frame.WrittenAs max bytes) (tail : List UInt8) :
    split max (bytes ++ tail) = .ok (some (frame.sized, tail)) := by
  have long := writtenLength h
  obtain ⟨fits, covers, rfl⟩ := written h
  refine splitFrame.mpr ⟨?_, ?_, checkedLength.mpr ?_, ?_, ?_, ?_⟩
  · rw [List.length_append]; omega
  · rw [List.append_assoc, Header.decodeEncode]
  · omega
  · rw [List.length_append]; omega
  · rw [covers, ← long, List.take_left]
    exact (List.drop_left' (Header.encodeLength _)).symm
  · rw [covers, ← long, List.drop_left]

theorem splitIsWritten (h : split max data = .ok (some (frame, rest))) :
    frame.WrittenAs max (data.take frame.header.length.toNat) := by
  obtain ⟨long, decoded, checked, whole, body, -⟩ := splitFrame.mp h
  obtain ⟨covers, bounded⟩ := checkedLength.mp checked
  have small := frame.header.length.toNat_lt
  have bodySize : Header.size + frame.body.length = frame.header.length.toNat := by
    rw [body, List.length_drop, List.length_take]
    omega
  unfold WrittenAs encode
  dsimp only
  have under : frame.header.length.toNat ≤ lengthLimit := Nat.le_of_lt_succ small
  rw [if_neg (by omega), bodySize, UInt32.ofNat_toNat,
    Header.encodeDecode decoded, body]
  refine congrArg Except.ok ?_
  calc data.take Header.size ++ (data.take frame.header.length.toNat).drop Header.size
      = (data.take frame.header.length.toNat).take Header.size ++
          (data.take frame.header.length.toNat).drop Header.size := by
        rw [List.take_take, Nat.min_eq_left covers]
    _ = data.take frame.header.length.toNat := List.take_append_drop _ _

/-! Streams of frames. -/

theorem partIsKept {part last : List UInt8} (h : frame.WrittenAs max last) (begins : part <+: last)
    (proper : part ≠ last) : split max part = .ok none := by
  obtain ⟨more, rfl⟩ := begins
  have shorter : part.length < (part ++ more).length := by
    rw [List.length_append]
    have : 0 < more.length := List.length_pos_iff.mpr fun none => proper (by simp [none])
    omega
  have long := writtenLength h
  obtain ⟨fits, covers, whole⟩ := written h
  unfold split
  split
  · rfl
  · rename_i header
    have decoded : Header.decode part = .ok frame.sized.header := by
      rw [← Header.decodeMore (Nat.le_of_not_lt header) more, whole, Header.decodeEncode]
    rw [decoded]
    dsimp only
    rw [checkedLength.mpr (by omega)]
    dsimp only
    rw [if_pos (by omega)]

theorem splitAllWritten {frames : List Frame} {chunks : List (List UInt8)}
    (h : List.Forall₂ (WrittenAs max) frames chunks) {part : List UInt8}
    (kept : split max part = .ok none) :
    splitAll max (chunks.flatten ++ part) = ⟨frames.map sized, none, part⟩ := by
  induction h with
  | nil => exact splitAllPart kept
  | cons first _ ih =>
    rw [List.flatten_cons, List.append_assoc, splitAllFrame (writtenIsSplit first _), ih]
    rfl

theorem splittingUndoesWriting (max : Nat) :
    (∀ header body, (∃ bytes, encode header body max = .ok bytes) ↔
        Header.size + body.length ≤ min max lengthLimit) ∧
      (∀ header body bytes, encode header body max = .ok bytes → ∀ tail,
        let length := Header.size + body.length
        bytes.length = length ∧ (UInt32.ofNat length).toNat = length ∧
          split max (bytes ++ tail) =
            .ok (some (⟨{ header with length := UInt32.ofNat length }, body⟩, tail))) ∧
      (∀ data header body rest, split max data = .ok (some (⟨header, body⟩, rest)) →
        let n := header.length.toNat
        Header.size ≤ n ∧ n ≤ data.length ∧ n ≤ max ∧ header.bodyLength = n - Header.size ∧
          body = (data.take n).drop Header.size ∧ rest = data.drop n ∧
          encode header body max = .ok (data.take n)) ∧
      ∀ frames chunks, List.Forall₂ (WrittenAs max) frames chunks →
        ∀ further last part, WrittenAs max further last → part <+: last → part ≠ last →
          splitAll max (chunks.flatten ++ part) = ⟨frames.map sized, none, part⟩ := by
  refine ⟨fun _ _ => encodesIff, fun header body bytes h tail => ?_,
    fun data header body rest h => ?_, fun frames chunks h further last part hl begins proper =>
      splitAllWritten h (partIsKept hl begins proper)⟩
  · have h : WrittenAs max ⟨header, body⟩ bytes := h
    exact ⟨writtenLength h, (written h).2.1, writtenIsSplit h tail⟩
  · obtain ⟨_, _, checked, whole, taken, left⟩ := splitFrame.mp h
    obtain ⟨covers, bounded⟩ := checkedLength.mp checked
    exact ⟨covers, whole, bounded, rfl, taken, left, splitIsWritten h⟩

theorem frameAndPartSplit :
    let header : Header := ⟨0, 7, 1, 258, 3, 4, 5⟩
    let frame : List UInt8 := [0, 0, 0, 22, 0, 7, 0, 1, 0, 0, 1, 2, 0, 0, 0, 3, 0, 4, 0, 5, 8, 9]
    encode header [8, 9] 32 = .ok frame ∧
      splitAll 32 (frame ++ frame.take 21) =
        ⟨[⟨{ header with length := 22 }, [8, 9]⟩], none, frame.take 21⟩ := by
  intro header frame
  have single : encode header [8, 9] 32 = .ok frame := by decide
  exact ⟨single, (splittingUndoesWriting 32).2.2.2 [⟨header, [8, 9]⟩] [frame]
    (.cons single .nil) ⟨header, [8, 9]⟩ frame (frame.take 21) single (frame.take_prefix 21)
    (by decide)⟩

end Frame
end ServiceMux
