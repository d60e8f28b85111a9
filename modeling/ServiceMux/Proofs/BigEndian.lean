import ServiceMux.Envelope.BigEndian
import Mathlib.Algebra.Group.Nat.Defs
/-! Rows of bytes as numbers. Main statements: `valueBytes` and `bytesValue`, which make writing and
reading inverse. -/
namespace ServiceMux.BigEndian

theorem valueConcat (row : List UInt8) (b : UInt8) :
    value (row ++ [b]) = 256 * value row + b.toNat := by
  simp [value]

theorem valueBytes (width n : Nat) (h : n < 256 ^ width) : value (bytes width n) = n := by
  induction width generalizing n with
  | zero => simp only [Nat.pow_zero] at h; simp [bytes, value]; omega
  | succ width ih =>
    have small : n / 256 < 256 ^ width := by
      rw [Nat.pow_succ] at h
      exact Nat.div_lt_of_lt_mul (by omega)
    rw [bytes, valueConcat, ih _ small]
    have low : (UInt8.ofNat (n % 256)).toNat = n % 256 := by
      rw [UInt8.toNat_ofNat']
      omega
    omega

theorem valueBound (row : List UInt8) : value row < 256 ^ row.length := by
  induction size : row.length generalizing row with
  | zero => simp [List.length_eq_zero_iff.1 size, value]
  | succ n ih =>
    obtain rfl | ⟨front, b, rfl⟩ := List.eq_nil_or_concat row
    · simp at size
    · have small := ih front (by simpa using size)
      have := b.toNat_lt
      rw [List.concat_eq_append, valueConcat, Nat.pow_succ]
      omega

theorem bytesValue (row : List UInt8) : bytes row.length (value row) = row := by
  induction size : row.length generalizing row with
  | zero => simp [List.length_eq_zero_iff.1 size, bytes]
  | succ n ih =>
    obtain rfl | ⟨front, b, rfl⟩ := List.eq_nil_or_concat row
    · simp at size
    · have again := ih front (by simpa using size)
      have := b.toNat_lt
      rw [List.concat_eq_append, bytes, valueConcat]
      have high : (256 * value front + b.toNat) / 256 = value front := by omega
      have low : (256 * value front + b.toNat) % 256 = b.toNat := by omega
      rw [high, low, again, UInt8.ofNat_toNat]

end ServiceMux.BigEndian
