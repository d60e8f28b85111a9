import ServiceMux.Proofs.Encoding
/-! What the front of a stream is judged to be. Main statements: the length field decides, as soon
as the header is there; a frame is waited for only while bytes of it are missing (`splitWaits`), and
a length that cannot be followed is refused at once (`splitRefuses`); once there is a verdict, more
bytes do not change it (`verdictStands`). -/
namespace ServiceMux

namespace Header
open BigEndian
variable {data : List UInt8}

/-- What the first four bytes give as the size of the frame. -/
def lengthField (data : List UInt8) : Nat := value (data.take 4)

theorem decodeLong (long : size ≤ data.length) :
    ∃ header, decode data = .ok header ∧ header.length.toNat = lengthField data := by
  iterate 20
    obtain _ | ⟨_, data⟩ := data
    · simp [size] at long
  refine ⟨_, rfl, UInt32.toNat_ofNat_of_lt' ?_⟩
  exact Nat.lt_of_lt_of_eq (valueBound _) (show 256 ^ 4 = UInt32.size by decide)

end Header

namespace Frame
variable {max : Nat} {data : List UInt8} {e : WireError}

/-- The header of the first frame and the bytes that the frame takes, once it is there. -/
def verdict (max : Nat) (data : List UInt8) : Except WireError (Option (Header × Nat)) :=
  (split max data).map fun found =>
    found.map fun (frame, rest) => (frame.header, data.length - rest.length)

theorem refusedLength {header : Header} : checkLength header max = .error e ↔
    header.length.toNat < Header.size ∧ e = .invalidLength header.length ∨
      Header.size ≤ header.length.toNat ∧ max < header.length.toNat ∧
        e = .frameTooLarge header.length.toNat max := by
  unfold checkLength
  split
  · rename_i under
    simp [under, Nat.not_le.mpr under, eq_comm]
  · rename_i covers
    split
    · rename_i exceeds
      simp [covers, Nat.le_of_not_lt covers, exceeds, eq_comm]
    · rename_i fits
      simp [covers, fits]

theorem splitRefuses : split max data = .error e ↔ Header.size ≤ data.length ∧
    (Header.lengthField data < Header.size ∧ e = .invalidLength (.ofNat (Header.lengthField data)) ∨
      Header.size ≤ Header.lengthField data ∧ max < Header.lengthField data ∧
        e = .frameTooLarge (Header.lengthField data) max) := by
  rw [splitFault, and_congr_right_iff]
  intro long
  obtain ⟨header, decoded, field⟩ := Header.decodeLong long
  simp only [decoded, reduceCtorEq, false_or, Except.ok.injEq, exists_eq_left', refusedLength]
  rw [← field, UInt32.ofNat_toNat]

theorem splitWaits : split max data = .ok none ↔ data.length < Header.size ∨
    Header.size ≤ Header.lengthField data ∧ Header.lengthField data ≤ max ∧
      data.length < Header.lengthField data := by
  unfold split
  split
  · rename_i short
    simp [short]
  · rename_i long
    obtain ⟨header, decoded, field⟩ := Header.decodeLong (Nat.le_of_not_lt long)
    rw [decoded, ← field]
    dsimp only
    split
    · rename_i refused
      obtain ⟨under, -⟩ | ⟨-, exceeds, -⟩ := refusedLength.mp refused
      · simp [long, Nat.not_le.mpr under]
      · simp [long, Nat.not_le.mpr exceeds]
    · rename_i checked
      obtain ⟨covers, fits⟩ := checkedLength.mp checked
      split
      · rename_i cut
        simp [covers, fits, cut]
      · rename_i whole
        simp [long, whole]

theorem verdictMore (decided : verdict max data ≠ .ok none) (more : List UInt8) :
    verdict max (data ++ more) = verdict max data := by
  unfold verdict at decided ⊢
  cases found : split max data with
  | error e => rw [faultMore found]; rfl
  | ok first =>
    cases first with
    | none => rw [found] at decided; exact absurd rfl decided
    | some pair =>
      obtain ⟨frame, rest⟩ := pair
      rw [splitMore found]
      simp only [Except.map, Option.map, List.length_append, Nat.add_sub_add_right]

theorem verdictError : verdict max data = .error e ↔ split max data = .error e := by
  unfold verdict
  cases split max data <;> simp [Except.map]

theorem verdictNone : verdict max data = .ok none ↔ split max data = .ok none := by
  unfold verdict
  cases split max data <;> simp [Except.map]

theorem verdictFrame {header : Header} {n : Nat} (h : verdict max data = .ok (some (header, n))) :
    Header.decode data = .ok header ∧ n = Header.lengthField data ∧ Header.size ≤ n ∧ n ≤ max ∧
      n ≤ data.length ∧ split max data =
        .ok (some (⟨header, (data.take n).drop Header.size⟩, data.drop n)) := by
  unfold verdict at h
  cases found : split max data with
  | error e => rw [found] at h; contradiction
  | ok first =>
    cases first with
    | none => rw [found] at h; cases h
    | some pair =>
      obtain ⟨frame, rest⟩ := pair
      obtain ⟨long, decoded, checked, whole, body, rfl⟩ := splitFrame.mp found
      obtain ⟨covers, fits⟩ := checkedLength.mp checked
      obtain ⟨header', decoded', field⟩ := Header.decodeLong long
      obtain rfl : frame.header = header' := by rw [decoded] at decoded'; cases decoded'; rfl
      have taken : data.length - (data.drop frame.header.length.toNat).length =
          frame.header.length.toNat := by
        rw [List.length_drop]; omega
      rw [found] at h
      simp only [Except.map, Option.map, taken, Except.ok.injEq, Option.some.injEq,
        Prod.mk.injEq] at h
      obtain ⟨rfl, rfl⟩ := h
      exact ⟨decoded, field, covers, fits, whole, by rw [← body]⟩

theorem verdictStands (max : Nat) (data more : List UInt8) :
    (verdict max data ≠ .ok none → verdict max (data ++ more) = verdict max data) ∧
      (∀ header n, verdict max data = .ok (some (header, n)) →
        Header.decode data = .ok header ∧ n = Header.lengthField data ∧ split max (data ++ more) =
          .ok (some (⟨header, (data.take n).drop Header.size⟩, data.drop n ++ more))) ∧
      (verdict max data = .ok none ↔ data.length < Header.size ∨
        Header.size ≤ Header.lengthField data ∧ Header.lengthField data ≤ max ∧
          data.length < Header.lengthField data) ∧
      (∀ e, verdict max data = .error e ↔ Header.size ≤ data.length ∧
        (Header.lengthField data < Header.size ∧
            e = .invalidLength (.ofNat (Header.lengthField data)) ∨
          Header.size ≤ Header.lengthField data ∧ max < Header.lengthField data ∧
            e = .frameTooLarge (Header.lengthField data) max)) ∧
      ∀ e, verdict max data = .error e →
        e.isFatal = true ∧ ∀ needed present, e ≠ .insufficientData needed present := by
  refine ⟨fun decided => verdictMore decided more, fun header n found => ?_,
    verdictNone.trans splitWaits, fun e => verdictError.trans splitRefuses, fun e refused => ?_⟩
  · obtain ⟨decoded, field, -, -, -, first⟩ := verdictFrame found
    exact ⟨decoded, field, splitMore first more⟩
  · obtain ⟨-, ⟨-, rfl⟩ | ⟨-, -, rfl⟩⟩ := splitRefuses.mp (verdictError.mp refused)
    · exact ⟨rfl, nofun⟩
    · exact ⟨rfl, nofun⟩

end Frame
end ServiceMux
