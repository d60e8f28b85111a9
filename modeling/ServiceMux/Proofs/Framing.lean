import ServiceMux.Envelope.Frame
/-! Splitting a stream that comes in pieces. Main statements: more bytes change nothing of the
frames that are complete, nor of a length field that cannot be trusted (`splitMore`, `faultMore`),
so splitting the pieces one after the other is splitting the whole (`splitAllAppend`). -/
namespace ServiceMux

theorem Header.decodeMore {data : List UInt8} (long : size ≤ data.length) (more : List UInt8) :
    decode (data ++ more) = decode data := by
  iterate 20
    obtain _ | ⟨_, data⟩ := data
    · simp [size] at long
  rfl

namespace Frame
variable {max : Nat} {data rest : List UInt8} {frame : Frame}

theorem splitFrame : split max data = .ok (some (frame, rest)) ↔
    Header.size ≤ data.length ∧ Header.decode data = .ok frame.header ∧
      checkLength frame.header max = .ok () ∧ frame.header.length.toNat ≤ data.length ∧
      frame.body = (data.take frame.header.length.toNat).drop Header.size ∧
      rest = data.drop frame.header.length.toNat := by
  unfold split
  constructor
  · intro h
    split at h
    · simp at h
    rename_i long
    split at h
    · contradiction
    rename_i header decoded
    split at h
    · contradiction
    rename_i checked
    dsimp only at h
    split at h
    · simp at h
    rename_i whole
    simp only [Except.ok.injEq, Option.some.injEq, Prod.mk.injEq] at h
    obtain ⟨rfl, rfl⟩ := h
    exact ⟨Nat.le_of_not_lt long, decoded, checked, Nat.le_of_not_lt whole, rfl, rfl⟩
  · rintro ⟨long, decoded, checked, whole, body, rfl⟩
    rw [if_neg (Nat.not_lt.mpr long), decoded]
    dsimp only
    rw [checked]
    dsimp only
    rw [if_neg (Nat.not_lt.mpr whole), ← body]

theorem splitFault {e : WireError} : split max data = .error e ↔
    Header.size ≤ data.length ∧ (Header.decode data = .error e ∨
      ∃ header, Header.decode data = .ok header ∧ checkLength header max = .error e) := by
  unfold split
  constructor
  · intro h
    split at h
    · contradiction
    rename_i long
    refine ⟨Nat.le_of_not_lt long, ?_⟩
    split at h
    · exact .inl (by simp_all)
    rename_i header decoded
    split at h
    · exact .inr ⟨header, decoded, by simp_all⟩
    dsimp only at h
    split at h <;> contradiction
  · rintro ⟨long, undecoded | ⟨header, decoded, refused⟩⟩
    · rw [if_neg (Nat.not_lt.mpr long), undecoded]
    · rw [if_neg (Nat.not_lt.mpr long), decoded]
      dsimp only
      rw [refused]

theorem splitMore (h : split max data = .ok (some (frame, rest))) (more : List UInt8) :
    split max (data ++ more) = .ok (some (frame, rest ++ more)) := by
  obtain ⟨long, decoded, checked, whole, body, rfl⟩ := splitFrame.mp h
  refine splitFrame.mpr ⟨?_, ?_, checked, ?_, ?_, ?_⟩
  · rw [List.length_append]; omega
  · rw [Header.decodeMore long, decoded]
  · rw [List.length_append]; omega
  · rw [List.take_append_of_le_length whole, body]
  · rw [List.drop_append_of_le_length whole]

theorem faultMore {e : WireError} (h : split max data = .error e) (more : List UInt8) :
    split max (data ++ more) = .error e := by
  obtain ⟨long, cause⟩ := splitFault.mp h
  refine splitFault.mpr ⟨by rw [List.length_append]; omega, ?_⟩
  rw [Header.decodeMore long]
  exact cause

/-! Frame after frame. -/

theorem splitAllFault {e : WireError} (h : split max data = .error e) :
    splitAll max data = ⟨[], some e, data⟩ := by
  rw [splitAll]
  split <;> simp_all

theorem splitAllPart (h : split max data = .ok none) : splitAll max data = ⟨[], none, data⟩ := by
  rw [splitAll]
  split <;> simp_all

theorem splitAllFrame (h : split max data = .ok (some (frame, rest))) :
    splitAll max data =
      ⟨frame :: (splitAll max rest).frames, (splitAll max rest).fault,
        (splitAll max rest).rest⟩ := by
  rw [splitAll]
  split <;> simp_all

/-- A run over the data is a run over its front, and then over what that leaves and the back. -/
def Run.andThen (run : Run) (max : Nat) (more : List UInt8) : Run :=
  match run.fault with
  | some _ => { run with rest := run.rest ++ more }
  | none =>
    let next := splitAll max (run.rest ++ more)
    ⟨run.frames ++ next.frames, next.fault, next.rest⟩

theorem splitAllAppend (max : Nat) (data more : List UInt8) :
    splitAll max (data ++ more) = (splitAll max data).andThen max more := by
  -- On the length: what is behind a frame is shorter, by as much as the frame took.
  induction size : data.length using Nat.strongRecOn generalizing data with
  | _ size ih =>
    cases taken : split max data with
    | error e => rw [splitAllFault taken, splitAllFault (faultMore taken more)]; rfl
    | ok found =>
      cases found with
      | none => rw [splitAllPart taken]; rfl
      | some pair =>
        obtain ⟨frame, rest⟩ := pair
        have shorter := (restShorter taken).2
        rw [splitAllFrame taken, splitAllFrame (splitMore taken more),
          ih rest.length (by omega) rest rfl]
        unfold Run.andThen
        cases (splitAll max rest).fault with
        | none => rfl
        | some e => rfl

/-- What is left behind the last frame holds no complete one. -/
theorem restPart (h : (splitAll max data).fault = none) :
    splitAll max (splitAll max data).rest = ⟨[], none, (splitAll max data).rest⟩ := by
  induction size : data.length using Nat.strongRecOn generalizing data with
  | _ size ih =>
    cases taken : split max data with
    | error e => rw [splitAllFault taken] at h; contradiction
    | ok found =>
      cases found with
      | none => rw [splitAllPart taken, splitAllPart taken]
      | some pair =>
        obtain ⟨frame, rest⟩ := pair
        have shorter := (restShorter taken).2
        rw [splitAllFrame taken] at h ⊢
        exact ih rest.length (by omega) h rfl

end Frame
end ServiceMux
