import ServiceMux.Envelope.Header
/-! Frames: a header and the body that its length field covers. Main statements: a frame takes at
least a header's worth of bytes (`restShorter`), so splitting a stream into frames ends. -/
namespace ServiceMux

structure Frame where
  header : Header
  body : List UInt8
  deriving DecidableEq, Repr

namespace Frame

def defaultMax : Nat := 16 * 1024 * 1024

/-- No length field can hold more. -/
def lengthLimit : Nat := UInt32.size - 1

def encode (header : Header) (body : List UInt8) (max : Nat) : Except WireError (List UInt8) :=
  let total := Header.size + body.length
  if max < total ∨ lengthLimit < total then .error (.frameTooLarge total max)
  else .ok ({ header with length := UInt32.ofNat total }.encode ++ body)

/-- Refuses a length field that covers no header, or more than `max`. -/
def checkLength (header : Header) (max : Nat) : Except WireError Unit :=
  if header.length.toNat < Header.size then .error (.invalidLength header.length)
  else if max < header.length.toNat then .error (.frameTooLarge header.length.toNat max)
  else .ok ()

/-- The first frame of the data and what follows it; nothing yet if the data ends inside it. -/
def split (max : Nat) (data : List UInt8) : Except WireError (Option (Frame × List UInt8)) :=
  if data.length < Header.size then .ok none
  else
    match Header.decode data with
    | .error e => .error e
    | .ok header =>
      match checkLength header max with
      | .error e => .error e
      | .ok () =>
        let total := header.length.toNat
        if data.length < total then .ok none
        else .ok (some (⟨header, (data.take total).drop Header.size⟩, data.drop total))

theorem restShorter {max : Nat} {data rest : List UInt8} {frame : Frame}
    (h : split max data = .ok (some (frame, rest))) :
    Header.size ≤ data.length - rest.length ∧ rest.length < data.length := by
  unfold split at h
  split at h
  · simp at h
  split at h
  · simp at h
  rename_i header _
  split at h
  · simp at h
  rename_i checked
  unfold checkLength at checked
  split at checked
  · simp at checked
  split at checked
  · simp at checked
  dsimp only at h
  split at h
  · simp at h
  simp only [Except.ok.injEq, Option.some.injEq, Prod.mk.injEq] at h
  rw [← h.2]
  simp only [List.length_drop, Header.size] at *
  omega

/-- The outcome of taking frame after frame off the front of a stream. -/
structure Run where
  frames : List Frame
  /-- Why the stream cannot be followed any further, if it cannot. -/
  fault : Option WireError
  /-- The bytes behind the last frame. -/
  rest : List UInt8
  deriving DecidableEq, Repr

def splitAll (max : Nat) (data : List UInt8) : Run :=
  match _taken : split max data with
  | .error e => ⟨[], some e, data⟩
  | .ok none => ⟨[], none, data⟩
  | .ok (some (frame, rest)) =>
    let run := splitAll max rest
    ⟨frame :: run.frames, run.fault, run.rest⟩
termination_by data.length
decreasing_by exact (restShorter ‹_›).2

end Frame
end ServiceMux
