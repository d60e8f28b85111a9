import ServiceMux.Text.Record
/-! Bytes that are no frame. -/
namespace ServiceMux

inductive WireError where
  | insufficientData (needed present : Nat)
  /-- A length that does not even cover the header. -/
  | invalidLength (length : UInt32)
  | frameTooLarge (size max : Nat)
  deriving DecidableEq, Repr

namespace WireError
open Text

/-- Whether it is lost where the next frame starts. -/
def isFatal : WireError → Bool
  | insufficientData .. => false
  | invalidLength _ => true
  | frameTooLarge .. => true

def kind : WireError → String
  | insufficientData .. => "InsufficientData"
  | invalidLength _ => "InvalidLength"
  | frameTooLarge .. => "FrameTooLarge"

def message : WireError → String
  | insufficientData needed present =>
    "insufficient data: need " ++ toString needed ++ " bytes, have " ++ toString present
  | invalidLength length => "invalid frame length: " ++ toString length.toNat
  | frameTooLarge size max =>
    "frame too large: " ++ toString size ++ " bytes (max " ++ toString max ++ ")"

def inspect (e : WireError) : String :=
  record e.kind <| match e with
    | insufficientData needed present =>
      [("needed", toString needed), ("have", toString present)]
    | invalidLength length => [("length", toString length.toNat)]
    | frameTooLarge size max => [("size", toString size), ("max", toString max)]

end WireError
end ServiceMux
