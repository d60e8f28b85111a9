import ServiceMux.Text.Quoted
import ServiceMux.Text.Record
/-! A message body that cannot be built or read. -/
namespace ServiceMux

inductive CodecError where
  | encode (reason : String)
  | decode (reason : String)
  /-- The body ends before a part of fixed size. -/
  | truncated (needed present : Nat)
  deriving DecidableEq, Repr

namespace CodecError
open Text

/-- Refuses a body of fewer than `needed` bytes. -/
def require (body : List UInt8) (needed : Nat) : Except CodecError Unit :=
  if body.length < needed then .error (.truncated needed body.length) else .ok ()

def kind : CodecError → String
  | encode _ => "Encode"
  | decode _ => "Decode"
  | truncated .. => "Truncated"

def message : CodecError → String
  | encode reason => "encode error: " ++ reason
  | decode reason => "decode error: " ++ reason
  | truncated needed present =>
    "truncated body: need " ++ toString needed ++ " bytes, have " ++ toString present

def inspect : CodecError → String
  | encode reason => tuple "Encode" [quoted reason]
  | decode reason => tuple "Decode" [quoted reason]
  | truncated needed present =>
    record "Truncated" [("needed", toString needed), ("have", toString present)]

def sources : CodecError → List String
  | encode reason => [reason]
  | decode reason => [reason]
  | truncated .. => []

end CodecError
end ServiceMux
