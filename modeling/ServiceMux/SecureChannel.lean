import ServiceMux.Json.Reader
import ServiceMux.Json.Writer
import ServiceMux.Text.Quoted
import ServiceMux.Text.Record
/-! What a provider of encrypted streams is told about the channel. -/
namespace ServiceMux

structure SecureChannel where
  /-- The name to verify the server's certificate against, if it is not the host name. -/
  serverName : Option String := none
  keyRingName : Option String := none
  keyRingPassword : Option String := none
  /-- The key ring itself, given inline. -/
  keyRingData : Option String := none
  deriving DecidableEq

namespace SecureChannel
open Text

/-- The text hides the password, and tells of the key ring only how many bytes it has. -/
def inspect (c : SecureChannel) : String :=
  record "SecureChannelOptions"
    [("server_name", optional (c.serverName.map quoted)),
      ("key_ring_name", optional (c.keyRingName.map quoted)),
      ("key_ring_password", optional (c.keyRingPassword.map fun _ => quoted "<redacted>")),
      ("key_ring_data", optional (c.keyRingData.map fun data => toString data.utf8ByteSize))]

def optionOf : Json → Option (Option String)
  | .null => some none
  | .string (some text) => some (some text)
  | _ => none

/-- A field left out is as if it were null. -/
def optionField (name : String) (fields : List (Option String × Json)) :
    Option (Option String) :=
  match Json.field name fields with
  | .ok (some value) => optionOf value
  | .ok none => some none
  | .error () => none

/-- An object names the fields it sets, each once, and may hold others; an array gives all four in
order. -/
def ofJson : Json → Option SecureChannel
  | .object fields =>
    if fields.all (·.1.isSome) then do
      some ⟨← optionField "server_name" fields, ← optionField "key_ring_name" fields,
        ← optionField "key_ring_password" fields, ← optionField "key_ring_data" fields⟩
    else none
  | .array [a, b, c, d] => do
    some ⟨← optionOf a, ← optionOf b, ← optionOf c, ← optionOf d⟩
  | _ => none

def load (text : String) : Option SecureChannel := (Json.parse text).bind ofJson

def store (c : SecureChannel) : String :=
  Json.objectText
    [("server_name", Json.optionalText c.serverName),
      ("key_ring_name", Json.optionalText c.keyRingName),
      ("key_ring_password", Json.optionalText c.keyRingPassword),
      ("key_ring_data", Json.optionalText c.keyRingData)]

end SecureChannel
end ServiceMux
