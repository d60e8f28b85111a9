import ServiceMux.HostAddress
import ServiceMux.Json.Reader
import ServiceMux.Json.Writer
/-! Addresses as stored values: an object with a host and a port. -/
namespace ServiceMux.HostAddress
open Json (field stringText objectText)

def hostOf : Json → Option String
  | .string text => text
  | _ => none

/-- A port is written as a plain whole number. -/
def portOf : Json → Option UInt16
  | .number ⟨false, whole, none, none⟩ => Net.digitsPort whole
  | _ => none

/-- An object gives both fields by name, each once, and may hold others; an array gives the two
values in order. -/
def ofJson : Json → Option HostAddress
  | .object fields =>
    if fields.all (·.1.isSome) then
      match field "host" fields, field "port" fields with
      | .ok (some host), .ok (some port) => do some ⟨← hostOf host, ← portOf port⟩
      | _, _ => none
    else none
  | .array [host, port] => do some ⟨← hostOf host, ← portOf port⟩
  | _ => none

def load (text : String) : Option HostAddress := (Json.parse text).bind ofJson

def store (a : HostAddress) : String :=
  objectText [("host", stringText a.host), ("port", toString a.port.toNat)]

end ServiceMux.HostAddress
