import ServiceMux.Net.IpLiteral
import ServiceMux.Service.Basic
import ServiceMux.Text.Quoted
import ServiceMux.Text.Record
/-! Where a service job listens: a host name or numeric address, and a port. -/
namespace ServiceMux

structure HostAddress where
  /-- Without brackets. -/
  host : String
  port : UInt16
  deriving DecidableEq, Repr

namespace HostAddress
open Net Text

inductive ParseError where
  /-- Empty, ambiguous, or no numeric address between brackets. -/
  | invalidHost
  | invalidPort
  | missingPort
  deriving DecidableEq, Repr

namespace ParseError

def kind : ParseError → String
  | invalidHost => "InvalidHost"
  | invalidPort => "InvalidPort"
  | missingPort => "MissingPort"

def message : ParseError → String
  | invalidHost => "invalid host"
  | invalidPort => "invalid port"
  | missingPort => "missing port"

end ParseError

/-- The parts before and after the first `mark`. -/
def cutFirst (mark : Char) : List Char → Option (List Char × List Char)
  | [] => none
  | c :: rest =>
    if c = mark then some ([], rest)
    else (cutFirst mark rest).map fun (before, after) => (c :: before, after)

/-- The parts before and after the last `mark`. -/
def cutLast (mark : Char) : List Char → Option (List Char × List Char)
  | [] => none
  | c :: rest =>
    match cutLast mark rest with
    | some (before, after) => some (c :: before, after)
    | none => if c = mark then some ([], rest) else none

def withPort (host port : List Char) : Except ParseError HostAddress :=
  match parsePort port with
  | some p => .ok ⟨String.ofList host, p⟩
  | none => .error .invalidPort

/-- What follows an opening bracket: a numeric address, the closing bracket, a colon, the port. -/
def parseBracketed (rest : List Char) : Except ParseError HostAddress :=
  match cutFirst ']' rest with
  | none => .error .invalidHost
  | some (host, tail) =>
    if isIpLiteral host then
      match tail with
      | ':' :: port => withPort host port
      | _ => .error .missingPort
    else .error .invalidHost

/-- A host without colons, a colon, the port. -/
def parsePlain (cs : List Char) : Except ParseError HostAddress :=
  match cutLast ':' cs with
  | none => .error .missingPort
  | some (host, port) =>
    if host = [] ∨ ':' ∈ host then .error .invalidHost else withPort host port

def parseChars : List Char → Except ParseError HostAddress
  | '[' :: rest => parseBracketed rest
  | cs => parsePlain cs

def parse (text : String) : Except ParseError HostAddress := parseChars text.toList

/-- A host with a colon in it stands between brackets. -/
def renderChars (a : HostAddress) : List Char :=
  let host := a.host.toList
  if ':' ∈ host then '[' :: host ++ ']' :: ':' :: portText a.port
  else host ++ ':' :: portText a.port

def render (a : HostAddress) : String := String.ofList a.renderChars

def inspect (a : HostAddress) : String :=
  record "HostAddress" [("host", quoted a.host), ("port", toString a.port.toNat)]

def ofService (host : String) (service : Service) (secure : Bool) : HostAddress :=
  ⟨host, if secure then service.securePort else service.port⟩

end HostAddress
end ServiceMux
