import ServiceMux.Net.IpLiteral
import ServiceMux.Text.Hex
/-! One end of a stream: a numeric address and a port. Each has one text by which it is shown, and
other spellings by which it may be given. -/
namespace ServiceMux.Net

inductive Ip where
  | v4 (octets : List Nat)
  /-- Eight groups of sixteen bits, and the zone in which they hold; zero is no zone. -/
  | v6 (groups : List Nat) (zone : Nat)
  deriving DecidableEq, Repr

structure SocketAddress where
  ip : Ip
  port : UInt16
  deriving DecidableEq, Repr

def hexadecimal (digits : List Char) : Nat :=
  digits.foldl (fun n c => 16 * n + hexDigitValue c) 0

def octetsOf (cs : List Char) : List Nat := (fields '.' cs).map decimal

/-- Two octets fill a group. -/
def pairUp : List Nat → List Nat
  | high :: low :: rest => (256 * high + low) :: pairUp rest
  | _ => []

/-- The groups of a row that is well formed. -/
def groupsOf (cs : List Char) : List Nat :=
  if cs = [] then []
  else (fields ':' cs).flatMap fun field =>
    if isGroup field then [hexadecimal field] else pairUp (octetsOf field)

/-- The groups of an address that is well formed; a gap stands for as many zeros as it takes. -/
def groups (cs : List Char) : List Nat :=
  match cutGap cs with
  | none => groupsOf cs
  | some (before, after) =>
    let front := groupsOf before
    let back := groupsOf after
    front ++ List.replicate (8 - front.length - back.length) 0 ++ back

/-- The parts before and after the first `mark`; without it, everything is before. -/
def cutAt (mark : Char) (cs : List Char) : List Char × Option (List Char) :=
  (cs.takeWhile (· != mark), (cs.dropWhile (· != mark)).tail?)

def zoneOf : Option (List Char) → Option Nat
  | none => some 0
  | some digits =>
    if digits ≠ [] ∧ digits.all Char.isDigit ∧ decimal digits < UInt32.size then
      some (decimal digits)
    else none

namespace SocketAddress

def parse (text : String) : Option SocketAddress :=
  match text.toList with
  | '[' :: rest =>
    match cutAt ']' rest with
    | (inside, some (':' :: port)) =>
      let (ip, zone) := cutAt '%' inside
      if isIpv6 ip then do some ⟨.v6 (groups ip) (← zoneOf zone), ← digitsPort port⟩ else none
    | _ => none
  | cs =>
    match cutAt ':' cs with
    | (ip, some port) => if isIpv4 ip then do some ⟨.v4 (octetsOf ip), ← digitsPort port⟩ else none
    | _ => none

structure Span where
  start : Nat
  length : Nat
  deriving DecidableEq, Repr

/-- The longest run of zeros, of several the first. -/
def longestZeros : Nat → Span → Span → List Nat → Span
  | _, _, longest, [] => longest
  | i, current, longest, 0 :: rest =>
    let current : Span := if current.length = 0 then ⟨i, 1⟩ else ⟨current.start, current.length + 1⟩
    longestZeros (i + 1) current (if longest.length < current.length then current else longest) rest
  | i, _, longest, _ :: rest => longestZeros (i + 1) ⟨0, 0⟩ longest rest

def octetsText (octets : List Nat) : String := ".".intercalate (octets.map toString)

def groupsText (groups : List Nat) : String := ":".intercalate (groups.map (Text.hexDigits 1))

/-- Octets carried in groups are shown as octets. In any other address the longest run of two or
more zeros is left out. -/
def ipv6Text (groups : List Nat) : String :=
  match groups with
  | [0, 0, 0, 0, 0, 0xFFFF, a, b] =>
    "::ffff:" ++ octetsText [a / 256, a % 256, b / 256, b % 256]
  | _ =>
    let zeros := longestZeros 0 ⟨0, 0⟩ ⟨0, 0⟩ groups
    if 1 < zeros.length then
      groupsText (groups.take zeros.start) ++ "::" ++
        groupsText (groups.drop (zeros.start + zeros.length))
    else groupsText groups

def render (a : SocketAddress) : String :=
  match a.ip with
  | .v4 octets => octetsText octets ++ ":" ++ toString a.port.toNat
  | .v6 groups zone =>
    "[" ++ ipv6Text groups ++ (if zone = 0 then "" else "%" ++ toString zone) ++ "]:" ++
      toString a.port.toNat

end SocketAddress
end ServiceMux.Net
