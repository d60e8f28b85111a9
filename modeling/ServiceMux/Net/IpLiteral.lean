import ServiceMux.Net.Port
/-! Numeric addresses: four decimal octets, or eight hexadecimal groups of which a run of zeros may
be left out. -/
namespace ServiceMux.Net

/-- The parts between the separators: one more than there are separators. -/
def fields (separator : Char) : List Char → List (List Char)
  | [] => [[]]
  | c :: rest =>
    if c = separator then [] :: fields separator rest
    else match fields separator rest with
      | [] => [[c]]
      | first :: others => (c :: first) :: others

/-- Up to three digits, at most 255, and no zero in front of another digit. -/
def isOctet (cs : List Char) : Bool :=
  cs != [] && cs.length ≤ 3 && cs.all Char.isDigit && decimal cs ≤ 255 &&
    (cs.head? != some '0' || cs.length == 1)

def isIpv4 (cs : List Char) : Bool :=
  let octets := fields '.' cs
  octets.length == 4 && octets.all isOctet

def isHexDigit (c : Char) : Bool :=
  c.isDigit || ('a' ≤ c && c ≤ 'f') || ('A' ≤ c && c ≤ 'F')

def hexDigitValue (c : Char) : Nat :=
  if c.isDigit then digitValue c
  else if 'a' ≤ c then c.toNat - 'a'.toNat + 10
  else c.toNat - 'A'.toNat + 10

def isGroup (cs : List Char) : Bool := cs != [] && cs.length ≤ 4 && cs.all isHexDigit

/-- How many groups a row of fields fills; octets in the last field fill two. -/
def rowWidth (octetsLast : Bool) : List (List Char) → Option Nat
  | [] => some 0
  | [last] =>
    if isGroup last then some 1 else if octetsLast && isIpv4 last then some 2 else none
  | group :: rest => if isGroup group then (rowWidth octetsLast rest).map (1 + ·) else none

def groupsWidth (octetsLast : Bool) (cs : List Char) : Option Nat :=
  if cs = [] then some 0 else rowWidth octetsLast (fields ':' cs)

/-- The parts before and after the first pair of colons. -/
def cutGap : List Char → Option (List Char × List Char)
  | ':' :: ':' :: rest => some ([], rest)
  | [] => none
  | c :: rest => (cutGap rest).map fun (before, after) => (c :: before, after)

/-- Eight groups; or a gap for one or more of them, with octets only after it. -/
def isIpv6 (cs : List Char) : Bool :=
  match cutGap cs with
  | none => groupsWidth true cs == some 8
  | some (before, after) =>
    match groupsWidth false before, groupsWidth true after with
    | some m, some n => m + n ≤ 7
    | _, _ => false

def isIpLiteral (cs : List Char) : Bool := isIpv4 cs || isIpv6 cs

example : isIpLiteral "::ffff:10.0.0.1".toList = true := by decide +kernel
example : isIpLiteral "1:2:3:4:5:6:7::".toList = true := by decide +kernel
example : isIpLiteral "1::2::3".toList = false := by decide +kernel
example : isIpLiteral "1.2.3.04".toList = false := by decide +kernel

end ServiceMux.Net
