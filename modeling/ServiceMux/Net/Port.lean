/-! Port numbers as text. -/
namespace ServiceMux.Net

def digitValue (c : Char) : Nat := c.toNat - '0'.toNat

/-- The number that ASCII digits denote, the first being the highest. -/
def decimal (digits : List Char) : Nat :=
  digits.foldl (fun n c => 10 * n + digitValue c) 0

/-- At least one digit and nothing but digits, with a value a port can have. -/
def digitsPort (digits : List Char) : Option UInt16 :=
  if digits ≠ [] ∧ digits.all Char.isDigit ∧ decimal digits < 65536 then
    some (UInt16.ofNat (decimal digits))
  else none

/-- One plus sign may stand before the digits, and zeros count for nothing. -/
def parsePort : List Char → Option UInt16
  | '+' :: digits => digitsPort digits
  | digits => digitsPort digits

def portText (port : UInt16) : List Char := Nat.toDigits 10 port.toNat

end ServiceMux.Net
