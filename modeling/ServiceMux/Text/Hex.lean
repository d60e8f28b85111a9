/-! Numbers and byte strings in base sixteen, with lower-case digits. -/
namespace ServiceMux.Text

/-- The digits of `n`, filled up with zeros to at least `width` of them. -/
def hexDigits (width n : Nat) : String :=
  String.ofList ((Nat.toDigits 16 n).leftpad width '0')

/-- A sixteen-bit code: the marker and at least four digits. -/
def hexCode (code : UInt16) : String := "0x" ++ hexDigits 4 code.toNat

/-- A number of no fixed size: the marker and as many digits as it has. -/
def hexNumber (n : Nat) : String := "0x" ++ hexDigits 1 n

/-- Two digits for each byte, and no marker. -/
def hexBytes (bytes : List UInt8) : String :=
  String.ofList (bytes.flatMap fun b => (Nat.toDigits 16 b.toNat).leftpad 2 '0')

end ServiceMux.Text
