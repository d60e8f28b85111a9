/-! Values of the data notation in which addresses and channel options are stored. -/
namespace ServiceMux

structure Json.Number where
  negative : Bool
  whole : List Char
  /-- The digits after the point, if there is one. -/
  fraction : Option (List Char)
  /-- Sign and digits of the exponent, if there is one. -/
  exponent : Option (List Char)
  deriving DecidableEq, Repr

/-- A string in which half of a character stands alone is well formed, and is no text: it is
`string none`. Fields keep their order, and a name may come twice. -/
inductive Json where
  | null
  | bool (value : Bool)
  | number (value : Json.Number)
  | string (text : Option String)
  | array (items : List Json)
  | object (fields : List (Option String × Json))

namespace Json

/-- The value of the only field of this name: `none` if there is no such field, an error if there
are several. -/
def field (name : String) (fields : List (Option String × Json)) : Except Unit (Option Json) :=
  match fields.filter (·.1 == some name) with
  | [] => .ok none
  | [(_, value)] => .ok (some value)
  | _ => .error ()

end Json
end ServiceMux
