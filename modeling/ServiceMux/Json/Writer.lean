import ServiceMux.Text.Hex
/-! Writing values compactly: no blanks, fields in the order given. -/
namespace ServiceMux.Json

def escape (c : Char) : String :=
  match [('"', '"'), ('\\', '\\'), ('\x08', 'b'), ('\x0c', 'f'), ('\n', 'n'), ('\r', 'r'),
      ('\t', 't')].lookup c with
  | some letter => String.ofList ['\\', letter]
  | none =>
    if c.toNat < 0x20 then "\\u" ++ Text.hexDigits 4 c.toNat else String.singleton c

def stringText (text : String) : String :=
  "\"" ++ String.join (text.toList.map escape) ++ "\""

def optionalText : Option String → String
  | some text => stringText text
  | none => "null"

def objectText (fields : List (String × String)) : String :=
  "\x7b" ++ ",".intercalate (fields.map fun (name, value) => stringText name ++ ":" ++ value) ++
    "\x7d"

end ServiceMux.Json
