import ServiceMux.Text.Hex
import ServiceMux.Text.Unprintable
/-! Quoted text: readable between two quotes, and one line whatever it holds. -/
namespace ServiceMux.Text

/-- The characters that have a short escape, and the letter of that escape. -/
def shortEscapes : List (Char × Char) :=
  [('"', '"'), ('\\', '\\'), ('\n', 'n'), ('\r', 'r'), ('\t', 't'), ('\x00', '0')]

/-- A character with a short escape takes it, one that leaves no mark is given by its number, and
any other stands for itself. -/
def escape (c : Char) : String :=
  match shortEscapes.lookup c with
  | some letter => String.ofList ['\\', letter]
  | none =>
    if unprintable c then "\\u\x7b" ++ hexDigits 1 c.toNat ++ "\x7d" else String.singleton c

def quoted (text : String) : String :=
  "\"" ++ String.join (text.toList.map escape) ++ "\""

example : quoted "\"\n" = "\"\\\"\\n\"" := by decide +kernel
example : quoted "é'" = "\"é'\"" := by decide +kernel

end ServiceMux.Text
