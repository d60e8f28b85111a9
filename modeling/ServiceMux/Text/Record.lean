/-! The text of structured values: a constructor's name, then its parts. -/
namespace ServiceMux.Text

/-- A value with named parts, in braces; with none of them the name stands alone. -/
def record (name : String) (fields : List (String × String)) : String :=
  match fields with
  | [] => name
  | _ =>
    let parts := fields.map fun (field, value) => field ++ ": " ++ value
    name ++ " \x7b " ++ ", ".intercalate parts ++ " \x7d"

/-- A value with unnamed parts, in parentheses. -/
def tuple (name : String) (parts : List String) : String :=
  name ++ "(" ++ ", ".intercalate parts ++ ")"

def optional (part : Option String) : String :=
  match part with
  | none => "None"
  | some text => tuple "Some" [text]

def sequence (parts : List String) : String := "[" ++ ", ".intercalate parts ++ "]"

end ServiceMux.Text
