import RowDecl.Json.Basic
import RowDecl.Number.Decimal
import RowDecl.Number.Shortest
import RowDecl.Text.Quoted

/-! # Values as text

`Json.text` is a value as it is put into a document or a message, `Json.literal` as it is shown
inside a list or an object. They differ on a string only: the first leaves it as it is, the second
quotes it. -/

namespace RowDecl.Json

/-- A string between quotation marks. -/
def quotedString (s : String) : String := String.ofList (Text.quoted s.toList)

mutual

/-- A value as it is shown inside another. -/
def literal : Json → String
  | .null => "None"
  | .bool b => if b then "True" else "False"
  | .int n => intText n
  | .float x => x.text
  | .str s => quotedString s
  | .arr items => "[" ++ String.intercalate ", " (itemLiterals items) ++ "]"
  | .obj members => "\x7b" ++ String.intercalate ", " (memberLiterals members) ++ "\x7d"

def itemLiterals : List Json → List String
  | [] => []
  | x :: r => literal x :: itemLiterals r

def memberLiterals : List (String × Json) → List String
  | [] => []
  | (n, x) :: r => (quotedString n ++ ": " ++ literal x) :: memberLiterals r

end

/-- A value as it is put into a text. -/
def text : Json → String
  | .str s => s
  | v => literal v

@[simp] theorem text_str (s : String) : (Json.str s).text = s := rfl

end RowDecl.Json
