import RowDecl.Name.CamelCase
import RowDecl.RowShape
import RowDecl.TypeMap

/-! # Fields

A field is a column as a declaration shows it: its name in camel case and the token of its type. The
fields of a shape have different names; the first column that breaks this, or whose type has no
token, is the one that is complained about. -/

namespace RowDecl

structure Field where
  name : Json
  fieldType : Json
  optional : Json
  sourceName : Json
  deriving DecidableEq, Repr

namespace Field

/-- The field name of a column name. A list or an object without a lone underscore is its own. -/
def nameOf : Json → Except Misuse Json
  | .str s => .ok (.str (String.ofList (Name.camelCase s.toList)))
  | .arr items =>
    if .str "_" ∈ items then .error (.unable .array .split) else .ok (.arr items)
  | .obj members =>
    if (Json.member? members "_").isSome then .error (.unable .object .split)
    else .ok (.obj members)
  | v => .error (.notSearchable v.kind)

/-- The field of a column; its type is looked up first. -/
def ofColumn (m : TypeMap) (shape : Json) (c : Column) : Except Error Field := do
  let fieldType ← m.token c.nativeType c.sourceName shape
  let name ← (nameOf c.sourceName).mapError .misuse
  return ⟨name, fieldType, c.nullable, c.sourceName⟩

/-- The fields of columns behind the earlier fields of the same shape. -/
def ofColumns (m : TypeMap) (shape : String) (earlier : List Field) :
    List Column → Except Error (List Field)
  | [] => .ok []
  | c :: r => do
    let f ← ofColumn m (.str shape) c
    match earlier.find? (·.name = f.name) with
    | some g =>
      throw (.fieldCollision shape g.sourceName.text c.sourceName.text f.name.text)
    | none => return f :: (← ofColumns m shape (earlier ++ [f]) r)

/-- The fields of a shape, in the order of its columns. -/
def ofShape (m : TypeMap) (s : RowShape) : Except Error (List Field) :=
  ofColumns m s.qualifiedName [] s.columns

end Field

end RowDecl
