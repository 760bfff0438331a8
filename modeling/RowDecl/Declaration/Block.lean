import RowDecl.Declaration.Property

/-! # Blocks

A block declares one row shape: an interface with a line for each property, inside a namespace. The
text of a block is put together from its parts as they are; `Block.ofShape` takes the parts from a
shape, its fields and the settings. -/

namespace RowDecl

structure Block where
  keyword : String
  path : String
  indent : String
  name : String
  properties : List Property
  deriving DecidableEq, Repr

namespace Block

/-- The line of a property. -/
def line (indent : String) (p : Property) : String := indent ++ indent ++ p.text ++ "\n"

/-- The text of a block; no line feed follows the last line. -/
def text (b : Block) : String :=
  b.keyword ++ " " ++ b.path ++ " \x7b\n"
    ++ b.indent ++ "export interface " ++ b.name ++ " \x7b\n"
    ++ String.join (b.properties.map (line b.indent))
    ++ b.indent ++ "\x7d\n\x7d"

/-- The words that begin a block. -/
def keywordOf (exported : Bool) : String := if exported then "export namespace" else "namespace"

/-- The block of a shape with given fields. Only a separator that is no text fails. -/
def ofShape (s : Settings) (shape : RowShape) (fields : List Field) : Except Error Block :=
  match s.namespaceSeparator with
  | .str separator =>
    .ok ⟨keywordOf s.exportNamespaces.truthy, shape.path.render separator, s.indent.text,
      shape.name.text, fields.map (Property.ofField s.nullablePolicy.effective)⟩
  | v => .error (.misuse (.unable v.kind .join))

end Block

end RowDecl
