import RowDecl.Declaration.Block

/-! # Documents

A document is the blocks of row shapes, one for each in order, with an empty line between each two
and a comment before them if the settings ask for one. Two shapes with equal paths and equal names
stop it before any column is looked at. -/

namespace RowDecl

/-- What a shape is told apart by: its path and the key of its name. -/
abbrev ShapeKey := NamespacePath × Json.Key

/-- The complaint about the first shape whose name cannot be compared or whose key is one of those
seen before it. -/
def duplicateFault? (seen : List ShapeKey) : List RowShape → Option Error
  | [] => none
  | s :: r =>
    match s.name.key? with
    | none => some (.misuse (.notComparable s.name.kind))
    | some k =>
      if (s.path, k) ∈ seen then some (.duplicateDeclaration s.qualifiedName)
      else duplicateFault? ((s.path, k) :: seen) r

/-- The text of the block of a shape. -/
def blockText (s : Settings) (m : TypeMap) (shape : RowShape) : Except Error String := do
  let fields ← Field.ofShape m shape
  let block ← Block.ofShape s shape fields
  return block.text

/-- The blocks of row shapes, one for each in order. -/
def emit (s : Settings) (m : TypeMap) (shapes : List RowShape) : Except Error (List String) :=
  match duplicateFault? [] shapes with
  | some e => .error e
  | none => shapes.mapM (blockText s m)

/-- Blocks with an empty line between each two and a line feed at the end; nothing for no blocks. -/
def joinBlocks : List String → String
  | [] => ""
  | blocks => String.intercalate "\n\n" blocks ++ "\n"

/-- The blocks of row shapes as one text. -/
def render (s : Settings) (m : TypeMap) (shapes : List RowShape) : Except Error String :=
  (emit s m shapes).map joinBlocks

/-- The comment before the blocks, which tells the command line that they come from. -/
def commentText (commandLine : String) : String :=
  "// Generated by sql_schema_to_code v1.0.0 : " ++ commandLine ++ "\n\n"

/-- The whole document. -/
def generate (s : Settings) (m : TypeMap) (shapes : List RowShape) (commandLine : String) :
    Except Error String := do
  let body ← render s m shapes
  return if s.addGenerationComment.truthy then commentText commandLine ++ body else body

/-- The name that the command goes by in the comment. -/
def commandName : String := "sql_schema_to_code"

end RowDecl
