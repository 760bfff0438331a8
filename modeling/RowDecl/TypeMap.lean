import RowDecl.Settings
import RowDecl.Text.Blank
import RowDecl.Text.Casing

/-! # Type maps

A type map takes the tag of a column type to the token that stands for it in a declaration. Tags are
compared in normal form, stripped and in lower case. The overrides of the settings are laid over the
built-in tags in order, so that the last override of a normal form counts. -/

namespace RowDecl

/-- The tokens of the target types, each with the tags it stands for. -/
def typeFamilies : List (String × List String) :=
  [("number", ["integer", "int", "int2", "int4", "int8", "smallint", "bigint", "tinyint", "serial",
      "bigserial", "numeric", "decimal", "real", "double", "float", "number"]),
    ("string", ["text", "string", "varchar", "char", "character varying", "character", "clob",
      "uuid"]),
    ("boolean", ["boolean", "bool", "bit"])]

/-- The normal form of a tag. -/
def normalTag (tag : String) : String := String.ofList (Text.lower (Text.strip tag.toList))

/-- Tokens by the normal forms of tags. -/
structure TypeMap where
  entries : List (String × Json)
  deriving DecidableEq, Repr

namespace TypeMap

/-- The built-in tags and their tokens. -/
def builtIn : TypeMap :=
  ⟨typeFamilies.flatMap fun (token, tags) => tags.map fun tag => (tag, .str token)⟩

/-- The map with one more tag, or with another token for a tag that it has. -/
def insert (m : TypeMap) (tag : String) (token : Json) : TypeMap :=
  ⟨Json.put m.entries (normalTag tag) token⟩

/-- The token of a tag. -/
def find? (m : TypeMap) (tag : String) : Option Json := Json.member? m.entries (normalTag tag)

/-- The built-in tags with overrides laid over them. -/
def ofOverrides (overrides : List (String × Json)) : TypeMap :=
  overrides.foldl (fun m o => m.insert o.1 o.2) builtIn

/-- The type map of settings. -/
def ofSettings (s : Settings) : Except Error TypeMap :=
  match s.typeOverrides with
  | .obj members => .ok (ofOverrides members)
  | v => .error (.misuse (.unable v.kind .items))

/-- The number of tags. -/
def size (m : TypeMap) : Nat := m.entries.length

/-- Whether a tag has a token. -/
def supports (m : TypeMap) : Json → Except Error Bool
  | .str tag => .ok (m.find? tag).isSome
  | v => .error (.misuse (.unable v.kind .strip))

/-- The token of a column's type. The column and the shape are named in the complaint about a tag
without a token. -/
def token (m : TypeMap) (nativeType column shape : Json) : Except Error Json :=
  match nativeType with
  | .str tag =>
    match m.find? tag with
    | some token => .ok token
    | none => .error (.unsupportedType shape column tag)
  | v => .error (.misuse (.unable v.kind .strip))

/-- A tag is found under the token it was inserted with last, and all other normal forms as before.
-/
theorem find?_insert (m : TypeMap) (tag : String) (token : Json) (t : String) :
    (m.insert tag token).find? t =
      if normalTag tag = normalTag t then some token else m.find? t := by
  simp [insert, find?, Json.member?_put]

end TypeMap

end RowDecl
