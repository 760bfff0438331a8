import RowDecl.Error
import RowDecl.Name.Identifier
import RowDecl.Text.Split

/-! # Namespace paths

A namespace path is a list of segments, at least one, each an identifier. Given segments are
stripped of blanks and made identifiers; one that is no text or is blank has no segment
(`Segment.ofJson?_eq_none_iff`). The separator belongs to the reading and the writing of a path,
not to the path. -/

namespace RowDecl

/-- An identifier as a part of a namespace path. -/
structure Segment where
  text : String
  isIdentifier : Name.isStrictIdentifier text.toList = true
  deriving DecidableEq, Repr

/-- A namespace path: its first segment and the others. -/
structure NamespacePath where
  head : Segment
  tail : List Segment
  deriving DecidableEq, Repr

namespace Segment

/-- The segment of a text, none if the text is blank. -/
def ofText? (s : List Char) : Option Segment :=
  if h : Text.strip s = [] then none
  else
    some ⟨String.ofList (Name.safeSegment (Text.strip s)),
      by simpa using Name.isStrictIdentifier_safeSegment h⟩

/-- The segment of a given value, none unless it is a text that is not blank. -/
def ofJson? : Json → Option Segment
  | .str s => ofText? s.toList
  | _ => none

theorem ofText?_eq_none_iff {s : List Char} :
    ofText? s = none ↔ ∀ c ∈ s, Text.isBlank c = true := by
  rw [← Text.strip_eq_nil_iff, ofText?]
  split <;> simp_all

end Segment

namespace NamespacePath

def segments (p : NamespacePath) : List Segment := p.head :: p.tail

/-- The texts of the segments. -/
def names (p : NamespacePath) : List String := p.segments.map (·.text)

/-- The path of given segments. -/
def ofSegments (given : List Json) : Except NamespaceFault NamespacePath :=
  match given.mapM Segment.ofJson? with
  | none => .error (.blankSegment given)
  | some [] => .error .noSegment
  | some (s :: r) => .ok ⟨s, r⟩

/-- The path of a text whose segments stand between separators. -/
def parse (path : String) (separator : String) : Except Error NamespacePath :=
  if separator = "" then .error (.badValue .emptySeparator)
  else
    let pieces := (Text.split separator.toList path.toList).map String.ofList
    (ofSegments (pieces.map .str)).mapError .badNamespace

/-- The path with more segments at its end. -/
def child (p : NamespacePath) (more : List Json) : Except NamespaceFault NamespacePath :=
  ofSegments (p.names.map .str ++ more)

/-- The segments with the separator between each two of them. -/
def render (p : NamespacePath) (separator : String) : String := separator.intercalate p.names

/-- The path as messages show it. -/
def text (p : NamespacePath) : String := p.render "."

/-- The path that a value gives: a text with points between the segments, a list of segments or an
object whose names are the segments. -/
def ofJson : Json → Except Error NamespacePath
  | .str s => parse s "."
  | .arr items => (ofSegments items).mapError .badNamespace
  | .obj members => (ofSegments (members.map fun m => .str m.1)).mapError .badNamespace
  | v => .error (.misuse (.notIterable v.kind))

end NamespacePath

end RowDecl
