import RowDecl.Name.CamelCase

/-! # Where declarations go

A table is declared under its schema, a statement under the directories and the stem of the file it
stands in, all behind the package and in lower case. A file is spelled with slashes of either kind;
empty components and single points vanish. -/

namespace RowDecl.Catalog

/-- A file as a location: what it begins with and its components. -/
structure Location where
  root : List Char
  components : List (List Char)
  deriving DecidableEq, Repr

/-- The root of a path: two slashes alone are a root of their own, any other number is one slash. -/
def rootOf (s : List Char) : List Char :=
  match (s.takeWhile (· = '/')).length with
  | 0 => []
  | 2 => ['/', '/']
  | _ => ['/']

/-- The components of a path between its slashes. -/
def componentsOf (s : List Char) : List (List Char) :=
  (Text.split ['/'] s).filter fun c => c ≠ [] ∧ c ≠ ['.']

/-- A backslash read as a slash. -/
def forwardSlash (c : Char) : Char := if c = '\\' then '/' else c

def Location.parse (file : List Char) : Location :=
  let s := file.map forwardSlash
  ⟨rootOf s, componentsOf s⟩

/-- The root, unless it is empty or a single slash, and the components before the last. -/
def Location.directories (l : Location) : List (List Char) :=
  (if l.root = ['/', '/'] then [l.root] else []) ++ l.components.dropLast

/-- A name without what follows its last point, unless that is its first or last character. -/
def stem (name : List Char) : List Char :=
  let extension := name.reverse.takeWhile (· ≠ '.')
  let before := (name.reverse.drop (extension.length + 1)).reverse
  if extension = [] ∨ before = [] then name else before

/-- The stem of the last component; empty if there is none. -/
def Location.stem (l : Location) : List Char := Catalog.stem (l.components.getLast?.getD [])

def lowerText (s : List Char) : String := String.ofList (Text.lower s)

/-- The namespace of a table. -/
def tableNamespace (package : List String) (schema : String) : List String :=
  package ++ ["schema_" ++ lowerText schema.toList]

/-- The namespace of a statement. -/
def statementNamespace (package : List String) (file : String) : List String :=
  let l := Location.parse file.toList
  package ++ l.directories.map lowerText ++ [lowerText l.stem]

/-- The declaration name of a statement. -/
def declarationName (name : String) : String := String.ofList (Name.capitalizeFirst name.toList)

end RowDecl.Catalog
