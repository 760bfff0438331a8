import RowDecl.Error

/-! # Columns

A column of a table or of a query's result: its name, the tag of its type and whether it may be
null. The cells are kept as they are given; only the name must count as true. -/

namespace RowDecl

structure Column where
  sourceName : Json
  nativeType : Json
  nullable : Json
  named : sourceName.truthy = true
  deriving DecidableEq, Repr

namespace Column

/-- The column with three cells, none if its name does not count as true. -/
def make? (sourceName nativeType nullable : Json) : Option Column :=
  if h : sourceName.truthy = true then some ⟨sourceName, nativeType, nullable, h⟩ else none

/-- The column of two or three cells; the third is false if it is left out. -/
def ofCells : List Json → Except Error Column
  | [name, type] => named (make? name type (.bool false))
  | [name, type, nullable] => named (make? name type nullable)
  | [] => .error (.misuse (.tooFewCells 0))
  | [_] => .error (.misuse (.tooFewCells 1))
  | cells => .error (.misuse (.tooManyCells cells.length))
where
  /-- A column without a name is refused. -/
  named (c : Option Column) : Except Error Column :=
    c.elim (.error (.badValue .emptyColumnName)) .ok

/-- The cells that a value spreads into: the characters of a text, the items of a list, the names of
an object. -/
def cellsOf : Json → Except Misuse (List Json)
  | .str s => .ok (s.toList.map fun c => .str (String.singleton c))
  | .arr items => .ok items
  | .obj members => .ok (members.map fun m => .str m.1)
  | v => .error (.notCells v.kind)

/-- The column that a value spreads into. -/
def ofJson (v : Json) : Except Error Column := do
  ofCells (← (cellsOf v).mapError .misuse)

theorem make?_eq_some_iff {name type nullable : Json} {c : Column} :
    make? name type nullable = some c ↔
      c.sourceName = name ∧ c.nativeType = type ∧ c.nullable = nullable := by
  constructor
  · intro h
    rw [make?] at h
    split at h
    · cases h; simp
    · cases h
  · rintro ⟨rfl, rfl, rfl⟩
    simp [make?, c.named]

end Column

end RowDecl
