import RowDecl.Column
import RowDecl.Namespace

/-! # Row shapes

The row of one table or one statement: a namespace path, the name of the declaration and the columns
in order. No two columns have equal names (`HasDistinctNames`); `columnFault?_eq_none_iff` says that
the scan for the first offending column finds none exactly then. -/

namespace RowDecl

/-- The names of the columns can be compared and are pairwise different. -/
def HasDistinctNames (columns : List Column) : Prop :=
  (∀ c ∈ columns, c.sourceName.key? ≠ none) ∧
    columns.Pairwise fun a b => a.sourceName.key? ≠ b.sourceName.key?

/-- The complaint about the first column whose name cannot be compared or is one of those seen
before it. -/
def columnFault? (declaration : Json) (seen : List Json.Key) : List Column → Option ShapeFault
  | [] => none
  | c :: r =>
    match c.sourceName.key? with
    | none => some (.notComparable c.sourceName.kind)
    | some k =>
      if k ∈ seen then some (.duplicateColumn c.sourceName declaration)
      else columnFault? declaration (k :: seen) r

theorem columnFault?_eq_none_iff {declaration : Json} {seen : List Json.Key}
    {columns : List Column} :
    columnFault? declaration seen columns = none ↔
      HasDistinctNames columns ∧
        ∀ c ∈ columns, ∀ k ∈ seen, c.sourceName.key? ≠ some k := by
  induction columns generalizing seen with
  | nil => simp [columnFault?, HasDistinctNames]
  | cons c r ih =>
    cases hk : c.sourceName.key? with
    | none => simp [columnFault?, HasDistinctNames, hk]
    | some k =>
      by_cases hs : k ∈ seen
      · simp only [columnFault?, hk, hs, if_true, List.mem_cons]
        constructor
        · simp
        · rintro ⟨-, h⟩
          exact absurd hk (h c (.inl rfl) k hs)
      · simp only [columnFault?, hk, hs, if_false, ih, HasDistinctNames, List.mem_cons,
          List.pairwise_cons, forall_eq_or_imp]
        constructor
        · rintro ⟨⟨h1, h2⟩, h3⟩
          refine ⟨⟨⟨by simp, h1⟩, fun d hd => ?_, h2⟩, ?_, fun d hd => (h3 d hd).2⟩
          · exact fun e => (h3 d hd).1 e.symm
          · rintro k' hk' ⟨⟩
            exact hs hk'
        · rintro ⟨⟨⟨-, h1⟩, h2, h3⟩, -, h4⟩
          exact ⟨⟨h1, h3⟩, fun d hd => ⟨fun e => h2 d hd e.symm, h4 d hd⟩⟩

theorem hasDistinctNames_of_columnFault? {declaration : Json} {columns : List Column}
    (h : columnFault? declaration [] columns = none) : HasDistinctNames columns :=
  (columnFault?_eq_none_iff.mp h).1

/-- The named and ordered columns of one table or statement. -/
@[ext]
structure RowShape where
  path : NamespacePath
  name : Json
  columns : List Column
  named : name.truthy = true
  distinct : HasDistinctNames columns
  deriving Repr

namespace RowShape

instance : DecidableEq RowShape := fun _ _ =>
  decidable_of_decidable_of_iff RowShape.ext_iff.symm

/-- The row shape with a path, a name and columns. -/
def make (path : NamespacePath) (name : Json) (columns : List Column) :
    Except ShapeFault RowShape :=
  if hn : name.truthy = true then
    match hc : columnFault? name [] columns with
    | none => .ok ⟨path, name, columns, hn, hasDistinctNames_of_columnFault? hc⟩
    | some e => .error e
  else .error .unnamed

/-- The name of the declaration behind its path, as messages show it. -/
def qualifiedName (s : RowShape) : String := s.path.text ++ "." ++ s.name.text

/-- The row shape of plain values; the path is read before the columns. -/
def create (path name : Json) (columns : List Json) : Except Error RowShape := do
  let path ← NamespacePath.ofJson path
  let columns ← columns.mapM Column.ofJson
  (make path name columns).mapError .badShape

/-- The row shape of plain values; the columns are read before the path. -/
def ofColumns (path name : Json) (columns : List Json) : Except Error RowShape := do
  let columns ← columns.mapM Column.ofJson
  let path ← NamespacePath.ofJson path
  (make path name columns).mapError .badShape

end RowShape

end RowDecl
