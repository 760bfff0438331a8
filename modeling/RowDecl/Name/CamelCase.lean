import RowDecl.Text.Casing
import RowDecl.Text.Split

/-! # Camel case

The field name of a column: the words between underscores run together, each but the first with a
capital. A name without underscores, or of nothing else, stays as it is. -/

namespace RowDecl.Name

/-- The words between the underscores of a name. -/
def words (s : List Char) : List (List Char) := (Text.split ['_'] s).filter (· ≠ [])

/-- A word with its first character in upper and the others in lower case. -/
def capitalize : List Char → List Char
  | [] => []
  | c :: r => Text.upperChar c ++ Text.lower r

/-- The name in camel case. -/
def camelCase (s : List Char) : List Char :=
  if '_' ∈ s then
    match words s with
    | [] => s
    | w :: ws => Text.lower w ++ ws.flatMap capitalize
  else s

/-- A name with its first character in upper case and the others as they are. -/
def capitalizeFirst : List Char → List Char
  | [] => []
  | c :: r => Text.upperChar c ++ r

/-- A name without underscores stays as it is. -/
theorem camelCase_of_not_mem {s : List Char} (h : '_' ∉ s) : camelCase s = s := by
  simp [camelCase, h]

end RowDecl.Name
