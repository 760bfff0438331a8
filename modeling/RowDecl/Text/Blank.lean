import RowDecl.Text.CodePoint

/-! # Blank characters

The white space of Unicode together with the four separators U+001C to U+001F. `strip` takes it
off both ends of a text; `strip_eq_nil_iff` says that nothing is left exactly of a blank text. -/

namespace RowDecl.Text

/-- The blank code points. -/
def blanks : Intervals :=
  [(0x09, 0x0D), (0x1C, 0x20), (0x85, 0x85), (0xA0, 0xA0), (0x1680, 0x1680), (0x2000, 0x200A),
    (0x2028, 0x2029), (0x202F, 0x202F), (0x205F, 0x205F), (0x3000, 0x3000)]

def isBlank (c : Char) : Bool := blanks.holds c

/-- The text without the blanks at its end. -/
def stripEnd (s : List Char) : List Char := (s.reverse.dropWhile isBlank).reverse

/-- The text without the blanks at its two ends. -/
def strip (s : List Char) : List Char := stripEnd (s.dropWhile isBlank)

/-- Nothing is left exactly of a blank text. -/
theorem strip_eq_nil_iff {s : List Char} : strip s = [] ↔ ∀ c ∈ s, isBlank c = true := by
  -- What is taken off an end is blank.
  have htaken (t : List Char) : ∀ c ∈ t.takeWhile isBlank, isBlank c = true :=
    List.all_eq_true.1 List.all_takeWhile
  constructor
  · intro h c hc
    have hend : (s.dropWhile isBlank).reverse.dropWhile isBlank = [] := List.reverse_eq_nil_iff.1 h
    rw [← s.takeWhile_append_dropWhile (p := isBlank), List.mem_append] at hc
    rcases hc with hc | hc
    · exact htaken s c hc
    · have hall := (s.dropWhile isBlank).reverse.takeWhile_append_dropWhile (p := isBlank)
      rw [hend, List.append_nil] at hall
      exact htaken _ c (hall ▸ List.mem_reverse.2 hc)
  · intro h
    have hnone : (s ++ []).dropWhile isBlank = [].dropWhile isBlank :=
      List.dropWhile_append_of_pos h
    rw [List.append_nil] at hnone
    rw [strip, hnone]
    rfl

end RowDecl.Text
