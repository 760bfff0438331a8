import RowDecl.Text.Blank

/-! # Identifiers

The ASCII identifiers of the declarations. `isIdentifier` also admits one line feed after an
identifier, as a pattern anchored at the end of a line does. `safeSegment` turns a text into an
identifier unless the text is empty (`isStrictIdentifier_safeSegment`). -/

namespace RowDecl.Name

/-- A character that an identifier may begin with. -/
def isStart (c : Char) : Bool := c.isAlpha || c = '_' || c = '$'

/-- A character that an identifier may hold. -/
def isPart (c : Char) : Bool := isStart c || c.isDigit

/-- A text of identifier characters whose first is no digit. -/
def isStrictIdentifier : List Char → Bool
  | [] => false
  | c :: r => isStart c && r.all isPart

/-- An identifier, or an identifier and a line feed. -/
def isIdentifier (s : List Char) : Bool :=
  isStrictIdentifier s || (s.getLast? = some '\n' && isStrictIdentifier s.dropLast)

/-- A character as a part of an identifier. -/
def safeChar (c : Char) : Char := if isPart c then c else '_'

/-- A text as an identifier: other characters become underscores, and an underscore is put before a
digit at the front. -/
def safeSegment (s : List Char) : List Char :=
  match s.map safeChar with
  | [] => []
  | c :: r => if c.isDigit then '_' :: c :: r else c :: r

/-! ## Laws -/

theorem isPart_underscore : isPart '_' = true := by decide

theorem isPart_safeChar (c : Char) : isPart (safeChar c) = true := by
  by_cases h : isPart c <;> simp [safeChar, h, isPart_underscore]

theorem safeChar_of_isPart {c : Char} (h : isPart c = true) : safeChar c = c := by
  simp [safeChar, h]

theorem map_safeChar_of_all {s : List Char} (h : ∀ c ∈ s, isPart c = true) :
    s.map safeChar = s := by
  induction s with
  | nil => rfl
  | cons c r ih =>
    simp [safeChar_of_isPart (h c (by simp)), ih fun d hd => h d (by simp [hd])]

/-- A part that is no digit may begin an identifier. -/
theorem isStart_of_isPart {c : Char} (h : isPart c = true) (hd : c.isDigit = false) :
    isStart c = true := by
  simpa [isPart, hd] using h

theorem isPart_of_isStart {c : Char} (h : isStart c = true) : isPart c = true := by
  simp [isPart, h]

/-- What is not empty becomes an identifier. -/
theorem isStrictIdentifier_safeSegment {s : List Char} (h : s ≠ []) :
    isStrictIdentifier (safeSegment s) = true := by
  cases s with
  | nil => exact absurd rfl h
  | cons c r =>
    have hr : (r.map safeChar).all isPart = true := by
      simp [List.all_eq_true, isPart_safeChar]
    by_cases hd : (safeChar c).isDigit
    · simp only [safeSegment, List.map_cons, hd, if_true, isStrictIdentifier, List.all_cons,
        isPart_safeChar, hr, Bool.and_true]
      decide
    · simp only [Bool.not_eq_true] at hd
      simp [safeSegment, hd, isStrictIdentifier, isStart_of_isPart (isPart_safeChar c) hd,
        isPart_safeChar]

end RowDecl.Name
