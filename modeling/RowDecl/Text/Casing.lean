import RowDecl.Text.CaseContext
import RowDecl.Text.CaseTable

/-! # Upper and lower case

The full case mappings of Unicode, free of locale: a character may become several, and a capital
sigma that ends a word becomes a final sigma. On ASCII the mapping to lower case is the usual one
(`lower_ascii`). -/

namespace RowDecl.Text

/-- The image of a code point under the first run that maps it. -/
def lookupRun (runs : List CaseRun) (n : Nat) : Option Nat := runs.findSome? (·.image? n)

/-- The image of a character under a wide table, then a table of runs, then itself. -/
def mapCase (wide : List (Nat × List Nat)) (runs : List CaseRun) (c : Char) : List Char :=
  match wide.lookup c.toNat with
  | some image => image.map Char.ofNat
  | none =>
    match lookupRun runs c.toNat with
    | some image => [Char.ofNat image]
    | none => [c]

/-- The upper case of one character. -/
def upperChar (c : Char) : List Char :=
  if c.toNat < 0x80 then [c.toUpper] else mapCase upperWide upperRuns c

/-- The lower case of one character that has no surroundings. -/
def lowerChar (c : Char) : List Char :=
  if c.toNat < 0x80 then [c.toLower] else mapCase lowerWide lowerRuns c

def upper (s : List Char) : List Char := s.flatMap upperChar

/-- Whether the first character that is not transparent has case. -/
def startsCased : List Char → Bool
  | [] => false
  | c :: r => if isTransparent c then startsCased r else isCased c

/-- The lower case of a text, where `inWord` says whether the nearest character before it that is
not transparent has case. -/
def lowerFrom (inWord : Bool) : List Char → List Char
  | [] => []
  | c :: r =>
    let image :=
      if c = 'Σ' then (if inWord && !startsCased r then ['ς'] else ['σ']) else lowerChar c
    image ++ lowerFrom (if isTransparent c then inWord else isCased c) r

def lower (s : List Char) : List Char := lowerFrom false s

/-! ## ASCII -/

theorem lowerFrom_ascii {s : List Char} (h : ∀ c ∈ s, c.toNat < 0x80) (b : Bool) :
    lowerFrom b s = s.map Char.toLower := by
  induction s generalizing b with
  | nil => rfl
  | cons c r ih =>
    have hc := h c (by simp)
    have hs : c ≠ 'Σ' := by
      intro e
      subst e
      exact absurd hc (by decide)
    simp [lowerFrom, lowerChar, hc, hs, ih fun d hd => h d (by simp [hd])]

theorem lower_ascii {s : List Char} (h : ∀ c ∈ s, c.toNat < 0x80) :
    lower s = s.map Char.toLower :=
  lowerFrom_ascii h false

end RowDecl.Text
