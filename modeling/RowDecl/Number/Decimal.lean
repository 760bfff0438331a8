/-! # Whole numbers in decimal notation -/

namespace RowDecl

/-- A natural number in decimal notation. -/
def natText (n : Nat) : String := String.ofList (Nat.toDigits 10 n)

theorem natText_inj {m n : Nat} (h : natText m = natText n) : m = n := by
  have hvalue := congrArg (Nat.ofDigitChars 10 · 0) (String.ofList_injective h)
  simpa [Nat.ofDigitChars_toDigits] using hvalue

theorem isDigit_of_mem_natText {n : Nat} {c : Char} (hc : c ∈ (natText n).toList) :
    c.isDigit = true := by
  rw [natText, String.toList_ofList] at hc
  exact Nat.isDigit_of_mem_toDigits (by decide) (by decide) hc

/-- An integer in decimal notation, with a minus sign if it is negative. -/
def intText (n : Int) : String := if n < 0 then "-" ++ natText n.natAbs else natText n.natAbs

end RowDecl
