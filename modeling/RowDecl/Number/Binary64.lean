/-! # Binary floating point numbers

A number in 64 bits is a sign, a mantissa below `2 ^ 53` and a power of two no smaller than
`2 ^ -1074`, or infinite, or not a number. `ofDecimal` rounds a decimal to the nearest one, a tie
going to the even mantissa. -/

namespace RowDecl

/-- A number in 64 bits; a finite one is `± mantissa * 2 ^ exponent`. -/
inductive Binary64
  | finite (negative : Bool) (mantissa : Nat) (exponent : Int)
  | infinite (negative : Bool)
  | nan
  deriving DecidableEq, Repr, Inhabited

namespace Binary64

/-- The number zero with a sign. -/
def zero (negative : Bool) : Binary64 := .finite negative 0 (-1074)

def isZero : Binary64 → Bool
  | .finite _ m _ => m == 0
  | _ => false

/-- The number of decimal digits of a natural number. -/
def decimalLength (n : Nat) : Nat := (Nat.toDigits 10 n).length

/-- The natural number nearest to `num / den`, a tie going to the even one. -/
def nearest (num den : Nat) : Nat :=
  let q := num / den
  let r := num % den
  if 2 * r < den ∨ (2 * r = den ∧ q % 2 = 0) then q else q + 1

/-- The quotient `num / den` times `2 ^ (-e)` as a numerator and a denominator. -/
def scaled (num den : Nat) (e : Int) : Nat × Nat :=
  (num * Nat.pow 2 (-e).toNat, den * Nat.pow 2 e.toNat)

/-- The number nearest to `± num / den`, for a positive numerator and denominator. -/
def ofQuotient (negative : Bool) (num den : Nat) : Binary64 :=
  let top : Int := (num.log2 : Int) - den.log2
  let (n, d) := scaled num den top
  let lead := if n < d then top - 1 else top
  let e := max (lead - 52) (-1074)
  let (n, d) := scaled num den e
  let m := nearest n d
  let (m, e) := if m = Nat.pow 2 53 then (Nat.pow 2 52, e + 1) else (m, e)
  if e > 971 then .infinite negative else .finite negative m e

/-- The number nearest to `± digits * 10 ^ exponent`. Beyond `10 ^ 310` it is infinite and below
`10 ^ -330` zero, whatever the digits. -/
def ofDecimal (negative : Bool) (digits : Nat) (exponent : Int) : Binary64 :=
  let magnitude := exponent + decimalLength digits
  if digits = 0 ∨ magnitude < -330 then zero negative
  else if magnitude > 310 then .infinite negative
  else ofQuotient negative (digits * Nat.pow 10 exponent.toNat) (Nat.pow 10 (-exponent).toNat)

/-- The integer that the number is, if it is one. -/
def toInt? : Binary64 → Option Int
  | .finite negative m e =>
    let signed (n : Nat) : Int := if negative then -(n : Int) else n
    let den := Nat.pow 2 (-e).toNat
    if m % den = 0 then some (signed (m / den * Nat.pow 2 e.toNat)) else none
  | _ => none

end Binary64

end RowDecl
