import RowDecl.Number.Binary64

/-! # The shortest decimal

A binary number is written with the fewest digits that read back as the same number, and among
those with the nearest. `text` lays the digits out: positional from `10 ^ -4` up to below
`10 ^ 16`, with an exponent of two digits or more elsewhere. -/

namespace RowDecl.Binary64

/-- The numbers that round to a given one lie between `low / den` and `high / den`, the ends
included when its mantissa is even; the number itself is `mid / den`. -/
structure Rounding where
  low : Nat
  mid : Nat
  high : Nat
  den : Nat
  closed : Bool

/-- The numbers that round to `m * 2 ^ e`. Below a power of two the neighbours are twice as
close. -/
def Rounding.of (m : Nat) (e : Int) : Rounding :=
  let unit := Nat.pow 2 e.toNat
  let below := if m = Nat.pow 2 52 ∧ e > -1074 then 1 else 2
  ⟨4 * m * unit - below * unit, 4 * m * unit, 4 * m * unit + 2 * unit, 4 * Nat.pow 2 (-e).toNat,
    m % 2 = 0⟩

/-- Whether `d * 10 ^ k` rounds to the number. -/
def Rounding.admits (r : Rounding) (d : Nat) (k : Int) : Bool :=
  let up := Nat.pow 10 (-k).toNat
  let x := d * Nat.pow 10 k.toNat * r.den
  if r.closed then r.low * up ≤ x && x ≤ r.high * up else r.low * up < x && x < r.high * up

/-- The exponent of the leading decimal digit of `num / den`. -/
def leadingExponent (num den : Nat) : Int := decimalLength (num * Nat.pow 10 340 / den) - 341

/-- The decimal `(d, k)`, for `d * 10 ^ k`, of so many digits that rounds to the number and is
nearest to it, if there is one. -/
def Rounding.decimalOf? (r : Rounding) (digits : Nat) : Option (Nat × Int) :=
  let k := leadingExponent r.mid r.den - digits + 1
  let num := r.mid * Nat.pow 10 (-k).toNat
  let den := r.den * Nat.pow 10 k.toNat
  let d := num / den
  match r.admits d k, r.admits (d + 1) k with
  | true, true => some (nearest num den, k)
  | true, false => some (d, k)
  | false, true => some (d + 1, k)
  | false, false => none

/-- The nearest of the shortest decimals; seventeen digits are always enough. -/
def shortest (m : Nat) (e : Int) : Nat × Int :=
  let r := Rounding.of m e
  ((List.range 17).findSome? fun n => r.decimalOf? (n + 1)).getD (0, 0)

/-- The digits of a decimal without its final zeros, and the place of the point: that many digits
stand before it. -/
def digitsAndPoint (d : Nat) (k : Int) : List Char × Int :=
  let ds := Nat.toDigits 10 d
  ((ds.reverse.dropWhile (· == '0')).reverse, ds.length + k)

/-- An exponent with its sign and at least two digits. -/
def exponentText (e : Int) : List Char :=
  let ds := Nat.toDigits 10 e.natAbs
  (if e < 0 then '-' else '+') :: (List.replicate (2 - ds.length) '0' ++ ds)

/-- The digits with the point in its place, or with an exponent where the place is far away. -/
def layout (ds : List Char) (point : Int) : List Char :=
  if -4 < point ∧ point ≤ 16 then
    if point ≤ 0 then '0' :: '.' :: (List.replicate (-point).toNat '0' ++ ds)
    else if ds.length ≤ point.toNat then
      ds ++ List.replicate (point.toNat - ds.length) '0' ++ ['.', '0']
    else ds.take point.toNat ++ '.' :: ds.drop point.toNat
  else
    let mantissa := match ds with
      | [] => ['0']
      | [d] => [d]
      | d :: r => d :: '.' :: r
    mantissa ++ 'e' :: exponentText (point - 1)

/-- The number in decimal notation. -/
def text : Binary64 → String
  | .finite negative m e =>
    let magnitude :=
      if m = 0 then ['0', '.', '0']
      else
        let (d, k) := shortest m e
        let (ds, point) := digitsAndPoint d k
        layout ds point
    String.ofList (if negative then '-' :: magnitude else magnitude)
  | .infinite negative => if negative then "-inf" else "inf"
  | .nan => "nan"

end RowDecl.Binary64
