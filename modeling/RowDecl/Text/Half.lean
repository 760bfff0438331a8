import RowDecl.Number.Decimal
import RowDecl.Text.Quoted

/-! # Halves of surrogate pairs

A document can spell half of a surrogate pair by itself. It is a part of a text like any character,
but it is none, and a text that holds one has no bytes. Texts consist of characters here, so a half
is carried by a character that stands for it alone; which characters these are is left open
(`Halves`). `fault?_eq_none_iff` says which texts have bytes. -/

namespace RowDecl.Text

/-- Half of a surrogate pair, by its place among them. -/
abbrev Half := Fin 0x800

/-- The code of a half. -/
def Half.code (h : Half) : Nat := 0xD800 + h.val

/-- The half that has a code, if one has it. -/
def Half.ofCode? (n : Nat) : Option Half :=
  if h : 0xD800 ≤ n ∧ n < 0xE000 then some ⟨n - 0xD800, by omega⟩ else none

/-- The half as it is spelled where it cannot be shown. -/
def Half.escape (h : Half) : List Char := '\\' :: 'u' :: hexDigits 4 h.code

/-- The characters that carry the halves, each one half and none of them in ASCII. -/
structure Halves where
  carrier : Half → Char
  half? : Char → Option Half
  half?_eq_some_iff : ∀ {c h}, half? c = some h ↔ carrier h = c
  beyondAscii : ∀ h, 0x80 ≤ (carrier h).toNat

/-- The first halves in a text that stand side by side: the first of them, its place and their
number. -/
structure HalfFault where
  first : Half
  position : Nat
  count : Nat
  deriving DecidableEq, Repr

def HalfFault.message (f : HalfFault) : String :=
  let place :=
    if f.count = 1 then
      " '" ++ String.ofList f.first.escape ++ "' in position " ++ natText f.position
    else
      "s in position " ++ natText f.position ++ "-" ++ natText (f.position + f.count - 1)
  "'utf-8' codec can't encode character" ++ place ++ ": surrogates not allowed"

namespace Halves

variable (m : Halves)

/-- The character of a code unit: that of its code, or the carrier of a half. -/
def unitChar (n : Nat) : Char :=
  match Half.ofCode? n with
  | some h => m.carrier h
  | none => Char.ofNat n

def isHalf (c : Char) : Bool := (m.half? c).isSome

/-- What keeps a text from having bytes. -/
def fault? (s : List Char) : Option HalfFault :=
  let rest := s.dropWhile fun c => !m.isHalf c
  (rest.head?.bind m.half?).map fun first =>
    ⟨first, s.length - rest.length, (rest.takeWhile m.isHalf).length⟩

/-- A text as it is shown: halves are spelled. -/
def shown (s : List Char) : List Char :=
  s.flatMap fun c => match m.half? c with | some h => h.escape | none => [c]

/-- A text has bytes exactly if it holds no half. -/
theorem fault?_eq_none_iff {s : List Char} : m.fault? s = none ↔ ∀ c ∈ s, m.half? c = none := by
  unfold fault?
  dsimp only
  rw [Option.map_eq_none_iff]
  induction s with
  | nil => simp
  | cons c r ih =>
    rw [List.dropWhile_cons, List.forall_mem_cons, ← ih]
    cases hc : m.half? c <;> simp [isHalf, hc]

/-- The code of a character in a block that has no others. -/
theorem toNat_standardCarrier (h : Half) :
    (Char.ofNat (0xB0000 + h.val)).toNat = 0xB0000 + h.val := by
  have hvalid : (0xB0000 + h.val).isValidChar := .inr ⟨by omega, by omega⟩
  rw [Char.ofNat, dif_pos hvalid]
  rfl

/-- Characters in a block that has no others carry the halves. -/
def standard : Halves where
  carrier h := Char.ofNat (0xB0000 + h.val)
  half? c :=
    if h : 0xB0000 ≤ c.toNat ∧ c.toNat < 0xB0800 then some ⟨c.toNat - 0xB0000, by omega⟩ else none
  half?_eq_some_iff := by
    intro c h
    have hcarrier := toNat_standardCarrier h
    constructor
    · intro hc
      split at hc
      · rename_i hblock
        have hval := congrArg Fin.val (Option.some.inj hc)
        dsimp only at hval
        exact Char.toNat_inj.1 (by rw [hcarrier, ← hval]; omega)
      · cases hc
    · rintro rfl
      have hblock : 0xB0000 ≤ 0xB0000 + h.val ∧ 0xB0000 + h.val < 0xB0800 := ⟨by omega, by omega⟩
      simp only [hcarrier, hblock, and_self, dite_true, Nat.add_sub_cancel_left]
  beyondAscii h := by
    rw [toNat_standardCarrier]
    omega

end Halves

end RowDecl.Text
