/-! # Cutting a text at a separator

`split sep s` is the list of the pieces of `s` between the occurrences of `sep`, found from the
left and without overlap. `join_split` puts the pieces back together and `split_ne_nil` says that
there is always one. -/

namespace RowDecl.Text

/-- The first piece and the later ones, where the first `skip` characters belong to a separator
that has begun. -/
def splitFrom (sep : List Char) : Nat → List Char → List Char × List (List Char)
  | _, [] => ([], [])
  | skip + 1, _ :: r => splitFrom sep skip r
  | 0, c :: r =>
    if sep.isPrefixOf (c :: r) then
      let later := splitFrom sep (sep.length - 1) r
      ([], later.1 :: later.2)
    else
      let later := splitFrom sep 0 r
      (c :: later.1, later.2)

/-- The pieces between the occurrences of a separator that is not empty. -/
def split (sep s : List Char) : List (List Char) :=
  (splitFrom sep 0 s).1 :: (splitFrom sep 0 s).2

/-- The pieces with the separator between each two of them. -/
def join (sep : List Char) (pieces : List (List Char)) : List Char := sep.intercalate pieces

theorem split_ne_nil (sep s : List Char) : split sep s ≠ [] := by simp [split]

theorem splitFrom_drop (sep : List Char) (k : Nat) (s : List Char) :
    splitFrom sep k s = splitFrom sep 0 (s.drop k) := by
  induction k generalizing s with
  | zero => simp
  | succ k ih =>
    cases s with
    | nil => simp [splitFrom]
    | cons c r => simp [splitFrom, ih]

@[simp] theorem split_nil (sep : List Char) : split sep [] = [[]] := rfl

/-- A separator of one character cuts at each of its occurrences. -/
theorem split_singleton_cons (d c : Char) (s : List Char) :
    split [d] (c :: s) =
      if c = d then [] :: split [d] s else (split [d] s).modifyHead (c :: ·) := by
  by_cases h : c = d
  · subst h; simp [split, splitFrom, List.isPrefixOf]
  · have hb : (d == c) = false := by simpa using fun e => h e.symm
    simp [split, splitFrom, List.isPrefixOf, h, hb]

theorem join_cons (sep p : List Char) {ps : List (List Char)} (h : ps ≠ []) :
    join sep (p :: ps) = p ++ sep ++ join sep ps := by
  cases ps with
  | nil => simp at h
  | cons q qs => simp [join, List.intercalate, List.intersperse]

/-- The pieces put back together are the text. -/
theorem join_split {sep : List Char} (hsep : sep ≠ []) (s : List Char) :
    join sep (split sep s) = s := by
  suffices h : ∀ n (s : List Char), s.length ≤ n → join sep (split sep s) = s from
    h s.length s (Nat.le_refl _)
  intro n
  induction n with
  | zero =>
    intro s hs
    have : s = [] := List.eq_nil_of_length_eq_zero (by omega)
    subst this
    simp [join, List.intercalate]
  | succ n ih =>
    intro s hs
    cases s with
    | nil => simp [join, List.intercalate]
    | cons c r =>
      by_cases hp : sep.isPrefixOf (c :: r)
      · obtain ⟨t, ht⟩ := List.isPrefixOf_iff_prefix.mp hp
        have hcut : split sep (c :: r) = [] :: split sep t := by
          have hlen : r.drop (sep.length - 1) = t := by
            cases sep with
            | nil => simp at hsep
            | cons d ds =>
              simp only [List.cons_append, List.cons.injEq] at ht
              simp [← ht.2]
          simp [split, splitFrom, hp, splitFrom_drop sep (sep.length - 1) r, hlen]
        have hlt : t.length ≤ n := by
          have := congrArg List.length ht
          have : 0 < sep.length := List.length_pos_iff.mpr hsep
          simp only [List.length_append, List.length_cons] at *
          omega
        rw [hcut, join_cons _ _ (split_ne_nil _ _), ih t hlt]
        simpa using ht
      · have hcut : split sep (c :: r) = (split sep r).modifyHead (c :: ·) := by
          simp [split, splitFrom, hp]
        have hr := ih r (by simp only [List.length_cons] at hs; omega)
        rw [hcut]
        cases hq : split sep r with
        | nil => exact absurd hq (split_ne_nil _ _)
        | cons q qs =>
          rw [hq] at hr
          cases qs with
          | nil => simp_all [join, List.intercalate]
          | cons q' qs =>
            rw [join_cons _ _ (by simp)] at hr
            rw [List.modifyHead_cons, join_cons _ _ (by simp)]
            simp [← hr]

end RowDecl.Text
