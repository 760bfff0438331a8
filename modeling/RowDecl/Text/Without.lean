/-! # Leaving pieces out of a text

`without length s` is the text `s` without the pieces that `length` finds in it: where a piece
stands at the front of the rest, `length` counts its characters, elsewhere it counts zero. Pieces
are found from the left and without overlap. A text before another is searched by itself if the
other one does not tell where the pieces in it end (`without_append`). -/

namespace RowDecl.Text

/-- The text without the pieces, where its first `skip` characters belong to one that has begun. -/
def withoutFrom (length : List Char → Nat) : Nat → List Char → List Char
  | _, [] => []
  | skip + 1, _ :: r => withoutFrom length skip r
  | 0, c :: r =>
    match length (c :: r) with
    | 0 => c :: withoutFrom length 0 r
    | skip + 1 => withoutFrom length skip r

/-- The text without the pieces that a measure finds. -/
def without (length : List Char → Nat) (s : List Char) : List Char := withoutFrom length 0 s

theorem withoutFrom_eq_drop (length : List Char → Nat) (skip : Nat) (s : List Char) :
    withoutFrom length skip s = without length (s.drop skip) := by
  induction skip generalizing s with
  | zero => simp [without]
  | succ skip ih =>
    cases s with
    | nil => simp [without, withoutFrom]
    | cons c r => simp [withoutFrom, ih]

@[simp] theorem without_nil (length : List Char → Nat) : without length [] = [] := rfl

/-- A character at whose place no piece begins stays. -/
theorem without_cons_of_eq_zero {length : List Char → Nat} {c : Char} {r : List Char}
    (h : length (c :: r) = 0) : without length (c :: r) = c :: without length r := by
  simp [without, withoutFrom, h]

/-- A piece at the front goes as a whole. -/
theorem without_of_pos {length : List Char → Nat} {s : List Char} (h : 0 < length s) :
    without length s = without length (s.drop (length s)) := by
  cases s with
  | nil => simp
  | cons c r =>
    cases hn : length (c :: r) with
    | zero => omega
    | succ skip =>
      rw [List.drop_succ_cons, ← withoutFrom_eq_drop]
      simp [without, withoutFrom, hn]

/-- A piece before a text goes, and the text is searched by itself. -/
theorem without_append_of_eq_length {length : List Char → Nat} {s v : List Char}
    (h : length (s ++ v) = s.length) : without length (s ++ v) = without length v := by
  cases s with
  | nil => rfl
  | cons c r =>
    have hpos : 0 < length (c :: r ++ v) := h ▸ Nat.zero_lt_succ _
    rw [without_of_pos hpos, h, List.drop_left]

/-- A text in which no piece begins stays, whatever follows it. -/
theorem without_append_of_eq_zero {length : List Char → Nat} {v : List Char} : ∀ {s : List Char},
    (∀ t, t <:+ s → t ≠ [] → length (t ++ v) = 0) → without length (s ++ v) = s ++ without length v
  | [], _ => rfl
  | c :: r, h => by
    have hr := without_append_of_eq_zero fun t ht => h t (ht.trans (List.suffix_cons c r))
    have hzero : length (c :: (r ++ v)) = 0 :=
      h (c :: r) (List.suffix_refl _) (List.cons_ne_nil _ _)
    rw [List.cons_append, without_cons_of_eq_zero hzero, hr, List.cons_append]

/-- A text is searched by itself if what follows changes none of the pieces that begin in it. -/
theorem without_append {length : List Char → Nat} {s v : List Char}
    (hlength : ∀ t, t <:+ s → t ≠ [] → length (t ++ v) = length t)
    (hle : ∀ t, length t ≤ t.length) :
    without length (s ++ v) = without length s ++ without length v := by
  suffices h : ∀ skip, skip ≤ s.length →
      withoutFrom length skip (s ++ v) = withoutFrom length skip s ++ without length v from
    h 0 (Nat.zero_le _)
  induction s with
  | nil =>
    intro skip hskip
    obtain rfl := Nat.le_zero.1 hskip
    rfl
  | cons c r ih =>
    have ih := ih fun t ht => hlength t (ht.trans (List.suffix_cons c r))
    intro skip hskip
    cases skip with
    | succ skip => exact ih skip (Nat.le_of_succ_le_succ hskip)
    | zero =>
      have hfront : length (c :: (r ++ v)) = length (c :: r) :=
        hlength (c :: r) (List.suffix_refl _) (List.cons_ne_nil _ _)
      have hend := hle (c :: r)
      rw [List.cons_append, withoutFrom, withoutFrom, hfront]
      cases hn : length (c :: r) with
      | zero => exact congrArg (c :: ·) (ih 0 (Nat.zero_le _))
      | succ skip =>
        rw [hn] at hend
        exact ih skip (Nat.le_of_succ_le_succ hend)

end RowDecl.Text
