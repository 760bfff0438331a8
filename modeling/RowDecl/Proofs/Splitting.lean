import RowDecl.Proofs.PathText

/-!
# Texts cut at a separator

A separator of one character cuts as `List.splitOn` does (`split_singleton`). Words are the pieces
of the text that joins them (`split_intercalate`) if the separator has a mark, a character that no
word holds: an occurrence of the separator puts its first mark where the text has one, so that none
begins inside a word.
-/

namespace RowDecl.Text

theorem split_singleton (d : Char) : ∀ s : List Char, split [d] s = s.splitOn d
  | [] => rfl
  | c :: s => by
    rw [split_singleton_cons, List.splitOn_cons_eq_if_modifyHead, split_singleton d s]
    simp only [beq_iff_eq]

/-- A piece between separators of one character does not hold it. -/
theorem not_mem_of_mem_split {d : Char} {s p : List Char} (hp : p ∈ split [d] s) : d ∉ p := by
  induction s generalizing p with
  | nil =>
    rw [List.mem_singleton.1 hp]
    exact List.not_mem_nil
  | cons c s ih =>
    rw [split_singleton_cons] at hp
    split at hp
    · rcases List.mem_cons.1 hp with rfl | hp
      · exact List.not_mem_nil
      · exact ih hp
    · rename_i hc
      obtain ⟨q, qs, hsplit⟩ := List.exists_cons_of_ne_nil (split_ne_nil [d] s)
      rw [hsplit] at hp ih
      rcases List.mem_cons.1 hp with rfl | hp
      · exact List.not_mem_cons_of_ne_of_not_mem (Ne.symm hc) (ih (.head qs))
      · exact ih (.tail q hp)

/-! ## Separators of any length -/

theorem split_append {sep : List Char} (hsep : sep ≠ []) (s : List Char) :
    split sep (sep ++ s) = [] :: split sep s := by
  cases sep with
  | nil => exact absurd rfl hsep
  | cons d ds =>
    have hfront : (d :: ds).isPrefixOf (d :: (ds ++ s)) = true := by
      rw [List.isPrefixOf_iff_prefix, ← List.cons_append]
      exact List.prefix_append _ _
    rw [List.cons_append, split, splitFrom, if_pos hfront, splitFrom_drop]
    simp [split]

theorem split_cons_of_not_isPrefixOf {sep : List Char} {c : Char} {s : List Char}
    (h : ¬sep <+: c :: s) : split sep (c :: s) = (split sep s).modifyHead (c :: ·) := by
  rw [← List.isPrefixOf_iff_prefix] at h
  simp [split, splitFrom, h]

section
variable (p : Char → Bool) {sep : List Char} (hsep : ∃ c ∈ sep, p c = false)
include hsep

/-- A word is cut off by the separator behind it. -/
theorem split_word_append (s : List Char) :
    ∀ {w : List Char}, (∀ c ∈ w, p c = true) → split sep (w ++ (sep ++ s)) = w :: split sep s
  | [], _ => by
    refine split_append ?_ s
    rintro rfl
    simp at hsep
  | c :: w, hw => by
    have hnot : ¬sep <+: c :: (w ++ (sep ++ s)) := by
      -- An occurrence here would have its first mark before the one of the occurrence behind `w`.
      rintro ⟨t, ht⟩
      have hnil := (word_append p hsep (w := []) (by simp) hw ht).1
      cases hnil
    rw [List.cons_append, split_cons_of_not_isPrefixOf hnot,
      split_word_append s fun d hd => hw d (.tail _ hd), List.modifyHead_cons]

/-- A single word is not cut. -/
theorem split_word : ∀ {w : List Char}, (∀ c ∈ w, p c = true) → split sep w = [w]
  | [], _ => rfl
  | c :: w, hw => by
    have hnot : ¬sep <+: c :: w := by
      rintro ⟨t, ht⟩
      exact word_ne_append p hsep (v := []) hw ht.symm
    rw [split_cons_of_not_isPrefixOf hnot, split_word fun d hd => hw d (.tail _ hd),
      List.modifyHead_cons]

/-- Words are the pieces of the text that they have with a separator between each two of them. -/
theorem split_intercalate : ∀ {w : List Char} {ws : List (List Char)},
    (∀ x ∈ w :: ws, ∀ c ∈ x, p c = true) → split sep (sep.intercalate (w :: ws)) = w :: ws
  | w, [], h => by
    rw [List.intercalate_singleton]
    exact split_word p hsep (h w (.head _))
  | w, v :: ws, h => by
    rw [List.intercalate_cons_cons, List.append_assoc, split_word_append p hsep _ (h w (.head _)),
      split_intercalate fun x hx => h x (.tail _ hx)]

end

end RowDecl.Text
