import RowDecl.Proofs.Layout

/-!
# Paths and their texts

A path is written with a separator between its segments. `NamespacePath.render_injective_iff`: no
two paths have the same text exactly if the separator has a character that no segment can hold, a
mark. The first mark of a text is then that of its first separator, which tells where the first
segment ends (`word_append`), and so on along the path (`intercalate_inj`). A separator without a
mark is a part of a segment as good as any (`Segment.joined`).
-/

namespace RowDecl

/-! ## Words between separators -/

/-- Two texts of characters that satisfy `p`, each followed by one that does not or by nothing. -/
theorem append_eq_append_of_stop (p : Char → Bool) {s t u v : List Char}
    (hs : ∀ c ∈ s, p c = true) (ht : ∀ c ∈ t, p c = true) (hu : ∀ c ∈ u.head?, p c = false)
    (hv : ∀ c ∈ v.head?, p c = false) (h : s ++ u = t ++ v) : s = t ∧ u = v := by
  have key : ∀ {s u : List Char}, (∀ c ∈ s, p c = true) → (∀ c ∈ u.head?, p c = false) →
      (s ++ u).takeWhile p = s := by
    intro s u hs hu
    rw [List.takeWhile_append_of_pos hs]
    cases u with
    | nil => simp
    | cons c r => simp [hu c rfl]
  obtain rfl : s = t := by rw [← key hs hu, h, key ht hv]
  exact ⟨rfl, List.append_cancel_left h⟩

section
variable (p : Char → Bool) {sep : List Char} (hsep : ∃ c ∈ sep, p c = false)
include hsep

/-- A word ends where the separator behind it begins. -/
theorem word_append {w v s t : List Char} (hw : ∀ c ∈ w, p c = true) (hv : ∀ c ∈ v, p c = true)
    (h : w ++ (sep ++ s) = v ++ (sep ++ t)) : w = v ∧ s = t := by
  -- What stands before the first mark of the separator goes to the word.
  obtain ⟨mark, hfind⟩ : ∃ mark, sep.find? (!p ·) = some mark := by
    rw [← Option.isSome_iff_exists, List.find?_isSome]
    simpa using hsep
  obtain ⟨hmark, before, after, rfl, hbefore⟩ := List.find?_eq_some_iff_append.1 hfind
  simp only [Bool.not_not, Bool.not_eq_true'] at hmark hbefore
  have hstop : ∀ {w : List Char}, (∀ c ∈ w, p c = true) → ∀ c ∈ w ++ before, p c = true := by
    intro w hw c hc
    exact (List.mem_append.1 hc).elim (hw c) (hbefore c)
  simp only [List.append_assoc, List.cons_append] at h
  rw [← List.append_assoc, ← List.append_assoc] at h
  obtain ⟨hfront, hrest⟩ := append_eq_append_of_stop p (hstop hw) (hstop hv)
    (by simpa using hmark) (by simpa using hmark) h
  exact ⟨List.append_cancel_right hfront, List.append_cancel_left (List.cons.inj hrest).2⟩

/-- A single word holds no separator. -/
theorem word_ne_append {w v t : List Char} (hw : ∀ c ∈ w, p c = true) : w ≠ v ++ (sep ++ t) := by
  rintro rfl
  obtain ⟨c, hc, hpc⟩ := hsep
  rw [hw c (by simp [hc])] at hpc
  cases hpc

/-- Words are read off the text that they have with a separator between each two of them. -/
theorem intercalate_inj : ∀ {w v : List Char} {ws vs : List (List Char)},
    (∀ x ∈ w :: ws, ∀ c ∈ x, p c = true) → (∀ x ∈ v :: vs, ∀ c ∈ x, p c = true) →
    sep.intercalate (w :: ws) = sep.intercalate (v :: vs) → w :: ws = v :: vs
  | w, v, [], [], _, _, h => by simpa using h
  | w, v, [], v' :: vs, hw, _, h => by
    rw [List.intercalate_singleton, List.intercalate_cons_cons] at h
    exact absurd h (by simpa using word_ne_append p hsep (hw w (.head _)))
  | w, v, w' :: ws, [], _, hv, h => by
    rw [List.intercalate_singleton, List.intercalate_cons_cons] at h
    exact absurd h.symm (by simpa using word_ne_append p hsep (hv v (.head _)))
  | w, v, w' :: ws, v' :: vs, hw, hv, h => by
    rw [List.intercalate_cons_cons, List.intercalate_cons_cons, List.append_assoc,
      List.append_assoc] at h
    obtain ⟨rfl, hrest⟩ := word_append p hsep (hw w (.head _)) (hv v (.head _)) h
    rw [intercalate_inj (fun x hx => hw x (.tail _ hx)) (fun x hx => hv x (.tail _ hx)) hrest]

end

/-! ## Segments -/

theorem NamespacePath.segments_inj {p q : NamespacePath} (h : p.segments = q.segments) : p = q := by
  cases p with
  | mk head tail =>
    cases q with
    | mk head' tail' => simpa [segments] using h

namespace Segment

theorem toList_text_injective : Function.Injective fun g : Segment => g.text.toList := by
  rintro ⟨text, _⟩ ⟨text', _⟩ h
  cases String.toList_inj.1 h
  rfl

theorem text_injective : Function.Injective Segment.text := fun _ _ h =>
  toList_text_injective (congrArg String.toList h)

/-- Two segments and a text of identifier characters between them as one segment. -/
def joined (a b : Segment) {separator : String}
    (h : ∀ c ∈ separator.toList, Name.isPart c = true) : Segment where
  text := a.text ++ separator ++ b.text
  isIdentifier := by
    have hrest : ∀ c ∈ separator.toList ++ b.text.toList, Name.isPart c = true := by
      intro c hc
      exact (List.mem_append.1 hc).elim (h c) (mem_of_isStrictIdentifier b.isIdentifier)
    have ha := a.isIdentifier
    rw [String.toList_append, String.toList_append, List.append_assoc]
    cases hfirst : a.text.toList with
    | nil => simp [hfirst, Name.isStrictIdentifier] at ha
    | cons c r =>
      rw [hfirst, Name.isStrictIdentifier, Bool.and_eq_true, List.all_eq_true] at ha
      rw [List.cons_append, Name.isStrictIdentifier, Bool.and_eq_true, List.all_eq_true]
      refine ⟨ha.1, fun d hd => ?_⟩
      exact (List.mem_append.1 hd).elim (ha.2 d) (hrest d)

end Segment

/-! ## Paths -/

namespace NamespacePath

/-- Under a separator with a mark, a path is told by its text. -/
theorem render_inj {p q : NamespacePath} {separator : String}
    (hmark : ∃ c ∈ separator.toList, Name.isPart c = false)
    (h : p.render separator = q.render separator) : p = q := by
  have hparts : ∀ p : NamespacePath, ∀ w ∈ p.segments.map (·.text.toList), ∀ c ∈ w,
      Name.isPart c = true := by
    intro p w hw c hc
    obtain ⟨g, -, rfl⟩ := List.mem_map.1 hw
    exact mem_of_isStrictIdentifier g.isIdentifier hc
  have htexts := congrArg String.toList h
  rw [toList_render, toList_render] at htexts
  have hwords := intercalate_inj Name.isPart hmark (hparts p) (hparts q) htexts
  exact segments_inj (List.map_injective_iff.2 Segment.toList_text_injective hwords)

/-- Two segments and one that joins them have the same text. -/
theorem render_joined (a b : Segment) {separator : String}
    (h : ∀ c ∈ separator.toList, Name.isPart c = true) :
    render ⟨a, [b]⟩ separator = render ⟨a.joined b h, []⟩ separator := by
  simp [render, names, segments, Segment.joined]

/-- No two paths have the same text exactly if the separator has a mark. -/
theorem render_injective_iff {separator : String} :
    (Function.Injective fun p : NamespacePath => p.render separator) ↔
      ∃ c ∈ separator.toList, Name.isPart c = false := by
  constructor
  · intro hinj
    by_contra hmark
    have hparts : ∀ c ∈ separator.toList, Name.isPart c = true := by simpa using hmark
    let a : Segment := ⟨"a", by decide⟩
    have htail : [a] = [] := congrArg NamespacePath.tail (hinj (render_joined a a hparts))
    cases htail
  · exact fun hmark p q h => render_inj hmark h

end NamespacePath

end RowDecl
