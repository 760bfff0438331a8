import RowDecl.Name.CamelCase

/-!
# What case mappings keep

A character of ASCII that is no letter has no case: it is the image of itself alone, in upper and in
lower case (`eq_of_mem_upperChar`, `eq_of_mem_lowerChar`). So such a character stands in the camel
case of a name only if it stands in the name (`mem_of_mem_camelCase`): no line feed, no quote and
no brace comes in on the way from a column to its field. Of the words of a name, in turn, nothing is
lost but underscores (`exists_mem_words`).
-/

namespace RowDecl

namespace Text

/-- The characters of ASCII that are no letters. -/
def isUncased (c : Char) : Bool := c.toNat < 0x80 && !c.isAlpha

/-! ## The tables -/

/-- Whether the code points from `first` to `last` are those of characters that are no uncased ones:
all above ASCII, or a single letter of it. -/
def isCasedRange (first last : Nat) : Bool :=
  (last < 0xD800 || (0xDFFF < first && last < 0x110000)) &&
    (0x80 ≤ first || (first = last && (Char.ofNat first).isAlpha))

theorem toNat_ofNat {n : Nat} (h : n.isValidChar) : (Char.ofNat n).toNat = n := by
  unfold Char.ofNat
  rw [dif_pos h]
  rfl

theorem isUncased_ofNat {first last n : Nat} (h : isCasedRange first last = true)
    (hfirst : first ≤ n) (hlast : n ≤ last) : isUncased (Char.ofNat n) = false := by
  simp only [isCasedRange, Bool.and_eq_true, Bool.or_eq_true, decide_eq_true_eq] at h
  obtain ⟨hvalid, hcase⟩ := h
  rcases hcase with hhigh | ⟨hone, halpha⟩
  · have hn : (Char.ofNat n).toNat = n := by
      apply toNat_ofNat
      unfold Nat.isValidChar
      omega
    have hge : ¬ n < 0x80 := by omega
    simp [isUncased, hn, hge]
  · obtain rfl : n = first := by omega
    simp [isUncased, halpha]

theorem CaseRun.image?_bounds {r : CaseRun} {n k : Nat} (h : r.image? n = some k) :
    r.image ≤ k ∧ k ≤ r.image + (r.last - r.first) := by
  unfold image? at h
  split at h
  · rename_i hn
    simp only [Option.some.injEq] at h
    omega
  · cases h

/-- No image in a table is an uncased character. -/
structure IsCasedTable (wide : List (Nat × List Nat)) (runs : List CaseRun) : Prop where
  wide : ∀ p ∈ wide, ∀ k ∈ p.2, isCasedRange k k = true
  runs : ∀ r ∈ runs, isCasedRange r.image (r.image + (r.last - r.first)) = true

theorem isCasedTable_upper : IsCasedTable upperWide upperRuns :=
  ⟨by decide +kernel, by decide +kernel⟩

theorem isCasedTable_lower : IsCasedTable lowerWide lowerRuns :=
  ⟨by decide +kernel, by decide +kernel⟩

theorem eq_of_mem_mapCase {wide : List (Nat × List Nat)} {runs : List CaseRun}
    (ht : IsCasedTable wide runs) {c x : Char} (hx : isUncased x = true)
    (h : x ∈ mapCase wide runs c) : x = c := by
  unfold mapCase at h
  split at h
  · rename_i image hwide
    obtain ⟨k, hk, rfl⟩ := List.mem_map.1 h
    obtain ⟨before, after, hsplit, -⟩ := List.lookup_eq_some_iff.1 hwide
    have hmem : (c.toNat, image) ∈ wide := by
      rw [hsplit]
      exact List.mem_append_right before (.head after)
    rw [isUncased_ofNat (ht.wide _ hmem k hk) (Nat.le_refl k) (Nat.le_refl k)] at hx
    cases hx
  · split at h
    · rename_i k hrun
      obtain rfl := List.mem_singleton.1 h
      obtain ⟨r, hr, hk⟩ := List.exists_of_findSome?_eq_some hrun
      obtain ⟨hfirst, hlast⟩ := CaseRun.image?_bounds hk
      rw [isUncased_ofNat (ht.runs r hr) hfirst hlast] at hx
      cases hx
    · exact List.mem_singleton.1 h

/-! ## Characters and texts -/

/-- What holds of the first code points holds of the characters of ASCII. -/
theorem forall_ascii {P : Char → Prop} (h : ∀ n < 0x80, P (Char.ofNat n)) {c : Char}
    (hc : c.toNat < 0x80) : P c := by
  have hP := h c.toNat hc
  rwa [Char.ofNat_toNat] at hP

theorem eq_of_toUpper {c : Char} (hc : c.toNat < 0x80) :
    isUncased c.toUpper = true → c.toUpper = c :=
  forall_ascii (P := fun c => isUncased c.toUpper = true → c.toUpper = c) (by decide +kernel) hc

theorem eq_of_toLower {c : Char} (hc : c.toNat < 0x80) :
    isUncased c.toLower = true → c.toLower = c :=
  forall_ascii (P := fun c => isUncased c.toLower = true → c.toLower = c) (by decide +kernel) hc

/-- An uncased character is the upper case of itself alone. -/
theorem eq_of_mem_upperChar {c x : Char} (hx : isUncased x = true) (h : x ∈ upperChar c) :
    x = c := by
  unfold upperChar at h
  split at h
  · rename_i hc
    obtain rfl := List.mem_singleton.1 h
    exact eq_of_toUpper hc hx
  · exact eq_of_mem_mapCase isCasedTable_upper hx h

/-- An uncased character is the lower case of itself alone. -/
theorem eq_of_mem_lowerChar {c x : Char} (hx : isUncased x = true) (h : x ∈ lowerChar c) :
    x = c := by
  unfold lowerChar at h
  split at h
  · rename_i hc
    obtain rfl := List.mem_singleton.1 h
    exact eq_of_toLower hc hx
  · exact eq_of_mem_mapCase isCasedTable_lower hx h

theorem mem_of_mem_lowerFrom {x : Char} (hx : isUncased x = true) :
    ∀ {s : List Char} {inWord : Bool}, x ∈ lowerFrom inWord s → x ∈ s
  | [], _, h => h
  | c :: r, inWord, h => by
    simp only [lowerFrom, List.mem_append] at h
    rcases h with h | h
    · split at h
      · -- Both forms of a small sigma are above ASCII.
        split at h
        · obtain rfl := List.mem_singleton.1 h
          exact absurd hx (by decide)
        · obtain rfl := List.mem_singleton.1 h
          exact absurd hx (by decide)
      · rw [eq_of_mem_lowerChar hx h]
        exact .head _
    · exact .tail _ (mem_of_mem_lowerFrom hx h)

theorem mem_of_mem_lower {x : Char} {s : List Char} (hx : isUncased x = true) (h : x ∈ lower s) :
    x ∈ s :=
  mem_of_mem_lowerFrom hx h

/-! ## Pieces -/

theorem mem_join {sep p : List Char} {c : Char} (hc : c ∈ p) :
    ∀ {pieces : List (List Char)}, p ∈ pieces → c ∈ join sep pieces
  | [q], hp => by
    obtain rfl := List.mem_singleton.1 hp
    simpa [join] using hc
  | q :: q' :: r, hp => by
    rw [join_cons _ _ (by simp)]
    simp only [List.mem_append]
    rcases List.mem_cons.1 hp with rfl | hp
    · exact .inl (.inl hc)
    · exact .inr (mem_join hc hp)

/-- A character of pieces put together is one of the separator or of a piece. -/
theorem mem_of_mem_join {sep : List Char} {c : Char} :
    ∀ {pieces : List (List Char)}, c ∈ join sep pieces → c ∈ sep ∨ ∃ p ∈ pieces, c ∈ p
  | [], h => by cases h
  | [p], h => .inr ⟨p, .head _, by simpa [join] using h⟩
  | p :: q :: r, h => by
    rw [join_cons _ _ (List.cons_ne_nil q r), List.mem_append, List.mem_append] at h
    rcases h with (h | h) | h
    · exact .inr ⟨p, .head _, h⟩
    · exact .inl h
    · obtain hsep | ⟨x, hx, hcx⟩ := mem_of_mem_join h
      · exact .inl hsep
      · exact .inr ⟨x, .tail _ hx, hcx⟩

/-- The pieces of a text hold nothing but its characters. -/
theorem mem_of_mem_split {sep s p : List Char} {c : Char} (hsep : sep ≠ []) (hp : p ∈ split sep s)
    (hc : c ∈ p) : c ∈ s := by
  rw [← join_split hsep s]
  exact mem_join hc hp

end Text

/-! ## Camel case -/

namespace Name

theorem mem_of_mem_words {s w : List Char} {c : Char} (hw : w ∈ words s) (hc : c ∈ w) : c ∈ s :=
  Text.mem_of_mem_split (List.cons_ne_nil _ _) (List.mem_filter.1 hw).1 hc

/-- A character that is no underscore stands in a word. -/
theorem exists_mem_words {s : List Char} {c : Char} (hc : c ∈ s) (hne : c ≠ '_') :
    ∃ w ∈ words s, c ∈ w := by
  rw [← Text.join_split (List.cons_ne_nil '_' []) s] at hc
  obtain hsep | ⟨w, hw, hcw⟩ := Text.mem_of_mem_join hc
  · exact absurd (List.mem_singleton.1 hsep) hne
  · have hword : w ∈ words s := by
      rw [words, List.mem_filter]
      exact ⟨hw, by simpa using List.ne_nil_of_mem hcw⟩
    exact ⟨w, hword, hcw⟩

theorem camelCase_of_words {s w : List Char} {ws : List (List Char)} (h : '_' ∈ s)
    (hwords : words s = w :: ws) : camelCase s = Text.lower w ++ ws.flatMap capitalize := by
  rw [camelCase, if_pos h, hwords]

theorem mem_of_mem_capitalize {x : Char} (hx : Text.isUncased x = true) :
    ∀ {w : List Char}, x ∈ capitalize w → x ∈ w
  | [], h => h
  | c :: r, h => by
    rcases List.mem_append.1 h with h | h
    · rw [Text.eq_of_mem_upperChar hx h]
      exact .head _
    · exact .tail _ (Text.mem_of_mem_lower hx h)

/-- Camel case brings no uncased character into a name. -/
theorem mem_of_mem_camelCase {x : Char} (hx : Text.isUncased x = true) {s : List Char}
    (h : x ∈ camelCase s) : x ∈ s := by
  unfold camelCase at h
  split at h
  · split at h
    · exact h
    · rename_i w ws hwords
      have hword : ∀ v ∈ w :: ws, x ∈ v → x ∈ s := by
        intro v hv hxv
        rw [← hwords] at hv
        exact mem_of_mem_words hv hxv
      rcases List.mem_append.1 h with h | h
      · exact hword w (.head _) (Text.mem_of_mem_lower hx h)
      · obtain ⟨v, hv, h⟩ := List.mem_flatMap.1 h
        exact hword v (.tail _ hv) (mem_of_mem_capitalize hx h)
  · exact h

end Name

end RowDecl
