import RowDecl.Declaration.Braces
import RowDecl.Declaration.Property

/-!
# What the scanner leaves

The check of braces looks at the `code` of a text, which has no quoted names and no comments. A text
is scanned from the left, so a part of it may be scanned by itself only if it ends where the scanner
stops. The end of a line is such a place in every text (`code_append_line`): no quoted name and no
comment goes on behind it, and what begins before it is told by its line alone
(`hiddenLength_append_line`).

`Leaves s t` says that a part ends where the scanner stops and that `t` is left of `s`, whatever
follows; such parts can be put together (`Leaves.append`). A quoted name is taken out as a whole,
whatever it holds but a line feed (`leaves_quotedName`): each quote in it stands behind a backslash,
where the scanner skips it.
-/

namespace RowDecl

/-- The scanner leaves `t` of the text `s`, whatever follows. -/
def Leaves (s t : List Char) : Prop := ∀ v, code (s ++ v) = t ++ code v

namespace Leaves

theorem nil : Leaves [] [] := fun _ => rfl

theorem append {s t s' t' : List Char} (h : Leaves s t) (h' : Leaves s' t') :
    Leaves (s ++ s') (t ++ t') := by
  intro v
  rw [List.append_assoc, h, h', List.append_assoc]

/-- What is left of a text that nothing follows. -/
theorem code_eq {s t : List Char} (h : Leaves s t) : code s = t := by
  have hs := h []
  rwa [List.append_nil, show code [] = [] from rfl, List.append_nil] at hs

end Leaves

/-! ## What begins at a place -/

/-- Only a quote and two slashes hide something. -/
theorem hiddenLength_eq_zero {s : List Char} (hquote : s.head? ≠ some '"')
    (hslashes : ¬['/', '/'] <+: s) : hiddenLength s = 0 := by
  unfold hiddenLength
  split
  · exact absurd rfl hquote
  · exact absurd ⟨_, rfl⟩ hslashes
  · rfl

/-- Two slashes at the front of a text that begins before `v` are both before `v`. -/
theorem slashes_prefix_of_append {v : List Char} (hv : v.head? ≠ some '/') :
    ∀ {s : List Char}, s ≠ [] → ['/', '/'] <+: s ++ v → ['/', '/'] <+: s
  | [c], _, h => by
    obtain ⟨t, ht⟩ := h
    rw [List.singleton_append] at ht
    exact absurd (congrArg List.head? (List.cons.inj ht).2.symm) hv
  | c :: d :: r, _, h => by
    obtain ⟨t, ht⟩ := h
    obtain ⟨rfl, hr⟩ := List.cons.inj ht
    obtain ⟨rfl, -⟩ := List.cons.inj hr
    exact ⟨r, rfl⟩

theorem le_length_of_quotedLength? {s : List Char} {k : Nat} (h : quotedLength? s = some k) :
    k ≤ s.length := by
  fun_induction quotedLength? s generalizing k with
  | case1 => simp at h
  | case2 => simp_all
  | case3 => simp at h
  | case4 => simp at h
  | case5 c r hline ih =>
    obtain ⟨m, hm, rfl⟩ := Option.map_eq_some_iff.1 h
    simpa using ih hm
  | case6 => simp at h
  | case7 c r hquote hline hpair hlast ih =>
    obtain ⟨m, hm, rfl⟩ := Option.map_eq_some_iff.1 h
    simpa using ih hm

theorem hiddenLength_le (s : List Char) : hiddenLength s ≤ s.length := by
  unfold hiddenLength
  split
  · split
    · rename_i hk
      exact Nat.succ_le_succ (le_length_of_quotedLength? hk)
    · exact Nat.zero_le _
  · exact Nat.succ_le_succ (Nat.succ_le_succ (List.takeWhile_sublist _).length_le)
  · exact Nat.zero_le _

/-! ## Texts that stay -/

/-- A text without quotes and slashes stays. -/
theorem leaves_self {s : List Char} (hquote : '"' ∉ s) (hslash : '/' ∉ s) : Leaves s s := by
  intro v
  refine Text.without_append_of_eq_zero fun t ht hne => ?_
  cases t with
  | nil => exact absurd rfl hne
  | cons c r =>
    have hc : c ∈ s := ht.mem (.head _)
    refine hiddenLength_eq_zero ?_ ?_
    · rintro ⟨⟩
      exact hquote hc
    · intro h
      exact hslash ((List.cons_prefix_cons.1 h).1 ▸ hc)

/-! ## Quoted names -/

theorem quotedLength?_of_ne {c : Char} (hquote : c ≠ '"') (hline : c ≠ '\n') (hback : c ≠ '\\')
    (r : List Char) : quotedLength? (c :: r) = (quotedLength? r).map (· + 1) := by
  rw [quotedLength?.eq_6]
  · exact hquote
  · exact hline
  · exact fun _ _ h _ => absurd h hback
  · exact fun h _ => absurd h hback

/-- The inside of a quoted name ends where it was made to end. -/
theorem quotedLength?_escape {v : List Char} : ∀ {n : List Char}, '\n' ∉ n →
    quotedLength? (escape n ++ '"' :: v) = some ((escape n).length + 1)
  | [], _ => rfl
  | c :: n, hn => by
    simp only [List.mem_cons, not_or] at hn
    have ih := quotedLength?_escape (v := v) hn.2
    have hcons : escape (c :: n) = escapeChar c ++ escape n := rfl
    rw [hcons, List.append_assoc, List.length_append]
    by_cases hc : c = '"' ∨ c = '\\'
    · -- The scanner skips the character behind the backslash.
      have hline : ¬ c = '\n' := Ne.symm hn.1
      simp only [escapeChar, if_pos hc, List.cons_append, List.nil_append, quotedLength?,
        if_neg hline, ih, Option.map_some, List.length_cons, List.length_nil]
      congr 1
      omega
    · obtain ⟨hquote, hback⟩ := not_or.1 hc
      simp only [escapeChar, if_neg hc, List.cons_append, List.nil_append]
      rw [quotedLength?_of_ne hquote (Ne.symm hn.1) hback, ih]
      simp only [Option.map_some, List.length_cons, List.length_nil]
      congr 1
      omega

theorem hiddenLength_quotedName {n : List Char} (hn : '\n' ∉ n) (v : List Char) :
    hiddenLength (quotedName n ++ v) = (quotedName n).length := by
  have hq := quotedLength?_escape (v := v) hn
  simp only [quotedName, List.cons_append, List.append_assoc, List.nil_append, hiddenLength, hq,
    List.length_cons, List.length_append, List.length_nil]

/-- A quoted name without line feeds is taken out, and nothing behind it is. -/
theorem leaves_quotedName {n : List Char} (hn : '\n' ∉ n) : Leaves (quotedName n) [] :=
  fun v => Text.without_append_of_eq_length (hiddenLength_quotedName hn v)

/-! ## Lines -/

/-- What has been read of a quoted name is lost at the end of the line. -/
theorem quotedLength?_append_line (s b : List Char) :
    quotedLength? (s ++ '\n' :: b) = quotedLength? s := by
  fun_induction quotedLength? s with
  | case1 => rfl
  | case2 => rfl
  | case3 => rfl
  | case4 r => simp [quotedLength?]
  | case5 c r hline ih => simp only [List.cons_append, quotedLength?, if_neg hline, ih]
  | case6 => simp [quotedLength?]
  | case7 c r hquote hline hpair hlast ih =>
    have hback : c ≠ '\\' := by
      rintro rfl
      cases r with
      | nil => exact hlast rfl rfl
      | cons d r => exact hpair d r rfl rfl
    rw [List.cons_append, quotedLength?_of_ne hquote hline hback, ih]

theorem lineLength_append_line (s b : List Char) :
    lineLength (s ++ '\n' :: b) = lineLength s := by
  rw [lineLength, List.takeWhile_append]
  split <;> simp_all [lineLength]

/-- What begins before the end of a line is told by the line alone. -/
theorem hiddenLength_append_line (s b : List Char) :
    hiddenLength (s ++ '\n' :: b) = hiddenLength s := by
  cases s with
  | nil => exact hiddenLength_eq_zero (by simp) (by simp [List.cons_prefix_cons])
  | cons c r =>
    by_cases hquote : c = '"'
    · subst hquote
      simp only [List.cons_append, hiddenLength, quotedLength?_append_line]
    · have hhead : ∀ v : List Char, (c :: v).head? ≠ some '"' := by simpa using hquote
      by_cases hslashes : ['/', '/'] <+: c :: r
      · obtain ⟨t, ht⟩ := hslashes
        rw [← ht]
        simp only [List.cons_append, List.nil_append, hiddenLength, lineLength_append_line]
      · have hnot : ¬['/', '/'] <+: c :: r ++ '\n' :: b :=
          mt (slashes_prefix_of_append (by simp) (List.cons_ne_nil _ _)) hslashes
        rw [hiddenLength_eq_zero (hhead _) hslashes]
        exact hiddenLength_eq_zero (hhead _) hnot

theorem leaves_line : Leaves ['\n'] ['\n'] := leaves_self (by decide) (by decide)

/-- **The lines of a text are scanned by themselves.** -/
theorem code_append_line (a b : List Char) : code (a ++ '\n' :: b) = code a ++ '\n' :: code b := by
  have hline : code ('\n' :: b) = '\n' :: code b := leaves_line b
  rw [← hline]
  exact Text.without_append (fun t _ _ => hiddenLength_append_line t b) hiddenLength_le

/-! ## Comments -/

theorem lineLength_of_not_mem {s : List Char} (hs : '\n' ∉ s) : lineLength s = s.length := by
  have hne : ∀ c ∈ s, decide (c ≠ '\n') = true :=
    fun c hc => decide_eq_true fun h => hs (h ▸ hc)
  have hall := @List.takeWhile_append_of_pos _ _ s [] hne
  rw [List.append_nil, List.takeWhile_nil, List.append_nil] at hall
  rw [lineLength, hall]

/-- A comment is taken out up to the end of its line. -/
theorem leaves_comment {s : List Char} (hs : '\n' ∉ s) :
    Leaves ('/' :: '/' :: (s ++ ['\n'])) ['\n'] := by
  intro v
  have hlength : hiddenLength ('/' :: '/' :: s ++ '\n' :: v) = ('/' :: '/' :: s).length := by
    rw [hiddenLength_append_line]
    simp only [hiddenLength, lineLength_of_not_mem hs, List.length_cons]
  calc code ('/' :: '/' :: (s ++ ['\n']) ++ v)
      = code ('/' :: '/' :: s ++ '\n' :: v) := by simp
    _ = code ('\n' :: v) := Text.without_append_of_eq_length hlength
    _ = ['\n'] ++ code v := leaves_line v

end RowDecl
