import RowDecl.Proofs.CaseImages
import RowDecl.Proofs.Splitting

/-!
# The words of camel case

A name in snake case is read back from its camel case, up to the case of its letters: each word but
the first begins with a capital, and there is no other capital (`IsCapitalized`), so the capitals
show where the words begin (`capitalized_inj`). `camelCase_eq_iff` says so for two names: they have
the same camel case exactly if they have the same words in lower case. What camel case forgets is
the case of the letters and where underscores are more than one, in front or at the end.
-/

namespace RowDecl

namespace Name

/-! ## Capitals -/

/-- A word with a capital in front and no other. -/
def IsCapitalized (w : List Char) : Prop :=
  ∃ c r, w = c :: r ∧ c.isUpper = true ∧ ∀ d ∈ r, d.isUpper = false

theorem isUpper_of_mem_head? {ws : List (List Char)} (h : ∀ w ∈ ws, IsCapitalized w) :
    ∀ c ∈ ws.flatten.head?, c.isUpper = true := by
  cases ws with
  | nil => simp
  | cons w ws =>
    obtain ⟨c, r, rfl, hc, -⟩ := h w (.head _)
    simpa using hc

/-- What stands before capitalized words, and the words, are read off the capitals. -/
theorem append_flatten_inj {s t : List Char} {ws vs : List (List Char)}
    (hs : ∀ c ∈ s, c.isUpper = false) (ht : ∀ c ∈ t, c.isUpper = false)
    (hws : ∀ w ∈ ws, IsCapitalized w) (hvs : ∀ v ∈ vs, IsCapitalized v)
    (h : s ++ ws.flatten = t ++ vs.flatten) : s = t ∧ ws.flatten = vs.flatten := by
  apply append_eq_append_of_stop (fun c => !c.isUpper) _ _ _ _ h
  · simpa using hs
  · simpa using ht
  · simpa using isUpper_of_mem_head? hws
  · simpa using isUpper_of_mem_head? hvs

theorem capitalized_inj : ∀ {ws vs : List (List Char)}, (∀ w ∈ ws, IsCapitalized w) →
    (∀ v ∈ vs, IsCapitalized v) → ws.flatten = vs.flatten → ws = vs
  | [], [], _, _, _ => rfl
  | [], v :: vs, _, hvs, h => by
    obtain ⟨c, r, rfl, -⟩ := hvs v (.head _)
    cases h
  | w :: ws, [], hws, _, h => by
    obtain ⟨c, r, rfl, -⟩ := hws w (.head _)
    cases h
  | w :: ws, v :: vs, hws, hvs, h => by
    obtain ⟨c, r, rfl, -, hr⟩ := hws w (.head _)
    obtain ⟨d, t, rfl, -, ht⟩ := hvs v (.head _)
    rw [List.flatten_cons, List.flatten_cons, List.cons_append, List.cons_append,
      List.cons.injEq] at h
    have hws' : ∀ w ∈ ws, IsCapitalized w := fun w hw => hws w (.tail _ hw)
    have hvs' : ∀ v ∈ vs, IsCapitalized v := fun v hv => hvs v (.tail _ hv)
    -- Behind the first capital each text has none until the next word begins.
    obtain ⟨rfl, hflatten⟩ := append_flatten_inj hr ht hws' hvs' h.2
    rw [h.1, capitalized_inj hws' hvs' hflatten]

/-! ## Words of ASCII -/

/-- The cases of a character of ASCII: lower case has no capital and is what lower case leaves of
both, upper case is the same from both and is a capital exactly of a letter. -/
theorem cases_ascii {c : Char} (hc : c.toNat < 0x80) :
    c.toLower.isUpper = false ∧ c.toLower.toLower = c.toLower ∧ c.toUpper.toLower = c.toLower ∧
      c.toLower.toUpper = c.toUpper ∧ c.toUpper.isUpper = c.isAlpha :=
  Text.forall_ascii (P := fun c => c.toLower.isUpper = false ∧ c.toLower.toLower = c.toLower ∧
    c.toUpper.toLower = c.toLower ∧ c.toLower.toUpper = c.toUpper ∧ c.toUpper.isUpper = c.isAlpha)
    (by decide +kernel) hc

/-- A word in lower case with a capital in front. -/
def raise : List Char → List Char
  | [] => []
  | c :: r => c.toUpper :: r

section
variable {w : List Char} (hw : ∀ c ∈ w, c.toNat < 0x80)
include hw

theorem not_isUpper_of_mem_lower : ∀ c ∈ Text.lower w, c.isUpper = false := by
  intro c hc
  rw [Text.lower_ascii hw] at hc
  obtain ⟨d, hd, rfl⟩ := List.mem_map.1 hc
  exact (cases_ascii (hw d hd)).1

theorem capitalize_eq_raise : capitalize w = raise (Text.lower w) := by
  cases w with
  | nil => rfl
  | cons c r =>
    have hr : ∀ d ∈ r, d.toNat < 0x80 := fun d hd => hw d (.tail _ hd)
    obtain ⟨-, -, -, hupper, -⟩ := cases_ascii (hw c (.head _))
    rw [Text.lower_ascii hw, capitalize, Text.lower_ascii hr, Text.upperChar,
      if_pos (hw c (.head _)), List.map_cons, raise, hupper]
    rfl

theorem lower_eq_map_capitalize : Text.lower w = (capitalize w).map Char.toLower := by
  rw [capitalize_eq_raise hw, Text.lower_ascii hw]
  cases w with
  | nil => rfl
  | cons c r =>
    obtain ⟨-, -, hlower, hupper, -⟩ := cases_ascii (hw c (.head _))
    simp only [List.map_cons, raise, hupper, hlower, List.map_map, List.cons.injEq, true_and]
    exact List.map_congr_left fun d hd => (cases_ascii (hw d (.tail _ hd))).2.1.symm

theorem isCapitalized_capitalize (hletter : ∃ c ∈ w.head?, c.isAlpha = true) :
    IsCapitalized (capitalize w) := by
  obtain ⟨c, hc, halpha⟩ := hletter
  obtain ⟨r, rfl⟩ := List.head?_eq_some_iff.1 hc
  have hlower := not_isUpper_of_mem_lower hw
  rw [Text.lower_ascii hw] at hlower
  rw [capitalize_eq_raise hw, Text.lower_ascii hw]
  refine ⟨_, _, rfl, ?_, fun d hd => hlower d (.tail _ hd)⟩
  obtain ⟨-, -, -, hupper, hcapital⟩ := cases_ascii (hw c (.head _))
  rw [hupper, hcapital]
  exact halpha

end

/-- Words of ASCII are alike in lower case exactly if they are alike capitalized. -/
theorem map_capitalize_eq_iff {ws vs : List (List Char)}
    (hws : ∀ w ∈ ws, ∀ c ∈ w, c.toNat < 0x80) (hvs : ∀ v ∈ vs, ∀ c ∈ v, c.toNat < 0x80) :
    ws.map capitalize = vs.map capitalize ↔ ws.map Text.lower = vs.map Text.lower := by
  have hraise : ∀ {ws : List (List Char)}, (∀ w ∈ ws, ∀ c ∈ w, c.toNat < 0x80) →
      ws.map capitalize = (ws.map Text.lower).map raise := by
    intro ws hws
    rw [List.map_map]
    exact List.map_congr_left fun w hw => capitalize_eq_raise (hws w hw)
  have hlower : ∀ {ws : List (List Char)}, (∀ w ∈ ws, ∀ c ∈ w, c.toNat < 0x80) →
      ws.map Text.lower = (ws.map capitalize).map (List.map Char.toLower) := by
    intro ws hws
    rw [List.map_map]
    exact List.map_congr_left fun w hw => lower_eq_map_capitalize (hws w hw)
  refine ⟨fun h => ?_, fun h => ?_⟩
  · rw [hlower hws, hlower hvs, h]
  · rw [hraise hws, hraise hvs, h]

/-! ## Names in snake case -/

/-- The segments of a name between underscores, but for the empty ones. -/
def segments (s : List Char) : List (List Char) := (s.splitOn '_').filter (· ≠ [])

/-- A name of ASCII with an underscore and something else, each of whose segments but the first
begins with a letter. -/
@[mk_iff]
structure IsSnakeCase (s : List Char) : Prop where
  ascii : ∀ c ∈ s, c.toNat < 0x80
  delimited : '_' ∈ s
  spelled : ∃ c ∈ s, c ≠ '_'
  lettered : ∀ w ∈ (segments s).tail, ∃ c ∈ w.head?, c.isAlpha = true

instance (s : List Char) : Decidable (IsSnakeCase s) :=
  decidable_of_iff (s.all (·.toNat < 0x80) = true ∧ s.contains '_' = true ∧
      s.any (· ≠ '_') = true ∧ (segments s).tail.all (·.head?.any Char.isAlpha) = true) (by
    simp [isSnakeCase_iff, Option.any_eq_true])

theorem words_eq_segments (s : List Char) : words s = segments s := by
  rw [words, segments, Text.split_singleton]

/-- The camel case of a name in snake case: the first segment in lower case, then the other ones
capitalized. -/
theorem IsSnakeCase.camelCase_eq {s : List Char} (h : IsSnakeCase s) :
    ∃ w ws, segments s = w :: ws ∧ (∀ v ∈ w :: ws, ∀ c ∈ v, c.toNat < 0x80) ∧
      (∀ v ∈ ws.map capitalize, IsCapitalized v) ∧
      camelCase s = Text.lower w ++ (ws.map capitalize).flatten := by
  obtain ⟨c, hc, hne⟩ := h.spelled
  obtain ⟨v, hv, -⟩ := exists_mem_words hc hne
  obtain ⟨w, ws, hwords⟩ := List.exists_cons_of_ne_nil (List.ne_nil_of_mem hv)
  have hsegments : segments s = w :: ws := by rw [← words_eq_segments, hwords]
  have hascii : ∀ v ∈ w :: ws, ∀ c ∈ v, c.toNat < 0x80 := by
    intro v hv c hc
    rw [← hwords] at hv
    exact h.ascii c (mem_of_mem_words hv hc)
  refine ⟨w, ws, hsegments, hascii, ?_, camelCase_of_words h.delimited hwords⟩
  intro v hv
  obtain ⟨u, hu, rfl⟩ := List.mem_map.1 hv
  have hletter := h.lettered
  rw [hsegments] at hletter
  exact isCapitalized_capitalize (hascii u (.tail _ hu)) (hletter u hu)

/-- **Two names in snake case have the same camel case exactly if they have the same segments in
lower case.** -/
theorem camelCase_eq_iff {x y : List Char} (hx : IsSnakeCase x) (hy : IsSnakeCase y) :
    camelCase x = camelCase y ↔
      (segments x).map Text.lower = (segments y).map Text.lower := by
  obtain ⟨w, ws, hxs, hw, hws, hcx⟩ := hx.camelCase_eq
  obtain ⟨v, vs, hys, hv, hvs, hcy⟩ := hy.camelCase_eq
  have htail := map_capitalize_eq_iff (fun u hu => hw u (.tail _ hu)) fun u hu => hv u (.tail _ hu)
  rw [hcx, hcy, hxs, hys, List.map_cons, List.map_cons, List.cons.injEq, ← htail]
  refine ⟨fun h => ?_, fun h => ?_⟩
  · obtain ⟨hfirst, hflatten⟩ := append_flatten_inj (not_isUpper_of_mem_lower (hw w (.head _)))
      (not_isUpper_of_mem_lower (hv v (.head _))) hws hvs h
    exact ⟨hfirst, capitalized_inj hws hvs hflatten⟩
  · rw [h.1, h.2]

/-- Names that differ in case and in underscores at the ends have the same camel case, names that
are cut at different places have not. -/
theorem camelCase_eq_iff_order_id :
    IsSnakeCase "__ORDER_Id__x1".toList ∧ IsSnakeCase "order_ID_X1_".toList ∧
      IsSnakeCase "orde_rid_x1".toList ∧
      camelCase "__ORDER_Id__x1".toList = camelCase "order_ID_X1_".toList ∧
      camelCase "__ORDER_Id__x1".toList ≠ camelCase "orde_rid_x1".toList := by
  have hfirst : IsSnakeCase "__ORDER_Id__x1".toList := by decide
  have hsecond : IsSnakeCase "order_ID_X1_".toList := by decide
  have hthird : IsSnakeCase "orde_rid_x1".toList := by decide
  refine ⟨hfirst, hsecond, hthird, (camelCase_eq_iff hfirst hsecond).2 (by decide), ?_⟩
  exact mt (camelCase_eq_iff hfirst hthird).1 (by decide)

end Name

end RowDecl
