import Mathlib.Data.List.TakeWhile
import RowDecl.Proofs.CaseImages
import RowDecl.Proofs.Emission
import RowDecl.Proofs.ReadObjects

/-!
# Which token a tag has

Tags and the names of overrides meet in normal form. `Resolves` says which token a tag has without
a map: that of the last override of the same normal form, or that of a built-in tag if no override
has it. The map is a fold of overrides over the built-in tags, so that an override counts only if
none behind it has its normal form (`find?_foldl_of_absent`, `find?_foldl_of_last`).

Normal forms forget blanks around a tag (`normalTag_padded`) and the case of the letters of ASCII
(`normalTag_congr`): such a letter has case in either case and is never looked through, so that the
lower case of its surroundings does not depend on its own. `ofSettings_resolves` puts this together.
-/

namespace RowDecl

namespace Text

/-! ## Blanks at the ends -/

theorem strip_append_left {before : List Char} (h : ∀ c ∈ before, isBlank c = true)
    (s : List Char) : strip (before ++ s) = strip s := by
  rw [strip, strip, List.dropWhile_append_of_pos h]

theorem stripEnd_append {after : List Char} (h : ∀ c ∈ after, isBlank c = true) (s : List Char) :
    stripEnd (s ++ after) = stripEnd s := by
  rw [stripEnd, stripEnd, List.reverse_append, List.dropWhile_append_of_pos (by simpa using h)]

theorem strip_append_right {after : List Char} (h : ∀ c ∈ after, isBlank c = true)
    (s : List Char) : strip (s ++ after) = strip s := by
  rw [strip, strip, List.dropWhile_append]
  split
  · rename_i hnil
    rw [List.isEmpty_iff] at hnil
    rw [hnil, List.dropWhile_eq_nil_iff.2 h]
  · exact stripEnd_append h _

/-! ## The case of ASCII letters -/

theorem toNat_of_isUpper {c : Char} (h : c.isUpper = true) : 0x41 ≤ c.toNat ∧ c.toNat ≤ 0x5A :=
  of_decide_eq_true h

theorem toNat_of_isLower {c : Char} (h : c.isLower = true) : 0x61 ≤ c.toNat ∧ c.toNat ≤ 0x7A :=
  ⟨of_decide_eq_true (Bool.and_eq_true_iff.1 h).1, of_decide_eq_true (Bool.and_eq_true_iff.1 h).2⟩

/-- What holds of the characters of ASCII holds of its capitals. -/
theorem forall_isUpper {P : Char → Prop} (h : ∀ n < 0x80, P (Char.ofNat n)) {c : Char}
    (hc : c.isUpper = true) : P c :=
  forall_ascii h (Nat.lt_of_le_of_lt (toNat_of_isUpper hc).2 (by decide))

theorem isLower_toLower {c : Char} (h : c.isUpper = true) : c.toLower.isLower = true :=
  forall_isUpper (P := fun c => c.isUpper = true → c.toLower.isLower = true) (by decide +kernel) h h

/-- What lower case leaves of the capitals of ASCII, it leaves of all characters. -/
theorem toLower_keeps {α : Type} {f : Char → α} (h : ∀ c, c.isUpper = true → f c.toLower = f c)
    (c : Char) : f c.toLower = f c := by
  by_cases hc : c.isUpper = true
  · exact h c hc
  · have hkept : c.toLower = c := dif_neg fun hrange => hc (decide_eq_true hrange)
    rw [hkept]

/-- A set of code points that ends before, between and after the letters of ASCII has none. -/
theorem holds_eq_false_of_letter {is : Intervals}
    (h : ∀ p ∈ is, p.2 < 0x41 ∨ (0x5A < p.1 ∧ p.2 < 0x61) ∨ 0x7A < p.1) {c : Char}
    (hc : c.isUpper = true ∨ c.isLower = true) : is.holds c = false := by
  rw [← Bool.not_eq_true, Intervals.holds_iff]
  intro hholds
  obtain ⟨p, hp, hfirst, hlast⟩ := hholds
  have hgap := h p hp
  rcases hc with hc | hc
  · have := toNat_of_isUpper hc
    omega
  · have := toNat_of_isLower hc
    omega

theorem holds_toLower {is : Intervals}
    (h : ∀ p ∈ is, p.2 < 0x41 ∨ (0x5A < p.1 ∧ p.2 < 0x61) ∨ 0x7A < p.1) (c : Char) :
    is.holds c.toLower = is.holds c := by
  refine toLower_keeps (fun c hc => ?_) c
  rw [holds_eq_false_of_letter h (.inl hc), holds_eq_false_of_letter h (.inr (isLower_toLower hc))]

theorem isBlank_toLower (c : Char) : isBlank c.toLower = isBlank c :=
  holds_toLower (by decide +kernel) c

theorem isTransparent_toLower (c : Char) : isTransparent c.toLower = isTransparent c :=
  holds_toLower (by decide +kernel) c

theorem isCased_toLower (c : Char) : isCased c.toLower = isCased c := by
  have hupper : ∀ {c : Char}, c.isUpper = true → isCased c = true := fun hc =>
    Intervals.holds_iff.2 ⟨(0x41, 0x5A), .head _, toNat_of_isUpper hc⟩
  have hlower : ∀ {c : Char}, c.isLower = true → isCased c = true := fun hc =>
    Intervals.holds_iff.2 ⟨(0x61, 0x7A), .tail _ (.head _), toNat_of_isLower hc⟩
  exact toLower_keeps (fun c hc => by rw [hupper hc, hlower (isLower_toLower hc)]) c

theorem lowerChar_toLower (c : Char) : lowerChar c.toLower = lowerChar c :=
  toLower_keeps (fun _ => forall_isUpper (P := fun c => lowerChar c.toLower = lowerChar c)
    (by decide +kernel)) c

theorem toLower_eq_sigma_iff (c : Char) : c.toLower = 'Σ' ↔ c = 'Σ' := by
  have hsigma : decide (c.toLower = 'Σ') = decide (c = 'Σ') :=
    toLower_keeps (f := fun c => decide (c = 'Σ')) (fun _ =>
      forall_isUpper (P := fun c => decide (c.toLower = 'Σ') = decide (c = 'Σ'))
        (by decide +kernel)) c
  simpa using hsigma

theorem strip_map_toLower (s : List Char) :
    strip (s.map Char.toLower) = (strip s).map Char.toLower := by
  have hblank : isBlank ∘ Char.toLower = isBlank := funext isBlank_toLower
  rw [strip, strip, stripEnd, stripEnd, List.dropWhile_map, hblank, ← List.map_reverse,
    List.dropWhile_map, hblank, List.map_reverse]

theorem startsCased_map_toLower (s : List Char) :
    startsCased (s.map Char.toLower) = startsCased s := by
  induction s with
  | nil => rfl
  | cons c r ih =>
    rw [List.map_cons, startsCased, startsCased, isTransparent_toLower, isCased_toLower, ih]

theorem lowerFrom_map_toLower (s : List Char) (inWord : Bool) :
    lowerFrom inWord (s.map Char.toLower) = lowerFrom inWord s := by
  induction s generalizing inWord with
  | nil => rfl
  | cons c r ih =>
    simp only [List.map_cons, lowerFrom, toLower_eq_sigma_iff, startsCased_map_toLower,
      lowerChar_toLower, isTransparent_toLower, isCased_toLower, ih]

end Text

/-! ## Spellings of a tag -/

theorem normalTag_padded {before after : String}
    (hbefore : ∀ c ∈ before.toList, Text.isBlank c = true)
    (hafter : ∀ c ∈ after.toList, Text.isBlank c = true) (tag : String) :
    normalTag (before ++ tag ++ after) = normalTag tag := by
  rw [normalTag, normalTag, String.toList_append, String.toList_append,
    Text.strip_append_right hafter, Text.strip_append_left hbefore]

/-- Tags that differ in the case of letters of ASCII have the same normal form. -/
theorem normalTag_congr {tag tag' : String}
    (h : tag.toList.map Char.toLower = tag'.toList.map Char.toLower) :
    normalTag tag = normalTag tag' := by
  have hlower : ∀ s : List Char,
      Text.lower (Text.strip s) = Text.lower (Text.strip (s.map Char.toLower)) := by
    intro s
    rw [Text.strip_map_toLower, Text.lower, Text.lower, Text.lowerFrom_map_toLower]
  rw [normalTag, normalTag, hlower, h, ← hlower]

namespace TypeMap

/-! ## Overrides -/

/-- The overrides have no entry of the normal form of a tag. -/
def IsAbsent (overrides : List (String × Json)) (tag : String) : Prop :=
  ∀ o ∈ overrides, normalTag o.1 ≠ normalTag tag

instance (overrides : List (String × Json)) (tag : String) : Decidable (IsAbsent overrides tag) :=
  List.decidableBAll _ _

/-- The token of a tag under overrides: that of the last entry of the same normal form, or if there
is none, that of a built-in tag. -/
inductive Resolves (overrides : List (String × Json)) (tag : String) : Json → Prop
  | overridden {before after : List (String × Json)} {key : String} {token : Json} :
    overrides = before ++ (key, token) :: after → normalTag key = normalTag tag →
      IsAbsent after tag → Resolves overrides tag token
  | builtIn {token : String} {tags : List String} :
    IsAbsent overrides tag → (token, tags) ∈ typeFamilies → normalTag tag ∈ tags →
      Resolves overrides tag (.str token)

section
variable {overrides : List (String × Json)} {tag : String}

theorem isAbsent_or_last (overrides : List (String × Json)) (tag : String) :
    IsAbsent overrides tag ∨ ∃ before key token after,
      overrides = before ++ (key, token) :: after ∧ normalTag key = normalTag tag ∧
        IsAbsent after tag := by
  induction overrides with
  | nil => exact .inl (by simp [IsAbsent])
  | cons o r ih =>
    rcases ih with habsent | ⟨before, key, token, after, rfl, hkey, hafter⟩
    · by_cases ho : normalTag o.1 = normalTag tag
      · exact .inr ⟨[], o.1, o.2, r, rfl, ho, habsent⟩
      · exact .inl (List.forall_mem_cons.2 ⟨ho, habsent⟩)
    · exact .inr ⟨o :: before, key, token, after, rfl, hkey, hafter⟩

/-- Overrides of other normal forms are passed over. -/
theorem find?_foldl_of_absent (h : IsAbsent overrides tag) (m : TypeMap) :
    (overrides.foldl (fun m o => m.insert o.1 o.2) m).find? tag = m.find? tag := by
  induction overrides generalizing m with
  | nil => rfl
  | cons o r ih =>
    obtain ⟨ho, hr⟩ := List.forall_mem_cons.1 h
    rw [List.foldl_cons, ih hr, find?_insert, if_neg ho]

/-- Overrides do not tell maps apart that agree on a tag. -/
theorem find?_foldl_congr (overrides : List (String × Json)) {m m' : TypeMap}
    (h : m.find? tag = m'.find? tag) :
    (overrides.foldl (fun m o => m.insert o.1 o.2) m).find? tag =
      (overrides.foldl (fun m o => m.insert o.1 o.2) m').find? tag := by
  induction overrides generalizing m m' with
  | nil => exact h
  | cons o r ih =>
    apply ih
    rw [find?_insert, find?_insert, h]

theorem find?_foldl_of_last {before after : List (String × Json)} {key : String} {token : Json}
    (hkey : normalTag key = normalTag tag) (hafter : IsAbsent after tag) (m : TypeMap) :
    ((before ++ (key, token) :: after).foldl (fun m o => m.insert o.1 o.2) m).find? tag =
      some token := by
  rw [List.foldl_append, List.foldl_cons, find?_foldl_of_absent hafter, find?_insert, if_pos hkey]

theorem find?_builtIn_iff {v : Json} :
    builtIn.find? tag = some v ↔
      ∃ token tags, (token, tags) ∈ typeFamilies ∧ normalTag tag ∈ tags ∧ v = .str token := by
  have hdistinct : Json.HasDistinctMembers builtIn.entries := by
    unfold Json.HasDistinctMembers
    decide
  rw [find?, Json.member?_eq_some_iff hdistinct, builtIn]
  simp only [List.mem_flatMap, List.mem_map, Prod.exists, Prod.mk.injEq]
  constructor
  · rintro ⟨token, tags, hfamily, _, hmem, rfl, rfl⟩
    exact ⟨token, tags, hfamily, hmem, rfl⟩
  · rintro ⟨token, tags, hfamily, hmem, rfl⟩
    exact ⟨token, tags, hfamily, _, hmem, rfl, rfl⟩

/-- The map of overrides finds the token that a tag resolves to. -/
theorem find?_ofOverrides_iff {v : Json} :
    (ofOverrides overrides).find? tag = some v ↔ Resolves overrides tag v := by
  constructor
  · intro h
    rcases isAbsent_or_last overrides tag with
      habsent | ⟨before, key, token, after, rfl, hkey, hafter⟩
    · rw [ofOverrides, find?_foldl_of_absent habsent, find?_builtIn_iff] at h
      obtain ⟨token, tags, hfamily, hmem, rfl⟩ := h
      exact .builtIn habsent hfamily hmem
    · rw [ofOverrides, find?_foldl_of_last hkey hafter] at h
      obtain rfl := Option.some.inj h
      exact .overridden rfl hkey hafter
  · intro h
    cases h with
    | overridden hsplit hkey hafter =>
      subst hsplit
      exact find?_foldl_of_last hkey hafter _
    | builtIn habsent hfamily hmem =>
      rw [ofOverrides, find?_foldl_of_absent habsent, find?_builtIn_iff]
      exact ⟨_, _, hfamily, hmem, rfl⟩

/-- An entry in the place of an older one, or of none, counts for its own normal form only. -/
theorem find?_ofOverrides_replaced {before after : List (String × Json)} {key : String}
    (hkey : normalTag key ≠ normalTag tag) (token : Json) (old : Option Json) :
    (ofOverrides (before ++ (key, token) :: after)).find? tag =
      (ofOverrides (before ++ (old.map (key, ·)).toList ++ after)).find? tag := by
  have hold : IsAbsent (old.map (key, ·)).toList tag := by
    intro o ho
    cases old with
    | none => cases ho
    | some v =>
      rw [List.mem_singleton.1 ho]
      exact hkey
  rw [ofOverrides, ofOverrides, List.foldl_append, List.foldl_append, List.foldl_append,
    List.foldl_cons]
  apply find?_foldl_congr
  rw [find?_foldl_of_absent hold, find?_insert, if_neg hkey]

/-- A tag that has a token has one under more overrides. -/
theorem find?_isSome_replaced {before after : List (String × Json)} {key : String} {token : Json}
    {old : Option Json}
    (h : ((ofOverrides (before ++ (old.map (key, ·)).toList ++ after)).find? tag).isSome) :
    ((ofOverrides (before ++ (key, token) :: after)).find? tag).isSome := by
  by_cases hkey : normalTag key = normalTag tag
  · rcases isAbsent_or_last (before ++ (key, token) :: after) tag with habsent | hlast
    · exact absurd hkey (habsent (key, token) (List.mem_append_right before (.head after)))
    · obtain ⟨before', key', token', after', hsplit, hkey', hafter⟩ := hlast
      rw [hsplit, ofOverrides, find?_foldl_of_last hkey' hafter]
      rfl
  · rwa [find?_ofOverrides_replaced hkey token old]

/-! ## Tags in maps -/

theorem token_error_iff {m : TypeMap} {column shape : Json} {e : Error} :
    m.token (.str tag) column shape = .error e ↔
      e = .unsupportedType shape column tag ∧ m.find? tag = none := by
  rw [token]
  cases m.find? tag <;> simp [eq_comm]

end

/-- A map does not tell two tags apart: it supports both or neither, and their tokens are the same,
whatever column and shape a complaint would name. -/
def IsAlike (m : TypeMap) (tag tag' : String) : Prop :=
  m.supports (.str tag) = m.supports (.str tag') ∧
    ∀ column shape token, m.token (.str tag) column shape = .ok token ↔
      m.token (.str tag') column shape = .ok token

theorem isAlike_of_normalTag_eq {tag tag' : String} (h : normalTag tag = normalTag tag')
    (m : TypeMap) : m.IsAlike tag tag' := by
  have hfind : m.find? tag = m.find? tag' := by rw [find?, find?, h]
  refine ⟨?_, fun column shape token => ?_⟩
  · rw [supports, supports, hfind]
  · simp [token_ok_iff, hfind]

theorem ofSettings_of_obj {s : Settings} {overrides : List (String × Json)}
    (h : s.typeOverrides = .obj overrides) : ofSettings s = .ok (ofOverrides overrides) := by
  rw [ofSettings, h]

/-- **Which token a tag has.** The map of settings gives a tag the token of the last override of its
normal form, or that of the built-in tag, and refuses a tag without either as it is given; it
supports the tags that it does not refuse. Blanks around a tag and the case of its ASCII letters do
not matter. One more override, new or in the place of one of the same name, changes nothing for tags
of other normal forms and leaves no tag without a token that had one. -/
theorem ofSettings_resolves {s : Settings} {overrides : List (String × Json)}
    (h : s.typeOverrides = .obj overrides) :
    ∃ m, ofSettings s = .ok m ∧
      (∀ tag column shape,
        (∀ token, m.token (.str tag) column shape = .ok token ↔ Resolves overrides tag token) ∧
        (∀ e, m.token (.str tag) column shape = .error e ↔
          e = .unsupportedType shape column tag ∧ ¬∃ token, Resolves overrides tag token) ∧
        ∃ b, m.supports (.str tag) = .ok b ∧
          (b = true ↔ ∃ token, m.token (.str tag) column shape = .ok token)) ∧
      (∀ tag before after : String, (∀ c ∈ before.toList, Text.isBlank c = true) →
        (∀ c ∈ after.toList, Text.isBlank c = true) → m.IsAlike tag (before ++ tag ++ after)) ∧
      (∀ tag tag' : String, tag.toList.map Char.toLower = tag'.toList.map Char.toLower →
        m.IsAlike tag tag') ∧
      ∀ (s' : Settings) (before after : List (String × Json)) (key : String) (token : Json)
        (old : Option Json), overrides = before ++ (old.map (key, ·)).toList ++ after →
        s'.typeOverrides = .obj (before ++ (key, token) :: after) →
        ∃ m', ofSettings s' = .ok m' ∧
          (∀ tag, normalTag key ≠ normalTag tag →
            m'.supports (.str tag) = m.supports (.str tag) ∧ ∀ column shape,
              m'.token (.str tag) column shape = m.token (.str tag) column shape) ∧
          ∀ tag, m.supports (.str tag) = .ok true → m'.supports (.str tag) = .ok true := by
  refine ⟨ofOverrides overrides, ofSettings_of_obj h, fun tag column shape => ⟨?_, ?_, ?_⟩,
    fun tag before after hbefore hafter => ?_, fun tag tag' hcase => ?_, ?_⟩
  · intro token
    simp [token_ok_iff, find?_ofOverrides_iff]
  · intro e
    rw [token_error_iff, Option.eq_none_iff_forall_ne_some]
    simp only [ne_eq, find?_ofOverrides_iff, not_exists]
  · refine ⟨_, rfl, ?_⟩
    simp [token_ok_iff, Option.isSome_iff_exists]
  · exact isAlike_of_normalTag_eq (normalTag_padded hbefore hafter tag).symm _
  · exact isAlike_of_normalTag_eq (normalTag_congr hcase) _
  · intro s' before after key token old hsplit hs'
    subst hsplit
    refine ⟨_, ofSettings_of_obj hs', fun tag hkey => ?_, fun tag hsupported => ?_⟩
    · have hfind : (ofOverrides (before ++ (key, token) :: after)).find? tag =
          (ofOverrides (before ++ (old.map (key, ·)).toList ++ after)).find? tag :=
        find?_ofOverrides_replaced hkey token old
      refine ⟨?_, fun column shape => ?_⟩
      · rw [supports, supports, hfind]
      · rw [TypeMap.token, TypeMap.token, hfind]
    · have hsome : ((ofOverrides (before ++ (key, token) :: after)).find? tag).isSome :=
        find?_isSome_replaced (Except.ok.inj hsupported)
      rw [supports, hsome]

/-- Overrides of which the last has the normal form of the first. -/
def moneyOverrides : List (String × Json) :=
  [("money", .str "string"), ("INT", .str "Id"), (" Money ", .str "bigint")]

/-- Settings with these overrides. -/
def moneySettings : Settings := { Settings.default with typeOverrides := .obj moneyOverrides }

/-- The last of two overrides counts, in every spelling of the tag, and a tag that is overridden by
none of them is built in. -/
theorem ofSettings_resolves_money :
    moneySettings.typeOverrides = .obj moneyOverrides ∧
      ∃ m, ofSettings moneySettings = .ok m ∧
        (∀ column shape, m.token (.str "Money") column shape = .ok (.str "bigint") ∧
          m.token (.str "integer") column shape = .ok (.str "number")) ∧
        m.IsAlike "Money" ("\t" ++ "Money" ++ " ") ∧ m.IsAlike "Money" "mONEY" ∧
        ∃ m', ofSettings { moneySettings with
            typeOverrides := .obj (("real", .null) :: moneyOverrides) } = .ok m' ∧
          m'.supports (.str "int") = .ok true := by
  obtain ⟨m, hm, htoken, hpadded, hcase, hmore⟩ := ofSettings_resolves (s := moneySettings) rfl
  refine ⟨rfl, m, hm, fun column shape => ⟨?_, ?_⟩, ?_, hcase _ _ (by decide), ?_⟩
  · have hsplit : moneyOverrides =
        [("money", .str "string"), ("INT", .str "Id")] ++ (" Money ", .str "bigint") :: [] := rfl
    exact ((htoken _ column shape).1 _).2 (.overridden hsplit (by decide) (by decide))
  · exact ((htoken _ column shape).1 _).2 (.builtIn (by decide) (.head _) (by decide))
  · exact hpadded _ _ _ (List.all_eq_true.1 (by decide)) (List.all_eq_true.1 (by decide))
  · obtain ⟨m', hm', -, hkept⟩ := hmore
      { moneySettings with typeOverrides := .obj (("real", .null) :: moneyOverrides) } [] _ "real"
      .null none rfl rfl
    refine ⟨m', hm', hkept _ ?_⟩
    rw [← Except.ok.inj hm]
    decide

end TypeMap

end RowDecl
