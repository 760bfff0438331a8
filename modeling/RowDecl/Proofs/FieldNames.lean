import RowDecl.Proofs.CaseImages
import RowDecl.Proofs.FieldFaults
import RowDecl.Proofs.Splitting

/-!
# Field names are in normal form

No case mapping makes an underscore (`mem_of_mem_camelCase`), and none makes nothing of a character
(`lower_eq_nil_iff`). So the camel case of a name has underscores only if the name has nothing else
(`underscore_mem_camelCase_iff`), and it is its own camel case (`camelCase_camelCase`).

A shape may therefore have the names of its fields for the names of its columns: these names are not
empty, they differ because the fields do, and they are the names of the same fields again.
`names_normal` says so.
-/

namespace RowDecl

namespace Text

/-! ## Images are not empty -/

theorem mapCase_ne_nil {wide : List (Nat × List Nat)} (h : ∀ p ∈ wide, p.2 ≠ [])
    (runs : List CaseRun) (c : Char) : mapCase wide runs c ≠ [] := by
  unfold mapCase
  split
  · rename_i image himage
    obtain ⟨before, after, rfl, -⟩ := List.lookup_eq_some_iff.1 himage
    have hne : image ≠ [] := h (c.toNat, image) (List.mem_append_right before (.head after))
    simpa using hne
  · split <;> exact List.cons_ne_nil _ _

theorem lowerChar_ne_nil (c : Char) : lowerChar c ≠ [] := by
  unfold lowerChar
  split
  · exact List.cons_ne_nil _ _
  · exact mapCase_ne_nil (by decide) lowerRuns c

theorem lower_eq_nil_iff {s : List Char} : lower s = [] ↔ s = [] := by
  cases s with
  | nil => exact iff_of_true rfl rfl
  | cons c r =>
    refine iff_of_false (fun h => ?_) (List.cons_ne_nil c r)
    rw [lower, lowerFrom] at h
    have himage := (List.append_eq_nil_iff.1 h).1
    split at himage
    · split at himage <;> cases himage
    · exact absurd himage (lowerChar_ne_nil c)

end Text

namespace Name

theorem not_mem_of_mem_words {s w : List Char} (hw : w ∈ words s) : '_' ∉ w :=
  Text.not_mem_of_mem_split (List.mem_filter.1 hw).1

theorem ne_nil_of_mem_words {s w : List Char} (hw : w ∈ words s) : w ≠ [] := by
  simpa using (List.mem_filter.1 hw).2

/-- A name has no words exactly if it is made of underscores. -/
theorem words_eq_nil_iff {s : List Char} : words s = [] ↔ ∀ c ∈ s, c = '_' := by
  refine ⟨fun h c hc => ?_, fun h => ?_⟩
  · by_contra hne
    obtain ⟨w, hw, -⟩ := exists_mem_words hc hne
    rw [h] at hw
    cases hw
  · apply List.eq_nil_iff_forall_not_mem.2
    intro w hw
    obtain ⟨c, hc⟩ := List.exists_mem_of_ne_nil w (ne_nil_of_mem_words hw)
    have hunderscore := h c (mem_of_mem_words hw hc)
    exact not_mem_of_mem_words hw (hunderscore ▸ hc)

/-! ## Names in camel case -/

/-- A name of underscores stays as it is. -/
theorem camelCase_of_words_nil {s : List Char} (h : words s = []) : camelCase s = s := by
  unfold camelCase
  rw [h]
  split <;> rfl

theorem camelCase_eq_nil_iff {s : List Char} : camelCase s = [] ↔ s = [] := by
  by_cases hs : '_' ∈ s
  · cases hwords : words s with
    | nil => rw [camelCase_of_words_nil hwords]
    | cons w ws =>
      have hw : w ∈ words s := by
        rw [hwords]
        exact .head ws
      refine iff_of_false (fun h => ?_) (List.ne_nil_of_mem hs)
      rw [camelCase_of_words hs hwords] at h
      exact ne_nil_of_mem_words hw (Text.lower_eq_nil_iff.1 (List.append_eq_nil_iff.1 h).1)
  · rw [camelCase_of_not_mem hs]

/-- Underscores are left exactly of a name that has nothing else. -/
theorem underscore_mem_camelCase_iff {s : List Char} :
    '_' ∈ camelCase s ↔ s ≠ [] ∧ ∀ c ∈ s, c = '_' := by
  have huncased : Text.isUncased '_' = true := by decide
  rw [← words_eq_nil_iff]
  refine ⟨fun h => ?_, fun h => ?_⟩
  · have hs : '_' ∈ s := mem_of_mem_camelCase huncased h
    refine ⟨List.ne_nil_of_mem hs, ?_⟩
    cases hwords : words s with
    | nil => rfl
    | cons w ws =>
      -- An underscore of the camel case would stand in a word.
      have hword : ∀ v ∈ w :: ws, '_' ∉ v := fun v hv => not_mem_of_mem_words (hwords ▸ hv)
      rw [camelCase_of_words hs hwords] at h
      rcases List.mem_append.1 h with h | h
      · exact absurd (Text.mem_of_mem_lower huncased h) (hword w (.head ws))
      · obtain ⟨v, hv, h⟩ := List.mem_flatMap.1 h
        exact absurd (mem_of_mem_capitalize huncased h) (hword v (.tail w hv))
  · obtain ⟨hne, hwords⟩ := h
    obtain ⟨c, hc⟩ := List.exists_mem_of_ne_nil s hne
    rw [camelCase_of_words_nil hwords, ← words_eq_nil_iff.1 hwords c hc]
    exact hc

/-- The camel case of a name is its own camel case. -/
theorem camelCase_camelCase (s : List Char) : camelCase (camelCase s) = camelCase s := by
  by_cases h : '_' ∈ camelCase s
  · have hwords := words_eq_nil_iff.2 (underscore_mem_camelCase_iff.1 h).2
    rw [camelCase_of_words_nil hwords, camelCase_of_words_nil hwords]
  · exact camelCase_of_not_mem h

end Name

/-! ## Columns under the names of their fields -/

/-- Columns with the names of fields for their own; none if one of these names counts as false. -/
def renamedColumns? (columns : List Column) (fields : List Field) : Option (List Column) :=
  (columns.zip fields).mapM fun p => Column.make? p.2.name p.1.nativeType p.1.nullable

namespace Field

/-- The field of the same name whose column has this name too. -/
def renamed (f : Field) : Field := { f with sourceName := f.name }

section
variable {m : TypeMap}

theorem exists_renamedColumn {c : Column} {f : Field} (h : IsFieldOf m c f) :
    ∃ c', Column.make? f.name c.nativeType c.nullable = some c' ∧ c'.sourceName = f.name ∧
      IsFieldOf m c' f.renamed := by
  obtain ⟨n, tag, token, hn, ht, htoken, rfl⟩ := h
  have hne : n.toList ≠ [] := by
    have hnamed := c.named
    rw [hn] at hnamed
    simpa [Json.truthy] using hnamed
  have hnamed : (Json.str (String.ofList (Name.camelCase n.toList))).truthy = true := by
    have hcamel : Name.camelCase n.toList ≠ [] := mt Name.camelCase_eq_nil_iff.1 hne
    simpa [Json.truthy] using hcamel
  refine ⟨⟨_, c.nativeType, c.nullable, hnamed⟩, Column.make?_eq_some_iff.2 ⟨rfl, rfl, rfl⟩,
    rfl, _, tag, token, rfl, ht, htoken, ?_⟩
  rw [String.toList_ofList, Name.camelCase_camelCase]
  rfl

/-- The columns that stand for fields may have the names of the fields. -/
theorem exists_renamedColumns {columns : List Column} {fields : List Field}
    (h : List.Forall₂ (IsFieldOf m) columns fields) :
    ∃ columns', renamedColumns? columns fields = some columns' ∧
      columns'.map (·.sourceName) = fields.map (·.name) ∧
      List.Forall₂ (IsFieldOf m) columns' (fields.map renamed) := by
  induction h with
  | nil => exact ⟨[], rfl, rfl, .nil⟩
  | cons hc _ ih =>
    obtain ⟨c', hmake, hname, hc'⟩ := exists_renamedColumn hc
    obtain ⟨cs', hcs, hnames, hcs'⟩ := ih
    refine ⟨c' :: cs', ?_, ?_, .cons hc' hcs'⟩
    · unfold renamedColumns? at hcs ⊢
      rw [List.zip_cons_cons, List.mapM_cons, hmake, hcs]
      rfl
    · rw [List.map_cons, List.map_cons, hname, hnames]

theorem key?_ne_none_of_isFieldOf {columns : List Column} {fields : List Field}
    (h : List.Forall₂ (IsFieldOf m) columns fields) : ∀ c ∈ columns, c.sourceName.key? ≠ none := by
  intro c hc
  obtain ⟨f, -, n, -, -, hn, -⟩ := exists_step_of_mem h.flip hc
  simp [hn, Json.key?]

theorem hasDistinctNames_of_fields {columns : List Column} {fields : List Field}
    (h : List.Forall₂ (IsFieldOf m) columns fields)
    (hnames : (columns.map (·.sourceName)).Pairwise (· ≠ ·)) : HasDistinctNames columns := by
  refine ⟨key?_ne_none_of_isFieldOf h, ?_⟩
  refine (List.pairwise_map.1 hnames).imp_of_mem fun {c d} hc hd hne => ?_
  obtain ⟨f, -, n, -, -, hn, -⟩ := exists_step_of_mem h.flip hc
  obtain ⟨g, -, n', -, -, hn', -⟩ := exists_step_of_mem h.flip hd
  simpa [hn, hn', Json.key?] using hne

end

/-- **Field names are in normal form.** The camel case of a name is its own camel case, is empty
only if the name is, and has an underscore exactly if the name has underscores and nothing else. And
where the columns of a shape become fields, they may have the names of the fields instead: they make
a shape of the same path and name, whose fields have the same names, types and marks. -/
theorem names_normal :
    (∀ s : List Char, Name.camelCase (Name.camelCase s) = Name.camelCase s ∧
      (Name.camelCase s = [] → s = []) ∧
      ('_' ∈ Name.camelCase s ↔ s ≠ [] ∧ ∀ c ∈ s, c = '_')) ∧
    ∀ (m : TypeMap) (shape : RowShape) (fields : List Field), ofShape m shape = .ok fields →
      ∃ columns shape', renamedColumns? shape.columns fields = some columns ∧
        RowShape.make shape.path shape.name columns = .ok shape' ∧
        ofShape m shape' = .ok (fields.map renamed) := by
  refine ⟨fun s => ⟨Name.camelCase_camelCase s, Name.camelCase_eq_nil_iff.1,
    Name.underscore_mem_camelCase_iff⟩, fun m shape fields h => ?_⟩
  have hdistinct := ofShape_distinct h
  obtain ⟨columns, hcolumns, hnames, hfields⟩ := exists_renamedColumns (ofShape_ok h)
  have hcolumnNames : HasDistinctNames columns := by
    apply hasDistinctNames_of_fields hfields
    rw [hnames]
    exact List.pairwise_map.2 hdistinct
  refine ⟨columns, ⟨shape.path, shape.name, columns, shape.named, hcolumnNames⟩, hcolumns,
    Catalog.make_ok_iff.2 ⟨shape.named, hcolumnNames, rfl, rfl, rfl⟩, ?_⟩
  refine ofColumns_ok_iff.2 ⟨?_, by simp, List.pairwise_map.2 hdistinct⟩
  have hkeys := key?_ne_none_of_isFieldOf hfields
  exact ((List.forall₂_and_left _ _).2 ⟨hkeys, hfields⟩).imp fun c f hf =>
    (ofColumn_ok_iff hf.1).2 hf.2

/-- A shape with a column of underscores and one whose camel case is longer than its name. -/
def tripShape : RowShape where
  path := ⟨⟨"trips", by decide⟩, []⟩
  name := .str "Trip"
  columns := [⟨.str "__", .str "int", .bool false, by decide⟩,
    ⟨.str "STREET_ßA", .str "text", .bool true, by decide⟩]
  named := by decide
  distinct := @hasDistinctNames_of_columnFault? .null _ (by decide)

/-- The fields of this shape. -/
def tripFields : List Field :=
  [⟨.str "__", .str "number", .bool false, .str "__"⟩,
    ⟨.str "streetSSa", .str "string", .bool true, .str "STREET_ßA"⟩]

theorem names_normal_trip :
    ofShape .builtIn tripShape = .ok tripFields ∧
      ∃ columns shape', renamedColumns? tripShape.columns tripFields = some columns ∧
        RowShape.make tripShape.path tripShape.name columns = .ok shape' ∧
        ofShape .builtIn shape' = .ok (tripFields.map renamed) := by
  have h : ofShape .builtIn tripShape = .ok tripFields := by decide
  exact ⟨h, names_normal.2 .builtIn tripShape tripFields h⟩

end Field

end RowDecl
