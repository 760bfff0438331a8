import RowDecl.Proofs.UnreportedFaults

/-!
# Which fault ends the making of fields

The columns of a shape become fields in order. A column is at fault if its type has no token, or if
an earlier column has the same field name; the first such column ends the making of fields, and of
its two faults the type is the one that is reported. `ofShape_outcome` says this, and that without
a fault each column has its own field at its own place.

The columns are taken one by one, with the fields of the earlier ones at hand. `ofColumns_append`
is the invariant: behind columns that are fine, their fields are at hand too.
-/

namespace RowDecl

/-! ## Faults of columns -/

/-- The type of the column at index `k` has no token. -/
def LacksToken (m : TypeMap) (columns : List Column) (k : Nat) : Prop :=
  ∃ c tag, columns[k]? = some c ∧ c.nativeType = .str tag ∧ m.find? tag = none

/-- The column at index `i` comes before that at index `k` and has the same field name. -/
def SharesName (columns : List Column) (i k : Nat) : Prop :=
  i < k ∧ ∃ c d n n', columns[i]? = some c ∧ columns[k]? = some d ∧
    c.sourceName = .str n ∧ d.sourceName = .str n' ∧
    Name.camelCase n.toList = Name.camelCase n'.toList

/-- The column at index `k` cannot become a field behind the earlier ones. -/
def IsAtFault (m : TypeMap) (columns : List Column) (k : Nat) : Prop :=
  LacksToken m columns k ∨ ∃ i, SharesName columns i k

/-- Of two columns that share their names with a third one, the later shares its name with the
other. -/
theorem SharesName.of_lt {columns : List Column} {i j k : Nat} (hi : SharesName columns i k)
    (hj : SharesName columns j k) (hij : i < j) : SharesName columns i j := by
  obtain ⟨-, c, e, n, n', hc, he, hn, hn', hname⟩ := hi
  obtain ⟨-, d, e', l, l', hd, he', hl, hl', hname'⟩ := hj
  obtain rfl : e = e' := Option.some.inj (he.symm.trans he')
  obtain rfl : n' = l' := Json.str.inj (hn'.symm.trans hl')
  exact ⟨hij, c, d, n, l, hc, hd, hn, hl, hname.trans hname'.symm⟩

theorem SharesName.of_take {columns : List Column} {i j k : Nat}
    (h : SharesName (columns.take k) i j) (hjk : j < k) : SharesName columns i j := by
  obtain ⟨hij, c, d, n, n', hc, hd, h⟩ := h
  rw [List.getElem?_take_of_lt (by omega)] at hc hd
  exact ⟨hij, c, d, n, n', hc, hd, h⟩

/-- Only one column shares its name with the first column at fault. -/
theorem SharesName.unique {m : TypeMap} {columns : List Column} {i j k : Nat}
    (hfirst : ∀ i < k, ¬IsAtFault m columns i) (hi : SharesName columns i k)
    (hj : SharesName columns j k) : j = i := by
  rcases Nat.lt_trichotomy i j with hij | rfl | hji
  · exact absurd (.inr ⟨i, hi.of_lt hj hij⟩) (hfirst j hj.1)
  · rfl
  · exact absurd (.inr ⟨j, hj.of_lt hi hji⟩) (hfirst i hi.1)

namespace Field

/-! ## Columns one by one -/

section
variable {m : TypeMap} {shape : String} {earlier : List Field} {c : Column} {f : Field}

theorem ofColumns_cons_error {e : Error} (hc : ofColumn m (.str shape) c = .error e)
    (r : List Column) : ofColumns m shape earlier (c :: r) = .error e := by
  rw [ofColumns, hc, error_sequence]

theorem ofColumns_cons_collision (hf : ofColumn m (.str shape) c = .ok f) {g : Field}
    (hg : earlier.find? (·.name = f.name) = some g) (r : List Column) :
    ofColumns m shape earlier (c :: r) =
      .error (.fieldCollision shape g.sourceName.text c.sourceName.text f.name.text) := by
  rw [ofColumns, hf, ok_sequence, hg]
  rfl

theorem ofColumns_cons_new (hf : ofColumn m (.str shape) c = .ok f)
    (hnew : earlier.find? (·.name = f.name) = none) (r : List Column) :
    ofColumns m shape earlier (c :: r) = (ofColumns m shape (earlier ++ [f]) r).map (f :: ·) := by
  rw [ofColumns, hf, ok_sequence, hnew]
  rfl

/-- Behind columns that are fine, their fields are at hand too. -/
theorem ofColumns_append {before : List Column} (rest : List Column) :
    ∀ {earlier fields : List Field}, ofColumns m shape earlier before = .ok fields →
      ofColumns m shape earlier (before ++ rest) =
        (ofColumns m shape (earlier ++ fields) rest).map (fields ++ ·) := by
  induction before with
  | nil =>
    intro earlier fields h
    obtain rfl : [] = fields := Except.ok.inj h
    rw [List.nil_append, List.append_nil]
    cases ofColumns m shape earlier rest <;> rfl
  | cons c before ih =>
    intro earlier fields h
    cases hf : ofColumn m (.str shape) c with
    | error e => rw [ofColumns_cons_error hf] at h; cases h
    | ok f =>
      cases hg : earlier.find? (·.name = f.name) with
      | some g => rw [ofColumns_cons_collision hf hg] at h; cases h
      | none =>
        rw [ofColumns_cons_new hf hg] at h
        obtain ⟨fields, hbefore, rfl⟩ := mapped_ok_iff.1 h
        rw [List.cons_append, ofColumns_cons_new hf hg, ih hbefore, List.append_assoc,
          mapped_mapped]
        rfl

end

/-- Columns become fields exactly if each does by itself, and the names are new and different. -/
theorem ofColumns_ok_iff {m : TypeMap} {shape : String} {cs : List Column} :
    ∀ {earlier fs : List Field}, ofColumns m shape earlier cs = .ok fs ↔
      List.Forall₂ (fun c f => ofColumn m (.str shape) c = .ok f) cs fs ∧
        (∀ f ∈ fs, ∀ g ∈ earlier, g.name ≠ f.name) ∧ fs.Pairwise fun f g => f.name ≠ g.name := by
  induction cs with
  | nil =>
    intro earlier fs
    refine ⟨fun h => ⟨ofColumns_ok h, ofColumns_distinct h⟩, ?_⟩
    rintro ⟨⟨⟩, -⟩
    rfl
  | cons c cs ih =>
    intro earlier fs
    refine ⟨fun h => ⟨ofColumns_ok h, ofColumns_distinct h⟩, ?_⟩
    rintro ⟨⟨⟩, hnew, hdistinct⟩
    rename_i f fs hf hfs
    obtain ⟨hfnew, hfsnew⟩ := List.forall_mem_cons.1 hnew
    obtain ⟨hfirst, hdistinct⟩ := List.pairwise_cons.1 hdistinct
    have hnone : earlier.find? (·.name = f.name) = none := by simpa using hfnew
    have hrest : ofColumns m shape (earlier ++ [f]) cs = .ok fs := by
      refine ih.2 ⟨hfs, fun g hg e he => ?_, hdistinct⟩
      rcases List.mem_append.1 he with he | he
      · exact hfsnew g hg e he
      · rw [List.mem_singleton.1 he]
        exact hfirst g hg
    rw [ofColumns_cons_new hf hnone, hrest]
    rfl

/-! ## Columns up to the first at fault -/

theorem ofColumn_textual_iff {m : TypeMap} {shape : Json} {c : Column} (hc : c.IsTextual)
    {f : Field} : ofColumn m shape c = .ok f ↔ IsFieldOf m c f := by
  obtain ⟨n, hn⟩ := hc.name
  exact ofColumn_ok_iff (by simp [hn, Json.key?])

theorem isFieldOf_of_ofColumn {m : TypeMap} {shape : Json} {columns : List Column}
    (htexts : ∀ c ∈ columns, c.IsTextual) {fields : List Field}
    (h : List.Forall₂ (fun c f => ofColumn m shape c = .ok f) columns fields) :
    List.Forall₂ (IsFieldOf m) columns fields :=
  ((List.forall₂_and_left _ _).2 ⟨htexts, h⟩).imp fun _ _ h => (ofColumn_textual_iff h.1).1 h.2

theorem exists_ofColumn {m : TypeMap} {c : Column} (hc : c.IsTextual) {tag : String}
    (ht : c.nativeType = .str tag) (htoken : m.find? tag ≠ none) (shape : Json) :
    ∃ f, ofColumn m shape c = .ok f := by
  obtain ⟨n, hn⟩ := hc.name
  obtain ⟨token, htoken⟩ := Option.ne_none_iff_exists'.1 htoken
  exact ⟨_, (ofColumn_textual_iff hc).2 ⟨n, tag, token, hn, ht, htoken, rfl⟩⟩

theorem ofColumn_error {m : TypeMap} {shape : Json} {c : Column} {n tag : String}
    (hn : c.sourceName = .str n) (ht : c.nativeType = .str tag) (hnone : m.find? tag = none) :
    ofColumn m shape c = .error (.unsupportedType shape (.str n) tag) := by
  rw [ofColumn, hn, ht, TypeMap.token, hnone]
  rfl

/-- Fields have the same name exactly if their columns share it. -/
theorem name_eq_iff {m : TypeMap} {columns : List Column} {fields : List Field}
    (h : List.Forall₂ (IsFieldOf m) columns fields) {i k : Nat} (hik : i < k) {f g : Field}
    (hf : fields[i]? = some f) (hg : fields[k]? = some g) :
    f.name = g.name ↔ SharesName columns i k := by
  obtain ⟨c, hc, n, tag, token, hn, -, -, rfl⟩ := exists_step_at h hf
  obtain ⟨d, hd, n', tag', token', hn', -, -, rfl⟩ := exists_step_at h hg
  simp [SharesName, hik, hc, hd, hn, hn', String.ofList_inj]

/-- The column that is alone in sharing its name with the first at fault is the one that is found
by the name. -/
theorem find?_of_sharesName {m : TypeMap} {columns : List Column} {k : Nat}
    (hfirst : ∀ i < k, ¬IsAtFault m columns i) {fields : List Field}
    (hfields : List.Forall₂ (IsFieldOf m) (columns.take k) fields) {c : Column} {f : Field}
    (hc : columns[k]? = some c) (hf : IsFieldOf m c f) {i : Nat} (hi : SharesName columns i k) :
    ∃ g d n, fields.find? (·.name = f.name) = some g ∧ columns[i]? = some d ∧
      d.sourceName = .str n ∧ g.sourceName = .str n := by
  obtain ⟨n, tag, token, hn, -, -, rfl⟩ := hf
  -- The columns before the first at fault whose fields have its name.
  have hfound : ∀ {j : Nat} {g : Field}, fields[j]? = some g →
      g.name = .str (String.ofList (Name.camelCase n.toList)) → ∃ d l, columns[j]? = some d ∧
        d.sourceName = .str l ∧ g.sourceName = .str l ∧ SharesName columns j k := by
    intro j g hg hname
    obtain ⟨d, hd, l, tag', token', hl, -, -, rfl⟩ := exists_step_at hfields hg
    rw [List.getElem?_take] at hd
    split at hd
    · rename_i hjk
      simp only [Json.str.injEq, String.ofList_inj] at hname
      exact ⟨d, l, hd, hl, rfl, hjk, d, c, l, n, hd, hc, hl, hn, hname⟩
    · cases hd
  have hsome : ∃ g ∈ fields, g.name = .str (String.ofList (Name.camelCase n.toList)) := by
    obtain ⟨hik, d, c', l, n', hd, hc', hl, hn', hname⟩ := hi
    obtain rfl : c = c' := Option.some.inj (hc.symm.trans hc')
    obtain rfl : n = n' := Json.str.inj (hn.symm.trans hn')
    rw [← List.getElem?_take_of_lt hik] at hd
    obtain ⟨g, hg, l', tag', token', hl', -, -, rfl⟩ := exists_step_at hfields.flip hd
    obtain rfl : l = l' := Json.str.inj (hl.symm.trans hl')
    exact ⟨_, List.mem_of_getElem? hg, by rw [hname]⟩
  obtain ⟨g, hg⟩ : ∃ g, fields.find? (·.name = .str (String.ofList (Name.camelCase n.toList))) =
      some g := by
    rw [← Option.isSome_iff_exists, List.find?_isSome]
    simpa using hsome
  obtain ⟨j, hj⟩ := List.mem_iff_getElem?.1 (List.mem_of_find?_eq_some hg)
  obtain ⟨d, l, hd, hl, hsource, hshares⟩ := hfound hj (by simpa using List.find?_some hg)
  obtain rfl := hi.unique hfirst hshares
  exact ⟨g, d, l, hg, hd, hl, hsource⟩

section
variable (shape : String) {m : TypeMap} {columns : List Column}
  (htexts : ∀ c ∈ columns, c.IsTextual)
include htexts

/-- Columns up to the first at fault have fields. -/
theorem exists_fields_before {k : Nat} (h : ∀ i < k, ¬IsAtFault m columns i) :
    ∃ fields, ofColumns m shape [] (columns.take k) = .ok fields := by
  have htexts' : ∀ c ∈ columns.take k, c.IsTextual := fun c hc =>
    htexts c (List.mem_of_mem_take hc)
  have heach : ∀ c ∈ columns.take k, ∃ f, ofColumn m (.str shape) c = .ok f := by
    intro c hc
    obtain ⟨i, hi⟩ := List.mem_iff_getElem?.1 hc
    rw [List.getElem?_take] at hi
    split at hi
    · rename_i hik
      obtain ⟨tag, ht⟩ := (htexts' c hc).type
      exact exists_ofColumn (htexts' c hc) ht (fun hm => h i hik (.inl ⟨c, tag, hi, ht, hm⟩)) _
    · cases hi
  obtain ⟨fields, hfields⟩ := exists_mapM_ok heach
  have hfields := mapM_ok_iff.1 hfields
  refine ⟨fields, ofColumns_ok_iff.2 ⟨hfields, by simp, ?_⟩⟩
  rw [List.pairwise_iff_getElem]
  intro i j hi hj hij hname
  have hjk : j < k := by
    have := hfields.length_eq
    rw [List.length_take] at this
    omega
  have hshares := (name_eq_iff (isFieldOf_of_ofColumn htexts' hfields) hij
    (List.getElem?_eq_getElem hi) (List.getElem?_eq_getElem hj)).1 hname
  exact h j hjk (.inr ⟨i, hshares.of_take hjk⟩)

/-- What becomes of the columns from the first at fault on. -/
theorem ofColumns_at_fault {k : Nat} (hfirst : ∀ i < k, ¬IsAtFault m columns i) {c : Column}
    (hc : columns[k]? = some c) :
    ∃ fields, List.Forall₂ (IsFieldOf m) (columns.take k) fields ∧
      ofColumns m shape [] columns =
        (ofColumns m shape fields (c :: columns.drop (k + 1))).map (fields ++ ·) := by
  obtain ⟨fields, hfields⟩ := exists_fields_before shape htexts hfirst
  have hrest := ofColumns_append (c :: columns.drop (k + 1)) hfields
  rw [take_append_cons_drop hc, List.nil_append] at hrest
  refine ⟨fields, isFieldOf_of_ofColumn (fun c hc => ?_) (ofColumns_ok hfields), hrest⟩
  exact htexts c (List.mem_of_mem_take hc)

theorem ofColumns_unsupported {k : Nat} (hfirst : ∀ i < k, ¬IsAtFault m columns i) {c : Column}
    (hc : columns[k]? = some c) {n tag : String} (hn : c.sourceName = .str n)
    (ht : c.nativeType = .str tag) (hnone : m.find? tag = none) :
    ofColumns m shape [] columns = .error (.unsupportedType (.str shape) (.str n) tag) := by
  obtain ⟨fields, -, hrest⟩ := ofColumns_at_fault shape htexts hfirst hc
  rw [hrest, ofColumns_cons_error (ofColumn_error hn ht hnone)]
  rfl

theorem ofColumns_collision {k : Nat} (hfirst : ∀ i < k, ¬IsAtFault m columns i) {c : Column}
    (hc : columns[k]? = some c) {n tag : String} (hn : c.sourceName = .str n)
    (ht : c.nativeType = .str tag) (hsome : m.find? tag ≠ none) {i : Nat}
    (hi : SharesName columns i k) :
    ∃ d n', columns[i]? = some d ∧ d.sourceName = .str n' ∧
      ofColumns m shape [] columns =
        .error (.fieldCollision shape n' n (String.ofList (Name.camelCase n.toList))) := by
  obtain ⟨fields, hfields, hrest⟩ := ofColumns_at_fault shape htexts hfirst hc
  have hctext := htexts c (List.mem_of_getElem? hc)
  obtain ⟨f, hf⟩ := exists_ofColumn hctext ht hsome (.str shape)
  have hfield := (ofColumn_textual_iff hctext).1 hf
  obtain ⟨g, d, n', hg, hd, hn', hsource⟩ := find?_of_sharesName hfirst hfields hc hfield hi
  have hname : f.name = .str (String.ofList (Name.camelCase n.toList)) := by
    obtain ⟨l, -, -, hl, -, -, rfl⟩ := hfield
    rw [Json.str.inj (hn.symm.trans hl)]
  refine ⟨d, n', hd, hn', ?_⟩
  rw [hrest, ofColumns_cons_collision hf hg, hsource, hn, hname]
  rfl

end

/-! ## Fields of shapes -/

/-- **Which fault ends the making of fields.** Where no column is at fault, each becomes its own
field, in order, and the fields have different names. Otherwise the first column at fault is
reported, by name and with its type as it is given if the type has no token, and else together with
the one earlier column that has its field name. The names and types of columns are texts. -/
theorem ofShape_outcome (m : TypeMap) {shape : RowShape}
    (htexts : ∀ c ∈ shape.columns, c.IsTextual) :
    ((¬∃ k, IsAtFault m shape.columns k) →
      ∃ fields, ofShape m shape = .ok fields ∧
        List.Forall₂ (fun c f => ofColumn m (.str shape.qualifiedName) c = .ok f ∧ IsFieldOf m c f)
          shape.columns fields ∧
        fields.Pairwise fun f g => f.name ≠ g.name) ∧
    ((∃ k, IsAtFault m shape.columns k) →
      ∃ k c n tag, IsFirst (IsAtFault m shape.columns) k ∧ shape.columns[k]? = some c ∧
        c.sourceName = .str n ∧ c.nativeType = .str tag ∧
        (m.find? tag = none →
          ofShape m shape = .error (.unsupportedType (.str shape.qualifiedName) (.str n) tag)) ∧
        (m.find? tag ≠ none →
          ∃ i d n', SharesName shape.columns i k ∧
            (∀ j, SharesName shape.columns j k → j = i) ∧
            shape.columns[i]? = some d ∧ d.sourceName = .str n' ∧
            ofShape m shape = .error (.fieldCollision shape.qualifiedName n' n
              (String.ofList (Name.camelCase n.toList))))) := by
  constructor
  · intro hnone
    obtain ⟨fields, hfields⟩ := exists_fields_before shape.qualifiedName htexts
      (k := shape.columns.length) fun i _ hi => hnone ⟨i, hi⟩
    rw [List.take_length] at hfields
    obtain ⟨heach, -, hdistinct⟩ := ofColumns_ok_iff.1 hfields
    refine ⟨fields, hfields, ?_, hdistinct⟩
    exact ((List.forall₂_and_left _ _).2 ⟨htexts, heach⟩).imp fun c f h =>
      ⟨h.2, (ofColumn_textual_iff h.1).1 h.2⟩
  · intro hsome
    obtain ⟨k, hfault, hfirst⟩ := exists_isFirst hsome
    obtain ⟨c, hc⟩ : ∃ c, shape.columns[k]? = some c := by
      rcases hfault with ⟨c, -, hc, -⟩ | ⟨-, -, -, c, -, -, -, hc, -⟩ <;> exact ⟨c, hc⟩
    obtain ⟨⟨n, hn⟩, tag, ht⟩ := htexts c (List.mem_of_getElem? hc)
    refine ⟨k, c, n, tag, ⟨hfault, hfirst⟩, hc, hn, ht, fun htoken => ?_, fun htoken => ?_⟩
    · exact ofColumns_unsupported _ htexts hfirst hc hn ht htoken
    · obtain ⟨i, hi⟩ : ∃ i, SharesName shape.columns i k := by
        refine hfault.resolve_left ?_
        rintro ⟨c', tag', hc', ht', hnone⟩
        obtain rfl : c = c' := Option.some.inj (hc.symm.trans hc')
        obtain rfl : tag = tag' := Json.str.inj (ht.symm.trans ht')
        exact htoken hnone
      obtain ⟨d, n', hd, hn', herror⟩ := ofColumns_collision shape.qualifiedName htexts
        hfirst hc hn ht htoken hi
      exact ⟨i, d, n', hi, fun j hj => hi.unique hfirst hj, hd, hn', herror⟩

/-- A shape whose second column has the field name of the first and a type without a token. -/
def twiceFaulty : RowShape where
  path := ⟨⟨"parcel", by decide⟩, []⟩
  name := .str "Stop"
  columns := [⟨.str "stop_at", .str "int", .bool false, by decide⟩,
    ⟨.str "stopAt", .str " Point", .bool true, by decide⟩]
  named := by decide
  distinct := @hasDistinctNames_of_columnFault? .null _ (by decide)

/-- Of the two faults the type is reported, as it is given. -/
theorem ofShape_outcome_two_faults :
    (∀ c ∈ twiceFaulty.columns, c.IsTextual) ∧ LacksToken .builtIn twiceFaulty.columns 1 ∧
      SharesName twiceFaulty.columns 0 1 ∧
      ofShape .builtIn twiceFaulty =
        .error (.unsupportedType (.str "parcel.Stop") (.str "stopAt") " Point") := by
  have htexts : ∀ c ∈ twiceFaulty.columns, c.IsTextual := by
    intro c hc
    simp only [twiceFaulty, List.mem_cons, List.not_mem_nil, or_false] at hc
    rcases hc with rfl | rfl <;> exact ⟨⟨_, rfl⟩, _, rfl⟩
  have hlacks : LacksToken .builtIn twiceFaulty.columns 1 := ⟨_, _, rfl, rfl, by decide⟩
  have hshares : SharesName twiceFaulty.columns 0 1 :=
    ⟨by decide, _, _, _, _, rfl, rfl, rfl, rfl, by decide⟩
  refine ⟨htexts, hlacks, hshares, ?_⟩
  obtain ⟨k, c, n, tag, ⟨hfault, hfirst⟩, hc, hn, ht, hunsupported, -⟩ :=
    (ofShape_outcome .builtIn htexts).2 ⟨1, .inl hlacks⟩
  have hk : k ≤ 1 := Nat.le_of_not_lt fun hk => hfirst 1 hk (.inl hlacks)
  obtain rfl | rfl : k = 0 ∨ k = 1 := by omega
  · rcases hfault with ⟨d, tag', hd, ht', hnone⟩ | ⟨i, hi, -⟩
    · cases hd
      cases ht'
      revert hnone
      decide
    · omega
  · cases hc
    cases hn
    cases ht
    exact hunsupported (by decide)

end Field

end RowDecl
