import RowDecl.Proofs.CatalogFaults

/-!
# A catalog of one row shape

A row shape may be made from plain values or loaded from a catalog that lists nothing else, with the
same namespace, name and columns. Both ways come to the same conditions on the same entry: with an
identifier for a name, `RowShape.create` makes the shape of a valid entry (`create_ok_iff`), which
is what the loader does (`loadRowShape_ok_iff`). They differ in the order of their checks and in the
text of complaints, and `load_single_iff_create` says that nothing else differs: what cannot be made
is refused by the loader with a complaint about the one entry.
-/

namespace RowDecl

/-! ## Complaints about an entry -/

theorem Place.prefix_of_isIn {place : Place} {list : Section} {i : Nat} (h : place.IsIn list i) :
    (list.entryText i).toList <+: place.text.toList := by
  cases place with
  | whole => cases h
  | entry l j =>
    obtain ⟨rfl, rfl⟩ := h
    exact List.prefix_rfl
  | column l j k =>
    obtain ⟨rfl, rfl⟩ := h
    rw [Place.text, String.toList_append, String.toList_append, List.append_assoc]
    exact List.prefix_append _ _

namespace Catalog

/-- A step that fails in an entry names it at the beginning of its message. -/
theorem FailsIn.begins_message {α : Type} {list : Section} {i : Nat}
    {step : Except CatalogError α} (h : FailsIn (Place.IsIn list i) step) {error : CatalogError}
    (herror : step = .error error) : (list.entryText i).toList <+: error.message.toList := by
  obtain ⟨place, fault, hplace, rfl⟩ := h error herror
  rw [CatalogError.toList_message]
  exact (Place.prefix_of_isIn hplace).trans (List.prefix_append _ _)

/-! ## The values of an entry -/

/-- A namespace as it is given: a text with points or a list of segments. -/
def namespaceValue : String ⊕ List String → Json
  | .inl s => .str s
  | .inr segments => .arr (segments.map .str)

/-- The raw segments of a namespace. -/
def segmentsOf : String ⊕ List String → List String
  | .inl s => dotted s
  | .inr segments => segments

/-- A column as an object. -/
def ColumnEntry.toObject (c : ColumnEntry) : Json :=
  .obj [("name", .str c.name), ("type", .str c.type), ("nullable", .bool c.nullable)]

/-- A column as a list of cells. -/
def ColumnEntry.toCells (c : ColumnEntry) : Json :=
  .arr [.str c.name, .str c.type, .bool c.nullable]

section
variable (path : String ⊕ List String) (name : String) (columns : List ColumnEntry)

/-- A row shape as an object. -/
def rowShapeObject : Json :=
  .obj [("namespace", namespaceValue path), ("name", .str name),
    ("columns", .arr (columns.map ColumnEntry.toObject))]

/-- The catalog that lists a row shape and nothing else. -/
def singleCatalog : Json := .obj [("row_shapes", .arr [rowShapeObject path name columns])]

end

section
variable {path : String ⊕ List String} {name : String} {columns : List ColumnEntry}

/-! ## Made from values -/

theorem ofJson_toCells_ok_iff {e : ColumnEntry} {c : Column} :
    Column.ofJson e.toCells = .ok c ↔ IsColumnOf e c := by
  have hcells : Column.ofJson e.toCells =
      Column.ofCells.named (Column.make? (.str e.name) (.str e.type) (.bool e.nullable)) := rfl
  rw [hcells, IsColumnOf, ← Column.make?_eq_some_iff, Column.ofCells.named]
  cases Column.make? (.str e.name) (.str e.type) (.bool e.nullable) <;> simp

theorem name_ne_empty_of_isColumnOf {e : ColumnEntry} {c : Column} (h : IsColumnOf e c) :
    e.name ≠ "" := by
  have hnamed := c.named
  rw [h.1] at hnamed
  simpa [Json.truthy] using hnamed

theorem ofJson_namespaceValue (path : String ⊕ List String) :
    NamespacePath.ofJson (namespaceValue path) =
      (NamespacePath.ofSegments ((segmentsOf path).map .str)).mapError .badNamespace := by
  cases path with
  | inl s =>
    have hpoint : "." ≠ "" := by decide
    show NamespacePath.parse s "." = _
    rw [NamespacePath.parse, if_neg hpoint]
    rfl
  | inr segments => rfl

/-- A row shape with an identifier for a name is made from the values of a valid entry. -/
theorem create_ok_iff {shape : RowShape} :
    RowShape.create (namespaceValue path) (.str name) (columns.map ColumnEntry.toCells) =
          .ok shape ∧ Name.isIdentifier name.toList = true ↔
      Entry.IsValid ⟨segmentsOf path, name, columns⟩ ∧
        IsShapeOf ⟨segmentsOf path, name, columns⟩ shape := by
  simp only [RowShape.create, sequence_ok_iff, ofJson_namespaceValue, mapError_ok_iff, mapM_ok_iff,
    List.forall₂_map_left_iff, ofJson_toCells_ok_iff, ofSegments_texts_ok_iff, make_ok_iff]
  constructor
  · intro h
    obtain ⟨⟨p, ⟨hlocated, hblank, hpath⟩, cs, hcs, -, hdistinct, rfl, hname, rfl⟩, hid⟩ := h
    have hnamed : ∀ c ∈ columns, c.name ≠ "" := by
      intro c hc
      obtain ⟨_, -, hcolumn⟩ := exists_step_of_mem hcs.flip hc
      exact name_ne_empty_of_isColumnOf hcolumn
    exact ⟨⟨hnamed, (hasDistinctNames_iff hcs).1 hdistinct, hid, hlocated, hblank⟩,
      ⟨hpath, hname, hcs⟩⟩
  · intro h
    obtain ⟨⟨-, hdistinct, hid, hlocated, hblank⟩, ⟨hpath, hname, hcs⟩⟩ := h
    exact ⟨⟨shape.path, ⟨hlocated, hblank, hpath⟩, shape.columns, hcs, truthy_of_isIdentifier hid,
      (hasDistinctNames_iff hcs).2 hdistinct, rfl, hname, rfl⟩, hid⟩

/-! ## Loaded from a catalog -/

theorem readsColumn_toObject_iff {e e' : ColumnEntry} : ReadsColumn e.toObject e' ↔ e = e' := by
  cases e
  cases e'
  simp [ReadsColumn, ColumnEntry.toObject, HasText, Json.member?_cons]

theorem forall₂_readsColumn_iff {es : List ColumnEntry} :
    List.Forall₂ (fun c e => ReadsColumn c.toObject e) columns es ↔ columns = es := by
  simp only [readsColumn_toObject_iff, List.forall₂_eq_eq_eq]

/-- The object of a row shape reads as one entry. -/
theorem readsRowShape_iff {e : Entry} :
    ReadsRowShape (rowShapeObject path name columns) e ↔ ⟨segmentsOf path, name, columns⟩ = e := by
  have hpath : ∀ {segments : List String},
      (∃ s, namespaceValue path = .str s ∧ segments = dotted s) ∨
        namespaceValue path = .arr (segments.map .str) ↔ segmentsOf path = segments := by
    have hinj : Function.Injective (List.map Json.str) :=
      List.map_injective_iff.2 fun _ _ => Json.str.inj
    intro segments
    cases path with
    | inl s => simp [namespaceValue, segmentsOf, eq_comm]
    | inr given => simp [namespaceValue, segmentsOf, hinj.eq_iff]
  obtain ⟨segments, name', es⟩ := e
  simp [ReadsRowShape, rowShapeObject, HasText, Json.member?_cons, ReadsColumns,
    forall₂_readsColumn_iff, isDotted_iff, hpath, and_left_comm]

/-- A row shape is loaded exactly from the object of a valid entry. -/
theorem loadRowShape_ok_iff {i : Nat} {shape : RowShape} :
    loadRowShape i (rowShapeObject path name columns) = .ok shape ↔
      Entry.IsValid ⟨segmentsOf path, name, columns⟩ ∧
        IsShapeOf ⟨segmentsOf path, name, columns⟩ shape := by
  rw [loadRowShape_loadsAs]
  simp only [readsRowShape_iff, exists_eq_left']

/-- The single row shape is all that is loaded. -/
theorem load_singleCatalog :
    load (singleCatalog path name columns) =
      (loadRowShape 0 (rowShapeObject path name columns)).map ([·]) := by
  generalize hv : rowShapeObject path name columns = v
  have hpackage : loadPackage [("row_shapes", .arr [v])] = .ok [] := rfl
  have hrowShapes : loadSection [("row_shapes", .arr [v])] .rowShapes loadRowShape =
      loadFrom loadRowShape 0 [v] := loadSection_of_list rfl _
  rw [singleCatalog, hv, load, hpackage, ok_sequence, loadSection_of_absent rfl, ok_sequence,
    loadSection_of_absent rfl, ok_sequence, hrowShapes, loadFrom, loadFrom]
  cases loadRowShape 0 v <;> rfl

end

/-- **A row shape may be made or loaded.** The catalog with a single row shape is loaded exactly if
the row shape can be made from the same namespace, name and columns and its name passes for an
identifier, and then this shape is all that is loaded. If it cannot be made, the loader complains
about the entry. -/
theorem load_single_iff_create (path : String ⊕ List String) (name : String)
    (columns : List ColumnEntry) :
    (∀ shapes, load (singleCatalog path name columns) = .ok shapes ↔
      ∃ shape, RowShape.create (namespaceValue path) (.str name)
          (columns.map ColumnEntry.toCells) = .ok shape ∧
        Name.isIdentifier name.toList = true ∧ shapes = [shape]) ∧
    ∀ e, RowShape.create (namespaceValue path) (.str name) (columns.map ColumnEntry.toCells) =
        .error e →
      ∃ error, load (singleCatalog path name columns) = .error error ∧
        "row_shapes[0]".toList <+: error.message.toList := by
  have hloaded : ∀ shapes, load (singleCatalog path name columns) = .ok shapes ↔
      ∃ shape, RowShape.create (namespaceValue path) (.str name)
          (columns.map ColumnEntry.toCells) = .ok shape ∧
        Name.isIdentifier name.toList = true ∧ shapes = [shape] := by
    intro shapes
    simp only [load_singleCatalog, mapped_ok_iff, loadRowShape_ok_iff, ← create_ok_iff, and_assoc,
      eq_comm (a := shapes)]
  refine ⟨hloaded, fun e he => ?_⟩
  cases hload : load (singleCatalog path name columns) with
  | ok shapes =>
    obtain ⟨shape, hshape, -⟩ := (hloaded shapes).1 hload
    rw [hshape] at he
    cases he
  | error error =>
    rw [load_singleCatalog, mapped_error_iff] at hload
    exact ⟨error, rfl, (entryLoader_failsIn [] .rowShapes 0 _).begins_message hload⟩

/-- Of a blank segment and a column without a name the first ends the making, the second the
loading. -/
theorem load_single_iff_create_two_faults :
    RowShape.create (namespaceValue (.inl "depot. ")) (.str "Bay")
        ([⟨"", "int", true⟩].map ColumnEntry.toCells) =
      .error (.badNamespace (.blankSegment [.str "depot", .str " "])) ∧
    ∃ error, load (singleCatalog (.inl "depot. ") "Bay" [⟨"", "int", true⟩]) = .error error ∧
      "row_shapes[0]".toList <+: error.message.toList := by
  have h : RowShape.create (namespaceValue (.inl "depot. ")) (.str "Bay")
      ([⟨"", "int", true⟩].map ColumnEntry.toCells) =
        .error (.badNamespace (.blankSegment [.str "depot", .str " "])) := rfl
  exact ⟨h, (load_single_iff_create _ _ _).2 _ h⟩

end Catalog

end RowDecl
