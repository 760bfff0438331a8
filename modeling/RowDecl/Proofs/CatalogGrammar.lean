import Mathlib.Data.List.Nodup
import RowDecl.Catalog.Load
import RowDecl.Proofs.Outcome
import RowDecl.Proofs.Splitting

/-!
# The grammar of catalogs

A catalog is read in two steps. `Describes` says what entries a document holds, as plain data and
without any check of their contents: the members that must be there, those that may be left out
with their defaults, the raw segments of each namespace and the name of each declaration. It is
written without the functions of the loader, but for the namespace of a statement file.
`Entry.IsValid` says which entries make a row shape, and `IsShapeOf` which one.

`load_iff_describes_valid`: a document is loaded exactly if it describes valid entries, and the row
shapes are those of the entries, in order. Each loader has a lemma of this form; `loadFrom_ok_iff`
carries it to lists.
-/

namespace RowDecl.Catalog

/-! ## What a document says -/

/-- A column as plain data. -/
structure ColumnEntry where
  name : String
  type : String
  nullable : Bool

/-- An entry as plain data: the raw segments of its namespace, the name of its declaration and its
columns. -/
structure Entry where
  segments : List String
  name : String
  columns : List ColumnEntry

/-- The member `key` is the text `s`. -/
def HasText (members : List (String × Json)) (key s : String) : Prop :=
  Json.member? members key = some (.str s)

/-- The member `key` is the list `items`, or it is left out and there are none. -/
def HasList (members : List (String × Json)) (key : String) (items : List Json) : Prop :=
  Json.member? members key = some (.arr items) ∨ Json.member? members key = none ∧ items = []

/-- A column is an object with a name, a type and perhaps a truth value; false is the default. -/
def ReadsColumn (v : Json) (c : ColumnEntry) : Prop :=
  ∃ members, v = .obj members ∧ HasText members "name" c.name ∧ HasText members "type" c.type ∧
    (Json.member? members "nullable" = some (.bool c.nullable) ∨
      Json.member? members "nullable" = none ∧ c.nullable = false)

/-- The columns of an entry have to be there. -/
def ReadsColumns (members : List (String × Json)) (cs : List ColumnEntry) : Prop :=
  ∃ items, Json.member? members "columns" = some (.arr items) ∧ List.Forall₂ ReadsColumn items cs

/-- The segments that a text gives: with a point between each two of them they are the text, and
none of them holds a point. -/
structure IsDotted (s : String) (segments : List String) : Prop where
  nonempty : segments ≠ []
  joined : String.intercalate "." segments = s
  noPoint : ∀ g ∈ segments, '.' ∉ g.toList

/-- The package is left out, null, a text or a list of texts; the empty text has no segments. -/
inductive ReadsPackage (members : List (String × Json)) : List String → Prop
  | absent : Json.member? members "package" = none → ReadsPackage members []
  | null : Json.member? members "package" = some .null → ReadsPackage members []
  | empty : HasText members "package" "" → ReadsPackage members []
  | text {s : String} {segments : List String} :
    HasText members "package" s → s ≠ "" → IsDotted s segments → ReadsPackage members segments
  | list {segments : List String} :
    Json.member? members "package" = some (.arr (segments.map .str)) →
      ReadsPackage members segments

/-- The schema of a table is `public` by default. -/
def HasSchema (members : List (String × Json)) (schema : String) : Prop :=
  HasText members "schema" schema ∨ Json.member? members "schema" = none ∧ schema = "public"

/-- A table stands in the package under `schema_` and its schema in lower case. -/
def ReadsTable (package : List String) (v : Json) (e : Entry) : Prop :=
  ∃ members schema, v = .obj members ∧ HasText members "name" e.name ∧
    HasSchema members schema ∧ ReadsColumns members e.columns ∧
    e.segments = package ++ ["schema_" ++ String.ofList (Text.lower schema.toList)]

/-- A name with its first character in upper case. -/
inductive Capitalizes : String → String → Prop
  | empty : Capitalizes "" ""
  | cons (c : Char) (r : List Char) :
    Capitalizes (String.ofList (c :: r)) (String.ofList (Text.upper [c] ++ r))

/-- A statement stands in the package under its file, and its name begins with a capital. -/
def ReadsStatement (package : List String) (v : Json) (e : Entry) : Prop :=
  ∃ members name file, v = .obj members ∧ HasText members "name" name ∧
    HasText members "file" file ∧ ReadsColumns members e.columns ∧
    e.segments = statementNamespace package file ∧ Capitalizes name e.name

/-- A row shape gives its namespace as a text with points or as a list of texts. -/
def ReadsRowShape (v : Json) (e : Entry) : Prop :=
  ∃ members, v = .obj members ∧ HasText members "name" e.name ∧
    ((∃ s, HasText members "namespace" s ∧ IsDotted s e.segments) ∨
      Json.member? members "namespace" = some (.arr (e.segments.map .str))) ∧
    ReadsColumns members e.columns

/-- A document is an object with a package and three lists of entries. -/
def Describes (data : Json) (entries : List Entry) : Prop :=
  ∃ members package tables statements rowShapes ts ss rs, data = .obj members ∧
    ReadsPackage members package ∧
    HasList members "tables" tables ∧ List.Forall₂ (ReadsTable package) tables ts ∧
    HasList members "statements" statements ∧
      List.Forall₂ (ReadsStatement package) statements ss ∧
    HasList members "row_shapes" rowShapes ∧ List.Forall₂ ReadsRowShape rowShapes rs ∧
    entries = ts ++ ss ++ rs

/-! ## What is required of it -/

/-- An entry that makes a row shape: its columns have names, all different, its own name passes for
an identifier, and there are segments, none of them blank. -/
structure Entry.IsValid (e : Entry) : Prop where
  columnsNamed : ∀ c ∈ e.columns, c.name ≠ ""
  distinct : (e.columns.map (·.name)).Nodup
  named : Name.isIdentifier e.name.toList = true
  located : e.segments ≠ []
  notBlank : ∀ s ∈ e.segments, ∃ c ∈ s.toList, Text.isBlank c = false

/-- The column with the cells of a column entry. -/
def IsColumnOf (e : ColumnEntry) (c : Column) : Prop :=
  c.sourceName = .str e.name ∧ c.nativeType = .str e.type ∧ c.nullable = .bool e.nullable

/-- The row shape of an entry: its segments stripped and made identifiers, its name and its
columns. -/
structure IsShapeOf (e : Entry) (s : RowShape) : Prop where
  path : s.path.names =
    e.segments.map fun g => String.ofList (Name.safeSegment (Text.strip g.toList))
  name : s.name = .str e.name
  columns : List.Forall₂ IsColumnOf e.columns s.columns

/-! ## Members -/

theorem text_read_iff {v : Json} {s : String} : Expected.text.read? v = some s ↔ v = .str s := by
  cases v <;> simp [Expected.text]

theorem items_read_iff {v : Json} {items : List Json} :
    Expected.items.read? v = some items ↔ v = .arr items := by
  cases v <;> simp [Expected.items]

theorem flag_read_iff {v : Json} {b : Bool} : Expected.flag.read? v = some b ↔ v = .bool b := by
  cases v <;> simp [Expected.flag]

theorem path_read_iff {v : Json} {p : String ⊕ List Json} :
    Expected.path.read? v = some p ↔ v = p.elim .str .arr := by
  cases p <;> cases v <;> simp [Expected.path]

theorem package_read_none_iff {v : Json} :
    Expected.package.read? v = some none ↔ v = .null := by
  cases v <;> simp [Expected.package, Expected.path]

theorem package_read_some_iff {v : Json} {p : String ⊕ List Json} :
    Expected.package.read? v = some (some p) ↔ v = p.elim .str .arr := by
  cases p <;> cases v <;> simp [Expected.package, Expected.path]

theorem expect_ok_iff {α : Type} {place : Place} {key : String} {e : Expected α} {v : Json}
    {a : α} : expect place key e v = .ok a ↔ e.read? v = some a := by
  unfold expect malformed
  cases e.read? v <;> simp

theorem required_ok_iff {α : Type} {place : Place} {members : List (String × Json)} {key : String}
    {e : Expected α} {a : α} :
    required place members key e = .ok a ↔
      ∃ v, Json.member? members key = some v ∧ e.read? v = some a := by
  unfold required malformed
  cases Json.member? members key <;> simp [expect_ok_iff]

theorem optional_ok_iff {α : Type} {place : Place} {members : List (String × Json)} {key : String}
    {e : Expected α} {default a : α} :
    optional place members key e default = .ok a ↔
      (∃ v, Json.member? members key = some v ∧ e.read? v = some a) ∨
        Json.member? members key = none ∧ a = default := by
  unfold optional
  cases Json.member? members key with
  | none => simp [eq_comm]
  | some v => simp [expect_ok_iff]

theorem membersOf_ok_iff {place : Place} {v : Json} {members : List (String × Json)} :
    membersOf place v = .ok members ↔ v = .obj members := by
  cases v <;> simp [membersOf, malformed]

theorem textItems_ok_iff {place : Place} {key : String} {items : List Json}
    {texts : List String} : textItems place key items = .ok texts ↔ items = texts.map .str := by
  induction items generalizing texts with
  | nil => cases texts <;> simp [textItems]
  | cons v items ih =>
    cases v with
    | str s =>
      simp only [textItems, mapped_ok_iff, ih]
      cases texts with
      | nil => simp
      | cons t texts =>
        simp only [List.cons.injEq, List.map_cons, Json.str.injEq]
        refine ⟨fun h => ?_, fun h => ?_⟩
        · obtain ⟨_, rfl, rfl, rfl⟩ := h
          exact ⟨rfl, rfl⟩
        · obtain ⟨rfl, rfl⟩ := h
          exact ⟨_, rfl, rfl, rfl⟩
    | _ => cases texts <;> simp [textItems, malformed]

theorem requiredText_ok_iff {place : Place} {members : List (String × Json)} {key s : String} :
    required place members key .text = .ok s ↔ HasText members key s := by
  simp [required_ok_iff, text_read_iff, HasText]

theorem optionalList_ok_iff {place : Place} {members : List (String × Json)} {key : String}
    {items : List Json} :
    optional place members key .items [] = .ok items ↔ HasList members key items := by
  simp [optional_ok_iff, items_read_iff, HasList]

/-- A text gives the segments that it is cut into at its points. -/
theorem isDotted_iff {s : String} {segments : List String} :
    IsDotted s segments ↔ segments = dotted s := by
  have hpieces : dotted s = (s.toList.splitOn '.').map String.ofList := by
    rw [dotted, Text.split_singleton]
  have hpoint : ".".toList = ['.'] := by decide
  constructor
  · rintro ⟨hne, rfl, hfree⟩
    have hcut : (['.'].intercalate (segments.map String.toList)).splitOn '.' =
        segments.map String.toList :=
      List.splitOn_intercalate '.' (by simpa using hfree) (by simpa using hne)
    rw [hpieces, String.toList_intercalate, hpoint, hcut, List.map_map]
    simp [Function.comp_def]
  · rintro rfl
    rw [hpieces]
    refine ⟨by simp [List.splitOn_ne_nil], ?_, fun g hg => ?_⟩
    · apply String.toList_inj.1
      rw [String.toList_intercalate, hpoint, List.map_map]
      simp [Function.comp_def, List.intercalate_splitOn]
    · obtain ⟨piece, hpiece, rfl⟩ := List.mem_map.1 hg
      rw [← Text.split_singleton] at hpiece
      rw [String.toList_ofList]
      exact Text.not_mem_of_mem_split hpiece

/-- A name has one form with a capital. -/
theorem capitalizes_iff {name declared : String} :
    Capitalizes name declared ↔ declared = declarationName name := by
  have hupper : ∀ c : Char, Text.upper [c] = Text.upperChar c := by
    intro c
    simp [Text.upper]
  constructor
  · intro h
    cases h with
    | empty => rfl
    | cons c r => rw [declarationName, String.toList_ofList, Name.capitalizeFirst, hupper]
  · rintro rfl
    rw [declarationName]
    generalize hname : name.toList = cs
    obtain rfl : name = String.ofList cs := by rw [← hname, String.ofList_toList]
    cases cs with
    | nil => exact .empty
    | cons c r =>
      rw [Name.capitalizeFirst, ← hupper]
      exact .cons c r

theorem pathItems_ok_iff {place : Place} {key : String} {p : String ⊕ List Json}
    {segments : List String} :
    pathItems place key p = .ok segments ↔
      (∃ s, p = .inl s ∧ segments = dotted s) ∨ p = .inr (segments.map .str) := by
  cases p with
  | inl s => simp [pathItems, eq_comm]
  | inr items => simp [pathItems, textItems_ok_iff]

/-! ## Lists of entries -/

/-- What a loader does at every index, it does along a list. -/
theorem loadFrom_ok_iff {α : Type} {load : Nat → Json → Except CatalogError α}
    {R : Json → α → Prop} (h : ∀ i v a, load i v = .ok a ↔ R v a) {i : Nat} {vs : List Json}
    {as : List α} : loadFrom load i vs = .ok as ↔ List.Forall₂ R vs as := by
  induction vs generalizing i as with
  | nil => cases as <;> simp [loadFrom]
  | cons v vs ih =>
    simp only [loadFrom, sequence_ok_iff, pure_ok_iff, h, ih, List.forall₂_cons_left_iff]
    refine ⟨fun h => ?_, fun h => ?_⟩
    · obtain ⟨a, ha, as', has, rfl⟩ := h
      exact ⟨a, as', ha, has, rfl⟩
    · obtain ⟨a, as', ha, has, rfl⟩ := h
      exact ⟨a, ha, as', has, rfl⟩

/-- Readings in two steps, first into an entry of a kind and then out of it, along a list. -/
theorem forall₂_two_steps {α β γ : Type} {R : α → β → Prop} {P : β → Prop} {S : β → γ → Prop} :
    ∀ {as : List α} {cs : List γ},
      List.Forall₂ (fun a c => ∃ b, R a b ∧ P b ∧ S b c) as cs ↔
        ∃ bs, List.Forall₂ R as bs ∧ (∀ b ∈ bs, P b) ∧ List.Forall₂ S bs cs := by
  intro as cs
  refine ⟨fun h => ?_, fun h => ?_⟩
  · induction h with
    | nil => exact ⟨[], .nil, by simp, .nil⟩
    | cons hac _ ih =>
      obtain ⟨b, hab, hb, hbc⟩ := hac
      obtain ⟨bs, h1, h2, h3⟩ := ih
      exact ⟨b :: bs, .cons hab h1, by simpa using ⟨hb, h2⟩, .cons hbc h3⟩
  · obtain ⟨bs, h1, h2, h3⟩ := h
    induction h1 generalizing cs with
    | nil => cases h3; exact .nil
    | cons hab _ ih =>
      cases h3 with
      | cons hbc h3 =>
        exact .cons ⟨_, hab, h2 _ (.head _), hbc⟩ (ih (fun b hb => h2 b (.tail _ hb)) h3)

/-! ## Columns -/

theorem nullable_ok_iff {place : Place} {members : List (String × Json)} {b : Bool} :
    optional place members "nullable" .flag false = .ok b ↔
      Json.member? members "nullable" = some (.bool b) ∨
        Json.member? members "nullable" = none ∧ b = false := by
  simp [optional_ok_iff, flag_read_iff]

theorem loadColumn_ok_iff {list : Section} {i j : Nat} {v : Json} {c : Column} :
    loadColumn list i j v = .ok c ↔ ∃ e, ReadsColumn v e ∧ e.name ≠ "" ∧ IsColumnOf e c := by
  simp only [loadColumn, sequence_ok_iff, membersOf_ok_iff, requiredText_ok_iff, nullable_ok_iff]
  refine ⟨fun h => ?_, fun h => ?_⟩
  · obtain ⟨members, rfl, name, hname, type, htype, nullable, hnullable, h⟩ := h
    split at h
    · rename_i c' hc'
      obtain ⟨h1, h2, h3⟩ := Column.make?_eq_some_iff.1 hc'
      simp only [pure_ok_iff] at h
      subst h
      refine ⟨⟨name, type, nullable⟩, ⟨members, rfl, hname, htype, hnullable⟩, ?_, h1, h2, h3⟩
      rintro rfl
      have := c'.named
      rw [h1] at this
      simp [Json.truthy] at this
    · simp [malformed] at h
  · obtain ⟨e, ⟨members, rfl, hname, htype, hnullable⟩, hne, hc⟩ := h
    refine ⟨members, rfl, e.name, hname, e.type, htype, e.nullable, hnullable, ?_⟩
    rw [Column.make?_eq_some_iff.2 hc]
    rfl

theorem loadColumns_ok_iff {list : Section} {i : Nat} {members : List (String × Json)}
    {cs : List Column} :
    loadColumns list i members = .ok cs ↔
      ∃ es, ReadsColumns members es ∧ (∀ e ∈ es, e.name ≠ "") ∧ List.Forall₂ IsColumnOf es cs := by
  have key : ∀ items, loadFrom (loadColumn list i) 0 items = .ok cs ↔
      ∃ es, List.Forall₂ ReadsColumn items es ∧ (∀ e ∈ es, e.name ≠ "") ∧
        List.Forall₂ IsColumnOf es cs :=
    fun items => (loadFrom_ok_iff (R := fun v c => ∃ e, ReadsColumn v e ∧ e.name ≠ "" ∧
      IsColumnOf e c) fun _ _ _ => loadColumn_ok_iff).trans forall₂_two_steps
  simp only [loadColumns, sequence_ok_iff, required_ok_iff, items_read_iff, key, ReadsColumns]
  refine ⟨fun h => ?_, fun h => ?_⟩
  · obtain ⟨items, ⟨_, hitems, rfl⟩, es, hes, hne, hcs⟩ := h
    exact ⟨es, ⟨items, hitems, hes⟩, hne, hcs⟩
  · obtain ⟨es, ⟨items, hitems, hes⟩, hne, hcs⟩ := h
    exact ⟨items, ⟨_, hitems, rfl⟩, es, hes, hne, hcs⟩

theorem hasDistinctNames_iff {es : List ColumnEntry} {cs : List Column}
    (h : List.Forall₂ IsColumnOf es cs) : HasDistinctNames cs ↔ (es.map (·.name)).Nodup := by
  have hkeys : cs.map (·.sourceName.key?) =
      (es.map (·.name)).map fun n => some (Json.Key.text n) := by
    induction h with
    | nil => rfl
    | cons hc _ ih =>
      rw [List.map_cons, List.map_cons, List.map_cons, ih, hc.1]
      rfl
  have hcomparable : ∀ c ∈ cs, c.sourceName.key? ≠ none := by
    intro c hc
    obtain ⟨e, -, he⟩ := exists_step_of_mem h hc
    simp [he.1, Json.key?]
  have hpairwise : (cs.Pairwise fun a b => a.sourceName.key? ≠ b.sourceName.key?) ↔
      (cs.map (·.sourceName.key?)).Nodup := List.pairwise_map.symm
  have hinj : Function.Injective fun n => some (Json.Key.text n) := by
    intro n n' h
    simpa using h
  rw [HasDistinctNames, hpairwise, hkeys, List.nodup_map_iff hinj]
  exact and_iff_right hcomparable

/-! ## Entries -/

theorem ofText?_eq_some_iff {s : List Char} {g : Segment} :
    Segment.ofText? s = some g ↔
      (∃ c ∈ s, Text.isBlank c = false) ∧
        g.text = String.ofList (Name.safeSegment (Text.strip s)) := by
  have hblank : (∃ c ∈ s, Text.isBlank c = false) ↔ ¬Text.strip s = [] := by
    rw [Text.strip_eq_nil_iff]
    simp
  rw [hblank, Segment.ofText?]
  split
  · rename_i h
    simp [h]
  · rename_i h
    cases g
    simp [h, eq_comm]

theorem mapM_ofJson?_eq_some_iff {segments : List String} {gs : List Segment} :
    (segments.map .str).mapM Segment.ofJson? = some gs ↔
      (∀ s ∈ segments, ∃ c ∈ s.toList, Text.isBlank c = false) ∧
        gs.map (·.text) =
          segments.map fun s => String.ofList (Name.safeSegment (Text.strip s.toList)) := by
  induction segments generalizing gs with
  | nil => cases gs <;> simp
  | cons s segments ih =>
    simp only [List.map_cons, List.mapM_cons, Option.bind_eq_bind, Option.bind_eq_some_iff,
      Segment.ofJson?, ofText?_eq_some_iff, ih, Option.pure_def, Option.some.injEq,
      List.mem_cons, forall_eq_or_imp]
    refine ⟨fun h => ?_, fun h => ?_⟩
    · obtain ⟨g, ⟨hs, hg⟩, gs', ⟨hss, hgs⟩, rfl⟩ := h
      exact ⟨⟨hs, hss⟩, by rw [List.map_cons, hg, hgs]⟩
    · obtain ⟨⟨hs, hss⟩, hgs⟩ := h
      cases gs with
      | nil => simp at hgs
      | cons g gs =>
        simp only [List.map_cons, List.cons.injEq] at hgs
        exact ⟨g, ⟨hs, hgs.1⟩, gs, ⟨hss, hgs.2⟩, rfl⟩

/-- A path is made of given values exactly if each of them gives one of its segments. -/
theorem ofSegments_eq_ok_iff {given : List Json} {p : NamespacePath} :
    NamespacePath.ofSegments given = .ok p ↔ given.mapM Segment.ofJson? = some p.segments := by
  unfold NamespacePath.ofSegments
  cases p
  split <;> simp_all [NamespacePath.segments]

theorem ofSegments_texts_ok_iff {segments : List String} {p : NamespacePath} :
    NamespacePath.ofSegments (segments.map .str) = .ok p ↔
      segments ≠ [] ∧ (∀ s ∈ segments, ∃ c ∈ s.toList, Text.isBlank c = false) ∧
        p.names =
          segments.map fun s => String.ofList (Name.safeSegment (Text.strip s.toList)) := by
  rw [ofSegments_eq_ok_iff, mapM_ofJson?_eq_some_iff]
  refine ⟨fun h => ?_, fun h => ?_⟩
  · obtain ⟨hblank, hnames⟩ := h
    refine ⟨?_, hblank, hnames⟩
    rintro rfl
    simp [NamespacePath.segments] at hnames
  · obtain ⟨-, hblank, hnames⟩ := h
    exact ⟨hblank, hnames⟩

theorem make_ok_iff {path : NamespacePath} {name : Json} {columns : List Column} {s : RowShape} :
    RowShape.make path name columns = .ok s ↔
      name.truthy = true ∧ HasDistinctNames columns ∧
        s.path = path ∧ s.name = name ∧ s.columns = columns := by
  unfold RowShape.make
  split
  · rename_i hn
    split
    · rename_i hc
      have hd := hasDistinctNames_of_columnFault? hc
      cases s
      simp [hn, hd, eq_comm]
    · rename_i e hc
      have hd : ¬HasDistinctNames columns := by
        intro hd
        rw [columnFault?_eq_none_iff.2 ⟨hd, by simp⟩] at hc
        cases hc
      simp [hd]
  · rename_i hn
    simp [hn]

theorem truthy_of_isIdentifier {name : String} (h : Name.isIdentifier name.toList = true) :
    (Json.str name).truthy = true := by
  have hne : name ≠ "" := by
    rintro rfl
    revert h
    decide
  simpa [Json.truthy] using hne

/-- An entry whose columns have been loaded makes a row shape exactly if it is valid. -/
theorem makeShape_ok_iff {place : Place} {e : Entry} {columns : List Column} {s : RowShape}
    (hnamed : ∀ c ∈ e.columns, c.name ≠ "") (hcolumns : List.Forall₂ IsColumnOf e.columns columns) :
    makeShape place e.segments e.name columns = .ok s ↔
      e.IsValid ∧ IsShapeOf e s ∧ s.columns = columns := by
  have hshape : makeShape place e.segments e.name columns = .ok s ↔
      ∃ p, NamespacePath.ofSegments (e.segments.map .str) = .ok p ∧
        Name.isIdentifier e.name.toList = true ∧ RowShape.make p (.str e.name) columns = .ok s := by
    unfold makeShape malformed
    split
    · rename_i h
      simp [h]
    · rename_i p h
      split <;> simp_all
  simp only [hshape, ofSegments_texts_ok_iff, make_ok_iff, hasDistinctNames_iff hcolumns]
  refine ⟨fun h => ?_, fun h => ?_⟩
  · obtain ⟨p, ⟨hloc, hblank, hnames⟩, hid, -, hdistinct, rfl, hname, rfl⟩ := h
    exact ⟨⟨hnamed, hdistinct, hid, hloc, hblank⟩, ⟨hnames, hname, hcolumns⟩, rfl⟩
  · obtain ⟨⟨-, hdistinct, hid, hloc, hblank⟩, ⟨hnames, hname, -⟩, rfl⟩ := h
    exact ⟨s.path, ⟨hloc, hblank, hnames⟩, hid, truthy_of_isIdentifier hid, hdistinct, rfl, hname,
      rfl⟩

/-- An entry of some kind is loaded exactly if it reads as a valid entry, into the shape of it. -/
def LoadsAs (load : Nat → Json → Except CatalogError RowShape) (R : Json → Entry → Prop) : Prop :=
  ∀ i v s, load i v = .ok s ↔ ∃ e, R v e ∧ e.IsValid ∧ IsShapeOf e s

theorem loadTable_loadsAs (package : List String) :
    LoadsAs (loadTable package) (ReadsTable package) := by
  intro i v s
  have hschema : ∀ {members : List (String × Json)} {schema : String},
      optional (.entry .tables i) members "schema" .text "public" = .ok schema ↔
        HasSchema members schema := by
    simp [optional_ok_iff, text_read_iff, HasSchema, HasText]
  have hnamespace : ∀ schema : String, tableNamespace package schema =
      package ++ ["schema_" ++ String.ofList (Text.lower schema.toList)] := fun _ => rfl
  simp only [loadTable, sequence_ok_iff, membersOf_ok_iff, requiredText_ok_iff, hschema,
    loadColumns_ok_iff]
  refine ⟨fun h => ?_, fun h => ?_⟩
  · obtain ⟨members, rfl, name, hname, schema, hs, columns, ⟨es, hes, hne, hcs⟩, h⟩ := h
    obtain ⟨hvalid, hshape, -⟩ :=
      (makeShape_ok_iff (e := ⟨tableNamespace package schema, name, es⟩) hne hcs).1 h
    exact ⟨_, ⟨members, schema, rfl, hname, hs, hes, rfl⟩, hvalid, hshape⟩
  · obtain ⟨e, ⟨members, schema, rfl, hname, hs, hes, hseg⟩, hvalid, hshape⟩ := h
    refine ⟨members, rfl, e.name, hname, schema, hs, s.columns,
      ⟨e.columns, hes, hvalid.columnsNamed, hshape.columns⟩, ?_⟩
    rw [hnamespace, ← hseg]
    exact (makeShape_ok_iff hvalid.columnsNamed hshape.columns).2 ⟨hvalid, hshape, rfl⟩

theorem loadStatement_loadsAs (package : List String) :
    LoadsAs (loadStatement package) (ReadsStatement package) := by
  intro i v s
  simp only [loadStatement, sequence_ok_iff, membersOf_ok_iff, requiredText_ok_iff,
    loadColumns_ok_iff]
  refine ⟨fun h => ?_, fun h => ?_⟩
  · obtain ⟨members, rfl, name, hname, file, hfile, columns, ⟨es, hes, hne, hcs⟩, h⟩ := h
    obtain ⟨hvalid, hshape, -⟩ := (makeShape_ok_iff
      (e := ⟨statementNamespace package file, declarationName name, es⟩) hne hcs).1 h
    exact ⟨_, ⟨members, name, file, rfl, hname, hfile, hes, rfl, capitalizes_iff.2 rfl⟩, hvalid,
      hshape⟩
  · obtain ⟨e, ⟨members, name, file, rfl, hname, hfile, hes, hseg, hdecl⟩, hvalid, hshape⟩ := h
    refine ⟨members, rfl, name, hname, file, hfile, s.columns,
      ⟨e.columns, hes, hvalid.columnsNamed, hshape.columns⟩, ?_⟩
    rw [← hseg, ← capitalizes_iff.1 hdecl]
    exact (makeShape_ok_iff hvalid.columnsNamed hshape.columns).2 ⟨hvalid, hshape, rfl⟩

theorem loadRowShape_loadsAs : LoadsAs loadRowShape ReadsRowShape := by
  intro i v s
  have hpath : ∀ {members : List (String × Json)} {segments : List String},
      (∃ p, required (.entry .rowShapes i) members "namespace" .path = .ok p ∧
        pathItems (.entry .rowShapes i) "namespace" p = .ok segments) ↔
      (∃ s, HasText members "namespace" s ∧ IsDotted s segments) ∨
        Json.member? members "namespace" = some (.arr (segments.map .str)) := by
    intro members segments
    simp only [required_ok_iff, path_read_iff, pathItems_ok_iff, HasText, isDotted_iff]
    refine ⟨fun h => ?_, fun h => ?_⟩
    · obtain ⟨_, ⟨_, hv, rfl⟩, ⟨s, rfl, rfl⟩ | rfl⟩ := h
      · exact .inl ⟨s, hv, rfl⟩
      · exact .inr hv
    · rcases h with ⟨s, hs, rfl⟩ | hs
      · exact ⟨.inl s, ⟨_, hs, rfl⟩, .inl ⟨s, rfl, rfl⟩⟩
      · exact ⟨.inr _, ⟨_, hs, rfl⟩, .inr rfl⟩
  simp only [loadRowShape, sequence_ok_iff, membersOf_ok_iff, requiredText_ok_iff,
    loadColumns_ok_iff]
  refine ⟨fun h => ?_, fun h => ?_⟩
  · obtain ⟨members, rfl, p, hp, name, hname, segments, hseg, columns, ⟨es, hes, hne, hcs⟩, h⟩ := h
    obtain ⟨hvalid, hshape, -⟩ := (makeShape_ok_iff (e := ⟨segments, name, es⟩) hne hcs).1 h
    exact ⟨_, ⟨members, rfl, hname, hpath.1 ⟨p, hp, hseg⟩, hes⟩, hvalid, hshape⟩
  · obtain ⟨e, ⟨members, rfl, hname, hns, hes⟩, hvalid, hshape⟩ := h
    obtain ⟨p, hp, hseg⟩ := hpath.2 hns
    refine ⟨members, rfl, p, hp, e.name, hname, e.segments, hseg, s.columns,
      ⟨e.columns, hes, hvalid.columnsNamed, hshape.columns⟩, ?_⟩
    exact (makeShape_ok_iff hvalid.columnsNamed hshape.columns).2 ⟨hvalid, hshape, rfl⟩

/-! ## Documents -/

theorem loadPackage_ok_iff {members : List (String × Json)} {package : List String} :
    loadPackage members = .ok package ↔ ReadsPackage members package := by
  simp only [loadPackage, sequence_ok_iff, optional_ok_iff]
  refine ⟨fun h => ?_, fun h => ?_⟩
  · obtain ⟨p, hp, h⟩ := h
    split at h
    · simp only [pure_ok_iff] at h
      subst h
      rcases hp with ⟨v, hv, hread⟩ | ⟨hv, -⟩
      · rw [package_read_none_iff] at hread
        exact .null (hread ▸ hv)
      · exact .absent hv
    · simp only [pure_ok_iff] at h
      subst h
      rcases hp with ⟨v, hv, hread⟩ | ⟨-, hp⟩
      · rw [package_read_some_iff] at hread
        subst hread
        exact .empty hv
      · cases hp
    · rename_i p hne
      rcases hp with ⟨v, hv, hread⟩ | ⟨-, hp⟩
      · rw [package_read_some_iff] at hread
        subst hread
        rcases pathItems_ok_iff.1 h with ⟨s, rfl, hpieces⟩ | rfl
        · exact .text hv (fun hs => hne (by rw [hs])) (isDotted_iff.2 hpieces)
        · exact .list hv
      · cases hp
  · cases h with
    | absent hv => exact ⟨none, .inr ⟨hv, rfl⟩, rfl⟩
    | null hv => exact ⟨none, .inl ⟨_, hv, rfl⟩, rfl⟩
    | empty hv => exact ⟨some (.inl ""), .inl ⟨_, hv, rfl⟩, rfl⟩
    | @text s _ hv hs hpieces =>
      obtain rfl := isDotted_iff.1 hpieces
      refine ⟨some (.inl s), .inl ⟨_, hv, rfl⟩, ?_⟩
      split
      · cases ‹some (Sum.inl s) = none›
      · rename_i h
        simp only [Option.some.injEq, Sum.inl.injEq] at h
        exact absurd h hs
      · rename_i h
        cases h
        rfl
    | list hv =>
      exact ⟨some (.inr (package.map .str)), .inl ⟨_, hv, rfl⟩, pathItems_ok_iff.2 (.inr rfl)⟩

theorem loadSection_ok_iff {members : List (String × Json)} {list : Section}
    {load : Nat → Json → Except CatalogError RowShape} {R : Json → Entry → Prop}
    (hload : LoadsAs load R) {shapes : List RowShape} :
    loadSection members list load = .ok shapes ↔
      ∃ items es, HasList members list.word items ∧ List.Forall₂ R items es ∧
        (∀ e ∈ es, e.IsValid) ∧ List.Forall₂ IsShapeOf es shapes := by
  have key : ∀ items, loadFrom load 0 items = .ok shapes ↔
      ∃ es, List.Forall₂ R items es ∧ (∀ e ∈ es, e.IsValid) ∧ List.Forall₂ IsShapeOf es shapes :=
    fun items => (loadFrom_ok_iff hload).trans forall₂_two_steps
  simp only [loadSection, sequence_ok_iff, optionalList_ok_iff, key, exists_and_left]

theorem exists_columns : ∀ {es : List ColumnEntry}, (∀ e ∈ es, e.name ≠ "") →
    ∃ cs, List.Forall₂ IsColumnOf es cs
  | [], _ => ⟨[], .nil⟩
  | e :: es, h => by
    obtain ⟨cs, hcs⟩ := exists_columns fun e he => h e (.tail _ he)
    have hname : (Json.str e.name).truthy = true := by simpa [Json.truthy] using h e (.head _)
    exact ⟨⟨_, .str e.type, .bool e.nullable, hname⟩ :: cs, .cons ⟨rfl, rfl, rfl⟩ hcs⟩

theorem exists_segments : ∀ {segments : List String},
    (∀ s ∈ segments, ∃ c ∈ s.toList, Text.isBlank c = false) →
    ∃ gs, (segments.map .str).mapM Segment.ofJson? = some gs
  | [], _ => ⟨[], rfl⟩
  | s :: segments, h => by
    obtain ⟨gs, hgs⟩ := exists_segments fun s hs => h s (.tail _ hs)
    have hs : Segment.ofText? s.toList ≠ none := by
      rw [ne_eq, Segment.ofText?_eq_none_iff]
      obtain ⟨c, hc, hblank⟩ := h s (.head _)
      intro hall
      rw [hall c hc] at hblank
      cases hblank
    obtain ⟨g, hg⟩ := Option.ne_none_iff_exists'.1 hs
    exact ⟨g :: gs, by simp [Segment.ofJson?, hg, hgs]⟩

/-- A valid entry has a row shape. -/
theorem Entry.IsValid.exists_shape {e : Entry} (h : e.IsValid) : ∃ s, IsShapeOf e s := by
  obtain ⟨columns, hcolumns⟩ := exists_columns h.columnsNamed
  obtain ⟨gs, hgs⟩ := exists_segments h.notBlank
  have hpath := (mapM_ofJson?_eq_some_iff.1 hgs).2
  cases gs with
  | nil => exact absurd (List.map_eq_nil_iff.1 hpath.symm) h.located
  | cons g gs =>
    have hdistinct := (hasDistinctNames_iff hcolumns).2 h.distinct
    exact ⟨⟨⟨g, gs⟩, .str e.name, columns, truthy_of_isIdentifier h.named, hdistinct⟩,
      hpath, rfl, hcolumns⟩

theorem exists_shapes : ∀ {es : List Entry}, (∀ e ∈ es, e.IsValid) →
    ∃ shapes, List.Forall₂ IsShapeOf es shapes
  | [], _ => ⟨[], .nil⟩
  | e :: es, h => by
    obtain ⟨s, hs⟩ := (h e (.head _)).exists_shape
    obtain ⟨shapes, hshapes⟩ := exists_shapes fun e he => h e (.tail _ he)
    exact ⟨s :: shapes, .cons hs hshapes⟩

theorem forall₂_append_split {α β : Type} {R : α → β → Prop} :
    ∀ {as bs : List α} {cs : List β}, List.Forall₂ R (as ++ bs) cs →
      ∃ cs₁ cs₂, cs = cs₁ ++ cs₂ ∧ List.Forall₂ R as cs₁ ∧ List.Forall₂ R bs cs₂
  | [], _, cs, h => ⟨[], cs, rfl, .nil, h⟩
  | _ :: _, _, _ :: _, .cons hac h => by
    obtain ⟨cs₁, cs₂, rfl, h₁, h₂⟩ := forall₂_append_split h
    exact ⟨_ :: cs₁, cs₂, rfl, .cons hac h₁, h₂⟩

theorem load_ok_iff {data : Json} {shapes : List RowShape} :
    load data = .ok shapes ↔
      ∃ entries, Describes data entries ∧ (∀ e ∈ entries, e.IsValid) ∧
        List.Forall₂ IsShapeOf entries shapes := by
  cases data with
  | obj members =>
    simp only [load, sequence_ok_iff, pure_ok_iff, loadPackage_ok_iff,
      loadSection_ok_iff (loadTable_loadsAs _), loadSection_ok_iff (loadStatement_loadsAs _),
      loadSection_ok_iff loadRowShape_loadsAs]
    refine ⟨fun h => ?_, fun h => ?_⟩
    · obtain ⟨package, hp, shapes₁, h₁, shapes₂, h₂, shapes₃, h₃, rfl⟩ := h
      obtain ⟨tables, ts, ht, hts, hvt, hst⟩ := h₁
      obtain ⟨statements, ss, hs, hss, hvs, hss'⟩ := h₂
      obtain ⟨rowShapes, rs, hr, hrs, hvr, hsr⟩ := h₃
      refine ⟨ts ++ ss ++ rs, ⟨members, package, tables, statements, rowShapes, ts, ss, rs, rfl, hp,
        ht, hts, hs, hss, hr, hrs, rfl⟩, fun e he => ?_,
        List.rel_append (List.rel_append hst hss') hsr⟩
      simp only [List.mem_append] at he
      rcases he with (he | he) | he
      · exact hvt e he
      · exact hvs e he
      · exact hvr e he
    · obtain ⟨_, hd, hv, hshapes⟩ := h
      obtain ⟨_, package, tables, statements, rowShapes, ts, ss, rs, ⟨⟩, hp, ht, hts, hs, hss, hr,
        hrs, rfl⟩ := hd
      simp only [List.mem_append, or_imp, forall_and] at hv
      obtain ⟨_, shapes₃, rfl, hshapes, h₃⟩ := forall₂_append_split hshapes
      obtain ⟨shapes₁, shapes₂, rfl, h₁, h₂⟩ := forall₂_append_split hshapes
      exact ⟨package, hp, shapes₁, ⟨tables, ts, ht, hts, hv.1.1, h₁⟩, shapes₂,
        ⟨statements, ss, hs, hss, hv.1.2, h₂⟩, shapes₃, ⟨rowShapes, rs, hr, hrs, hv.2, h₃⟩, rfl⟩
  | _ =>
    simp only [load, reduceCtorEq, false_iff]
    rintro ⟨_, ⟨_, _, _, _, _, _, _, _, ⟨⟩, _⟩, _⟩

/-- **A document is loaded exactly if it describes valid entries.** Otherwise it is refused with an
error of the catalog; if it is loaded, its row shapes are those of the entries, in order. -/
theorem load_iff_describes_valid (data : Json) :
    ((∃ shapes, load data = .ok shapes) ↔
      ∃ entries, Describes data entries ∧ ∀ e ∈ entries, e.IsValid) ∧
    ((∃ error, load data = .error error) ↔
      ¬∃ entries, Describes data entries ∧ ∀ e ∈ entries, e.IsValid) ∧
    ∀ shapes, load data = .ok shapes ↔
      ∃ entries, Describes data entries ∧ (∀ e ∈ entries, e.IsValid) ∧
        List.Forall₂ IsShapeOf entries shapes := by
  have hloaded : (∃ shapes, load data = .ok shapes) ↔
      ∃ entries, Describes data entries ∧ ∀ e ∈ entries, e.IsValid := by
    refine ⟨fun h => ?_, fun h => ?_⟩
    · obtain ⟨shapes, h⟩ := h
      obtain ⟨entries, hd, hv, -⟩ := load_ok_iff.1 h
      exact ⟨entries, hd, hv⟩
    · obtain ⟨entries, hd, hv⟩ := h
      obtain ⟨shapes, hshapes⟩ := exists_shapes hv
      exact ⟨shapes, load_ok_iff.2 ⟨entries, hd, hv, hshapes⟩⟩
  refine ⟨hloaded, ?_, fun shapes => load_ok_iff⟩
  rw [← hloaded]
  cases load data <;> simp

/-- A table with a column. -/
def ordersTable : Json :=
  .obj [("schema", .str "SALES"), ("name", .str "Order"),
    ("columns", .arr [.obj [("name", .str "id"), ("type", .str "int")]])]

/-- A statement without columns. -/
def topTenStatement : Json :=
  .obj [("file", .str "Reports/Daily.sql"), ("name", .str "topTen"), ("columns", .arr [])]

/-- A catalog with this table and this statement. -/
def shopCatalog : Json :=
  .obj [("package", .str "com.Shop"), ("tables", .arr [ordersTable]),
    ("statements", .arr [topTenStatement])]

/-- What it describes. -/
def shopEntries : List Entry :=
  [⟨["com", "Shop", "schema_sales"], "Order", [⟨"id", "int", false⟩]⟩,
    ⟨["com", "Shop", "reports", "daily"], "TopTen", []⟩]

theorem describes_shopCatalog : Describes shopCatalog shopEntries := by
  have hpackage : IsDotted "com.Shop" ["com", "Shop"] := ⟨by decide, by decide, by decide⟩
  have hcolumn : ReadsColumn (.obj [("name", .str "id"), ("type", .str "int")])
      ⟨"id", "int", false⟩ := ⟨_, rfl, rfl, rfl, .inr ⟨rfl, rfl⟩⟩
  have htable : ReadsTable ["com", "Shop"] ordersTable
      ⟨["com", "Shop", "schema_sales"], "Order", [⟨"id", "int", false⟩]⟩ :=
    ⟨_, "SALES", rfl, rfl, .inl rfl, ⟨_, rfl, .cons hcolumn .nil⟩, by decide +kernel⟩
  have hname : Capitalizes "topTen" "TopTen" := .cons 't' "opTen".toList
  have hstatement : ReadsStatement ["com", "Shop"] topTenStatement
      ⟨["com", "Shop", "reports", "daily"], "TopTen", []⟩ :=
    ⟨_, "topTen", "Reports/Daily.sql", rfl, rfl, rfl, ⟨_, rfl, .nil⟩, by decide +kernel, hname⟩
  exact ⟨_, _, _, _, [], _, _, [], rfl, .text rfl (by decide) hpackage, .inl rfl,
    .cons htable .nil, .inl rfl, .cons hstatement .nil, .inr ⟨rfl, rfl⟩, .nil, rfl⟩

theorem load_iff_describes_valid_shop :
    ∃ shapes, load shopCatalog = .ok shapes ∧
      shapes.map (·.path.names) =
        [["com", "Shop", "schema_sales"], ["com", "Shop", "reports", "daily"]] ∧
      shapes.map (·.name) = [.str "Order", .str "TopTen"] := by
  have hvisible {ss : List String} (h : ss.all (·.toList.any (!Text.isBlank ·)) = true) :
      ∀ s ∈ ss, ∃ c ∈ s.toList, Text.isBlank c = false := by
    simpa using h
  have hvalid : ∀ e ∈ shopEntries, e.IsValid :=
    List.forall_mem_cons.2 ⟨⟨by decide, by decide, by decide, by decide, hvisible (by decide)⟩,
      List.forall_mem_cons.2
        ⟨⟨by decide, by decide, by decide, by decide, hvisible (by decide)⟩, nofun⟩⟩
  obtain ⟨shapes, hshapes⟩ := exists_shapes hvalid
  have hloaded := ((load_iff_describes_valid shopCatalog).2.2 shapes).2
    ⟨shopEntries, describes_shopCatalog, hvalid, hshapes⟩
  refine ⟨shapes, hloaded, ?_⟩
  cases hshapes with
  | cons htable hshapes =>
    cases hshapes with
    | cons hstatement hshapes =>
      cases hshapes with
      | nil =>
        simp only [List.map_cons, List.map_nil, htable.path, hstatement.path, htable.name,
          hstatement.name]
        decide

end RowDecl.Catalog
