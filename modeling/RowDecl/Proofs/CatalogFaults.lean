import RowDecl.Proofs.CatalogGrammar
import RowDecl.Proofs.PathText

/-!
# The first fault of a catalog

A complaint about a catalog begins with the place it is about. `load_error_first_entry`: if that is
an entry of a list, then the catalog that ends before this entry is loaded, and whatever stands
behind the entry, the complaint is the same.

`FailsIn P step`: the step fails only with complaints about places in `P`. Each loader of an entry
is such a step for the places in this entry (`entryLoader_failsIn`), everything else fails at the
catalog as a whole; and the beginning of a message tells the entry (`Place.text_prefix`). On the
other side, entries and lists are loaded in order up to the first that fails (`loadFrom_error_iff`,
`load_obj_error_iff`).
-/

namespace RowDecl

/-! ## Places in messages -/

/-- The place is the entry of a list at an index or a column of it. -/
def Place.IsIn (list : Section) (i : Nat) : Place → Prop
  | .whole => False
  | .entry l j => l = list ∧ j = i
  | .column l j _ => l = list ∧ j = i

theorem Section.toList_entryText (list : Section) (i : Nat) :
    (list.entryText i).toList = list.word.toList ++ '[' :: ((natText i).toList ++ [']']) := by
  simp [Section.entryText]

/-- The text of an entry begins no text but that of the same entry. -/
theorem Section.entryText_prefix {list l : Section} {i j : Nat} {rest : List Char}
    (h : (list.entryText i).toList <+: (l.entryText j).toList ++ rest) : l = list ∧ j = i := by
  obtain ⟨t, ht⟩ := h
  simp only [Section.toList_entryText, List.append_assoc, List.cons_append, List.nil_append] at ht
  -- The words of the lists begin with different letters.
  have hlist : l = list := by
    revert ht
    cases list <;> cases l <;> simp [Section.word]
  subst hlist
  have ht := (List.cons.inj (List.append_cancel_left ht)).2
  obtain ⟨hi, -⟩ := append_eq_append_of_stop Char.isDigit
    (fun c hc => isDigit_of_mem_natText hc) (fun c hc => isDigit_of_mem_natText hc)
    (by simp) (by simp) ht
  exact ⟨rfl, (natText_inj (String.toList_inj.1 hi)).symm⟩

/-- The beginning of a message tells the entry that it is about. -/
theorem Place.text_prefix {place : Place} {list l : Section} {i j : Nat} {rest : List Char}
    (hplace : place.IsIn l j) (h : (list.entryText i).toList <+: place.text.toList ++ rest) :
    l = list ∧ j = i := by
  cases place with
  | whole => cases hplace
  | entry l' j' =>
    obtain ⟨rfl, rfl⟩ := hplace
    exact Section.entryText_prefix h
  | column l' j' k =>
    obtain ⟨rfl, rfl⟩ := hplace
    rw [Place.text, String.toList_append, String.toList_append, List.append_assoc,
      List.append_assoc] at h
    exact Section.entryText_prefix h

theorem Place.not_prefix_whole {list : Section} {i : Nat} {rest : List Char} :
    ¬(list.entryText i).toList <+: Place.whole.text.toList ++ rest := by
  rintro ⟨t, ht⟩
  rw [Section.toList_entryText] at ht
  cases list <;> simp [Section.word, Place.text] at ht

theorem CatalogError.toList_message (place : Place) (fault : CatalogFault) :
    (CatalogError.malformed place fault).message.toList =
      place.text.toList ++ (": ".toList ++ fault.message.toList) := by
  show (place.text ++ ": " ++ fault.message).toList = _
  rw [String.toList_append, String.toList_append, List.append_assoc]

/-- The lists that are loaded after a list. -/
def Section.later : Section → List Section
  | .tables => [.statements, .rowShapes]
  | .statements => [.rowShapes]
  | .rowShapes => []

theorem Section.later_or_eq_or_later (list l : Section) :
    list ∈ l.later ∨ l = list ∨ l ∈ list.later := by
  cases list <;> cases l <;> decide

namespace Catalog

/-! ## Where steps fail -/

/-- The step fails only with complaints about places that satisfy `P`. -/
def FailsIn {α : Type} (P : Place → Prop) (step : Except CatalogError α) : Prop :=
  ∀ e, step = .error e → ∃ place fault, P place ∧ e = .malformed place fault

section
variable {α β : Type} {P : Place → Prop}

namespace FailsIn

theorem ok (a : α) : FailsIn P (.ok a) := by
  intro e he
  cases he

theorem malformed {place : Place} (hplace : P place) (fault : CatalogFault) :
    FailsIn P (Catalog.malformed place fault : Except CatalogError α) := by
  intro e he
  exact ⟨place, fault, hplace, (Except.error.inj he).symm⟩

theorem bind {step : Except CatalogError α} {next : α → Except CatalogError β}
    (hstep : FailsIn P step) (hnext : ∀ a, FailsIn P (next a)) : FailsIn P (step >>= next) := by
  intro e he
  rcases sequence_error_iff.1 he with he | ⟨a, -, he⟩
  · exact hstep e he
  · exact hnext a e he

theorem map {step : Except CatalogError α} (hstep : FailsIn P step) (g : α → β) :
    FailsIn P (step.map g) := by
  intro e he
  cases step with
  | error e' =>
    cases he
    exact hstep _ rfl
  | ok a => cases he

end FailsIn

theorem loadFrom_failsIn {load : Nat → Json → Except CatalogError α}
    (h : ∀ j v, FailsIn P (load j v)) :
    ∀ {vs : List Json} {i : Nat}, FailsIn P (loadFrom load i vs)
  | [], _ => .ok _
  | _ :: _, _ => (h _ _).bind fun _ => (loadFrom_failsIn h).bind fun _ => .ok _

variable {place : Place} (hplace : P place)
include hplace

theorem expect_failsIn {key : String} {e : Expected α} {v : Json} :
    FailsIn P (expect place key e v) := by
  unfold expect
  split
  · exact .ok _
  · exact .malformed hplace _

theorem required_failsIn {members : List (String × Json)} {key : String} {e : Expected α} :
    FailsIn P (required place members key e) := by
  unfold required
  split
  · exact expect_failsIn hplace
  · exact .malformed hplace _

theorem optional_failsIn {members : List (String × Json)} {key : String} {e : Expected α}
    {default : α} : FailsIn P (optional place members key e default) := by
  unfold optional
  split
  · exact expect_failsIn hplace
  · exact .ok _

theorem membersOf_failsIn {v : Json} : FailsIn P (membersOf place v) := by
  cases v with
  | obj members => exact .ok _
  | _ => exact .malformed hplace _

theorem textItems_failsIn {key : String} :
    ∀ {items : List Json}, FailsIn P (textItems place key items)
  | [] => .ok _
  | .str _ :: _ => (textItems_failsIn).map _
  | .null :: _ | .bool _ :: _ | .int _ :: _ | .float _ :: _ | .arr _ :: _ | .obj _ :: _ =>
    .malformed hplace _

theorem pathItems_failsIn {key : String} {p : String ⊕ List Json} :
    FailsIn P (pathItems place key p) := by
  cases p with
  | inl s => exact .ok _
  | inr items => exact textItems_failsIn hplace

theorem makeShape_failsIn {segments : List String} {name : String} {columns : List Column} :
    FailsIn P (makeShape place segments name columns) := by
  unfold makeShape
  split
  · exact .malformed hplace _
  · split
    · intro e he
      obtain ⟨fault, -, rfl⟩ := mapError_error_iff.1 he
      exact ⟨place, _, hplace, rfl⟩
    · exact .malformed hplace _

end

theorem loadColumn_failsIn (list : Section) (i j : Nat) (v : Json) :
    FailsIn (Place.IsIn list i) (loadColumn list i j v) := by
  have hplace : (Place.column list i j).IsIn list i := ⟨rfl, rfl⟩
  refine (membersOf_failsIn hplace).bind fun members => ?_
  refine (required_failsIn hplace).bind fun name => ?_
  refine (required_failsIn hplace).bind fun type => ?_
  refine (optional_failsIn hplace).bind fun nullable => ?_
  split
  · exact .ok _
  · exact .malformed hplace _

theorem loadColumns_failsIn {list : Section} {i : Nat} {members : List (String × Json)} :
    FailsIn (Place.IsIn list i) (loadColumns list i members) := by
  have hplace : (Place.entry list i).IsIn list i := ⟨rfl, rfl⟩
  exact (required_failsIn hplace).bind fun _ => loadFrom_failsIn (loadColumn_failsIn list i)

/-- The loader of the entries of a list. -/
def entryLoader (package : List String) : Section → Nat → Json → Except CatalogError RowShape
  | .tables => loadTable package
  | .statements => loadStatement package
  | .rowShapes => loadRowShape

/-- The loader of an entry complains about places in this entry only. -/
theorem entryLoader_failsIn (package : List String) (list : Section) (i : Nat) (v : Json) :
    FailsIn (Place.IsIn list i) (entryLoader package list i v) := by
  have hplace : (Place.entry list i).IsIn list i := ⟨rfl, rfl⟩
  cases list with
  | tables =>
    refine (membersOf_failsIn hplace).bind fun members => ?_
    refine (required_failsIn hplace).bind fun name => ?_
    refine (optional_failsIn hplace).bind fun schema => ?_
    refine loadColumns_failsIn.bind fun columns => ?_
    exact makeShape_failsIn hplace
  | statements =>
    refine (membersOf_failsIn hplace).bind fun members => ?_
    refine (required_failsIn hplace).bind fun name => ?_
    refine (required_failsIn hplace).bind fun file => ?_
    refine loadColumns_failsIn.bind fun columns => ?_
    exact makeShape_failsIn hplace
  | rowShapes =>
    refine (membersOf_failsIn hplace).bind fun members => ?_
    refine (required_failsIn hplace).bind fun path => ?_
    refine (required_failsIn hplace).bind fun name => ?_
    refine (pathItems_failsIn hplace).bind fun segments => ?_
    refine loadColumns_failsIn.bind fun columns => ?_
    exact makeShape_failsIn hplace

theorem loadPackage_failsIn {P : Place → Prop} (hwhole : P .whole)
    {members : List (String × Json)} : FailsIn P (loadPackage members) := by
  refine (optional_failsIn hwhole).bind fun package => ?_
  split
  · exact .ok _
  · exact .ok _
  · exact pathItems_failsIn hwhole

/-! ## Entries -/

/-- Entries are loaded up to the first that fails; those behind it are not looked at. -/
theorem loadFrom_error_iff {α : Type} {load : Nat → Json → Except CatalogError α} {vs : List Json}
    {i : Nat} {e : CatalogError} :
    loadFrom load i vs = .error e ↔
      ∃ before v after, vs = before ++ v :: after ∧ (∃ as, loadFrom load i before = .ok as) ∧
        load (i + before.length) v = .error e := by
  induction vs generalizing i with
  | nil => simp [loadFrom]
  | cons w vs ih =>
    have hindex : ∀ before : List Json, i + (w :: before).length = i + 1 + before.length := by
      intro before
      rw [List.length_cons]
      omega
    simp only [loadFrom, sequence_error_iff, ih]
    constructor
    · rintro (hw | ⟨a, ha, ⟨before, v, after, rfl, ⟨as, has⟩, hv⟩ | ⟨_, _, h⟩⟩)
      · exact ⟨[], w, vs, rfl, ⟨[], rfl⟩, hw⟩
      · refine ⟨w :: before, v, after, rfl, ⟨a :: as, ?_⟩, by rwa [hindex]⟩
        simp only [loadFrom, sequence_ok_iff, pure_ok_iff]
        exact ⟨a, ha, as, has, rfl⟩
      · cases h
    · rintro ⟨before, v, after, hvs, ⟨as, has⟩, hv⟩
      cases before with
      | nil =>
        obtain ⟨rfl, -⟩ := List.cons.inj hvs
        exact .inl hv
      | cons b before =>
        obtain ⟨rfl, rfl⟩ := List.cons.inj hvs
        simp only [loadFrom, sequence_ok_iff, pure_ok_iff] at has
        obtain ⟨a, ha, as', has', -⟩ := has
        rw [hindex] at hv
        exact .inr ⟨a, ha, .inl ⟨before, v, after, rfl, ⟨as', has'⟩, hv⟩⟩

/-! ## Lists -/

section
variable {members members' : List (String × Json)} {list : Section}

theorem loadSection_error_cases {load : Nat → Json → Except CatalogError RowShape}
    {e : CatalogError} (h : loadSection members list load = .error e) :
    (∃ fault, e = .malformed .whole fault) ∨
      ∃ items, Json.member? members list.word = some (.arr items) ∧
        loadFrom load 0 items = .error e := by
  rcases sequence_error_iff.1 h with h | ⟨items, hitems, h⟩
  · obtain ⟨place, fault, rfl, he⟩ := optional_failsIn (P := (· = .whole)) rfl e h
    exact .inl ⟨fault, he⟩
  · rcases optionalList_ok_iff.1 hitems with hlist | ⟨-, rfl⟩
    · exact .inr ⟨items, hlist, h⟩
    · cases h

theorem loadSection_of_list {items : List Json}
    (h : Json.member? members list.word = some (.arr items))
    (load : Nat → Json → Except CatalogError RowShape) :
    loadSection members list load = loadFrom load 0 items := by
  rw [loadSection, optionalList_ok_iff.2 (.inl h)]
  rfl

theorem loadSection_of_absent (h : Json.member? members list.word = none)
    (load : Nat → Json → Except CatalogError RowShape) :
    loadSection members list load = .ok [] := by
  rw [loadSection, optionalList_ok_iff.2 (.inr ⟨h, rfl⟩)]
  rfl

theorem loadSection_congr
    (h : Json.member? members' list.word = Json.member? members list.word)
    (load : Nat → Json → Except CatalogError RowShape) :
    loadSection members' list load = loadSection members list load := by
  rw [loadSection, loadSection, optional, optional, h]

theorem loadPackage_congr
    (h : Json.member? members' "package" = Json.member? members "package") :
    loadPackage members' = loadPackage members := by
  rw [loadPackage, loadPackage, optional, optional, h]

/-! ## Documents -/

/-- All entries of a list of a catalog are loaded. -/
def Loads (members : List (String × Json)) (package : List String) (list : Section) : Prop :=
  ∃ shapes, loadSection members list (entryLoader package list) = .ok shapes

theorem load_obj_ok {package : List String} (hpackage : loadPackage members = .ok package)
    (h : ∀ list, Loads members package list) : ∃ shapes, load (.obj members) = .ok shapes := by
  obtain ⟨tables, htables⟩ := h .tables
  obtain ⟨statements, hstatements⟩ := h .statements
  obtain ⟨rowShapes, hrowShapes⟩ := h .rowShapes
  refine ⟨tables ++ statements ++ rowShapes, ?_⟩
  simp only [load, sequence_ok_iff, pure_ok_iff]
  exact ⟨package, hpackage, tables, htables, statements, hstatements, rowShapes, hrowShapes, rfl⟩

/-- The lists of a catalog are loaded up to the first that fails. -/
theorem load_obj_error_iff {e : CatalogError} :
    load (.obj members) = .error e ↔
      loadPackage members = .error e ∨
        ∃ package list, loadPackage members = .ok package ∧
          (∀ l, list ∈ l.later → Loads members package l) ∧
          loadSection members list (entryLoader package list) = .error e := by
  simp only [load, sequence_error_iff]
  constructor
  · rintro (h | ⟨package, hpackage, h⟩)
    · exact .inl h
    refine .inr ⟨package, ?_⟩
    rcases h with h | ⟨tables, htables, h | ⟨statements, hstatements, h | ⟨_, _, h⟩⟩⟩
    · refine ⟨.tables, hpackage, fun l hl => ?_, h⟩
      cases l <;> simp [Section.later] at hl
    · refine ⟨.statements, hpackage, fun l hl => ?_, h⟩
      cases l <;> simp [Section.later] at hl
      exact ⟨tables, htables⟩
    · refine ⟨.rowShapes, hpackage, fun l hl => ?_, h⟩
      cases l <;> simp [Section.later] at hl
      · exact ⟨tables, htables⟩
      · exact ⟨statements, hstatements⟩
    · cases h
  · rintro (h | ⟨package, list, hpackage, hearlier, h⟩)
    · exact .inl h
    refine .inr ⟨package, hpackage, ?_⟩
    cases list with
    | tables => exact .inl h
    | statements =>
      obtain ⟨tables, htables⟩ := hearlier .tables (by decide)
      exact .inr ⟨tables, htables, .inl h⟩
    | rowShapes =>
      obtain ⟨tables, htables⟩ := hearlier .tables (by decide)
      obtain ⟨statements, hstatements⟩ := hearlier .statements (by decide)
      exact .inr ⟨tables, htables, .inr ⟨statements, hstatements, .inl h⟩⟩

/-- The entry that a message begins with is the first that fails. -/
theorem load_error_entry {i : Nat} {error : CatalogError}
    (h : load (.obj members) = .error error)
    (hmessage : (list.entryText i).toList <+: error.message.toList) :
    ∃ package before v after, loadPackage members = .ok package ∧
      (∀ l, list ∈ l.later → Loads members package l) ∧
      Json.member? members list.word = some (.arr (before ++ v :: after)) ∧ before.length = i ∧
      (∃ shapes, loadFrom (entryLoader package list) 0 before = .ok shapes) ∧
      entryLoader package list i v = .error error := by
  have hwhole : ∀ fault, error ≠ .malformed .whole fault := by
    rintro fault rfl
    rw [CatalogError.toList_message] at hmessage
    exact Place.not_prefix_whole hmessage
  rcases load_obj_error_iff.1 h with h | ⟨package, l, hpackage, hearlier, h⟩
  · obtain ⟨place, fault, rfl, he⟩ := loadPackage_failsIn (P := (· = .whole)) rfl error h
    exact absurd he (hwhole fault)
  · rcases loadSection_error_cases h with ⟨fault, he⟩ | ⟨items, hitems, h⟩
    · exact absurd he (hwhole fault)
    · obtain ⟨before, v, after, rfl, hbefore, hv⟩ := loadFrom_error_iff.1 h
      rw [Nat.zero_add] at hv
      obtain ⟨place, fault, hplace, rfl⟩ := entryLoader_failsIn package l _ v _ hv
      rw [CatalogError.toList_message] at hmessage
      obtain ⟨rfl, rfl⟩ := Place.text_prefix hplace hmessage
      exact ⟨package, before, v, after, hpackage, hearlier, hitems, rfl, hbefore, hv⟩

end

/-! ## Documents that begin alike -/

/-- Two catalogs have the same members but for a list and those after it. -/
def AgreeBefore (list : Section) (members members' : List (String × Json)) : Prop :=
  ∀ key, key ≠ list.word → (∀ l ∈ list.later, key ≠ l.word) →
    Json.member? members' key = Json.member? members key

namespace AgreeBefore

variable {list : Section} {members members' : List (String × Json)}
  (h : AgreeBefore list members members')
include h

theorem loadPackage_eq : loadPackage members' = loadPackage members := by
  refine loadPackage_congr (h _ ?_ ?_) <;> cases list <;> decide

theorem loads {package : List String} {l : Section} (hl : list ∈ l.later)
    (hloads : Loads members package l) : Loads members' package l := by
  have hword : Json.member? members' l.word = Json.member? members l.word := by
    refine h _ ?_ ?_ <;> revert hl <;> cases list <;> cases l <;> decide
  rwa [Loads, loadSection_congr hword]

end AgreeBefore

/-- **A complaint names the first entry that fails.** If the message of a complaint begins with an
entry, the catalog without this entry and all that comes after it is loaded; and with any values in
the place of what comes after it, the complaint is the same. -/
theorem load_error_first_entry {members : List (String × Json)} {list : Section} {i : Nat}
    {error : CatalogError} (h : load (.obj members) = .error error)
    (hmessage : (list.entryText i).toList <+: error.message.toList) :
    ∃ items, Json.member? members list.word = some (.arr items) ∧ i < items.length ∧
      (∀ members', AgreeBefore list members members' →
        Json.member? members' list.word = some (.arr (items.take i)) →
        (∀ l ∈ list.later, Json.member? members' l.word = none) →
        ∃ shapes, load (.obj members') = .ok shapes) ∧
      ∀ members' more, AgreeBefore list members members' →
        Json.member? members' list.word = some (.arr (items.take (i + 1) ++ more)) →
        load (.obj members') = .error error := by
  obtain ⟨package, before, v, after, hpackage, hearlier, hitems, rfl, hbefore, hv⟩ :=
    load_error_entry h hmessage
  refine ⟨before ++ v :: after, hitems, by simp, fun members' hagree hlist hlater => ?_,
    fun members' more hagree hlist => ?_⟩
  · rw [List.take_left] at hlist
    refine load_obj_ok (hagree.loadPackage_eq.trans hpackage) fun l => ?_
    rcases Section.later_or_eq_or_later list l with hl | rfl | hl
    · exact hagree.loads hl (hearlier l hl)
    · rwa [Loads, loadSection_of_list hlist]
    · exact ⟨[], loadSection_of_absent (hlater l hl) _⟩
  · rw [List.take_length_add_append, List.append_assoc] at hlist
    refine load_obj_error_iff.2 (.inr ⟨package, list, hagree.loadPackage_eq.trans hpackage,
      fun l hl => hagree.loads hl (hearlier l hl), ?_⟩)
    rw [loadSection_of_list hlist]
    exact loadFrom_error_iff.2 ⟨before, v, more, rfl, hbefore, by rwa [Nat.zero_add]⟩

/-- A statement with one column of a given name. -/
def statementOf (column : String) : Json :=
  .obj [("name", .str "find"), ("file", .str "a/b.sql"),
    ("columns", .arr [.obj [("name", .str column), ("type", .str "int")]])]

/-- A catalog whose second statement has a column without a name, with faults behind it. -/
def unnamedMembers : List (String × Json) :=
  [("row_shapes", .int 7), ("tables", .arr []),
    ("statements", .arr [statementOf "id", statementOf "", .null])]

/-- The catalog up to the second statement. -/
def beforeUnnamed : List (String × Json) :=
  [("tables", .arr []), ("statements", .arr [statementOf "id"])]

/-- The catalog with other values behind the second statement. -/
def afterUnnamed : List (String × Json) :=
  [("tables", .arr []), ("row_shapes", .null),
    ("statements", .arr [statementOf "id", statementOf "", .int 1, .int 2])]

theorem load_error_first_entry_unnamed :
    let error := CatalogError.malformed (.column .statements 1 0) .unnamedColumn
    load (.obj unnamedMembers) = .error error ∧
      (Section.statements.entryText 1).toList <+: error.message.toList ∧
      (∃ shapes, load (.obj beforeUnnamed) = .ok shapes) ∧
      load (.obj afterUnnamed) = .error error := by
  intro error
  have h : load (.obj unnamedMembers) = .error error := rfl
  have hmessage : (Section.statements.entryText 1).toList <+: error.message.toList := by
    decide +kernel
  obtain ⟨items, hitems, -, hbefore, hafter⟩ := load_error_first_entry h hmessage
  obtain rfl : items = [statementOf "id", statementOf "", .null] :=
    (Json.arr.inj (Option.some.inj hitems)).symm
  have hagree : AgreeBefore .statements unnamedMembers beforeUnnamed ∧
      AgreeBefore .statements unnamedMembers afterUnnamed := by
    refine ⟨fun key hkey hlater => ?_, fun key hkey hlater => ?_⟩ <;>
    · have hstatements : "statements" ≠ key := Ne.symm hkey
      have hrowShapes : "row_shapes" ≠ key := Ne.symm (hlater .rowShapes (by decide))
      simp [unnamedMembers, beforeUnnamed, afterUnnamed, Json.member?_cons, hstatements, hrowShapes]
  exact ⟨h, hmessage, hbefore _ hagree.1 rfl (by decide),
    hafter _ [.int 1, .int 2] hagree.2 rfl⟩

end Catalog

end RowDecl
