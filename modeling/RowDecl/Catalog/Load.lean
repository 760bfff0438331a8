import RowDecl.Catalog.Location
import RowDecl.RowShape

/-! # Loading a catalog

A catalog is a JSON object that lists tables, statements and row shapes. They are loaded in this
order, each list in its own; the first entry that is malformed ends the loading, and what comes
after it is not looked at. -/

namespace RowDecl.Catalog

/-! ## Members -/

/-- What the value of a member has to be: the kinds that are named in a complaint and the reading of
values of these kinds. -/
structure Expected (α : Type) where
  kinds : List Kind
  read? : Json → Option α

namespace Expected

def text : Expected String where
  kinds := [.string]
  read?
    | .str s => some s
    | _ => none

def items : Expected (List Json) where
  kinds := [.array]
  read?
    | .arr items => some items
    | _ => none

def flag : Expected Bool where
  kinds := [.boolean]
  read?
    | .bool b => some b
    | _ => none

/-- A path as a text with points or as a list. -/
def path : Expected (String ⊕ List Json) where
  kinds := [.string, .array]
  read?
    | .str s => some (.inl s)
    | .arr items => some (.inr items)
    | _ => none

/-- A path that may be null. -/
def package : Expected (Option (String ⊕ List Json)) where
  kinds := [.string, .array, .null]
  read?
    | .null => some none
    | v => (path.read? v).map some

end Expected

/-- A malformed part of a catalog. -/
def malformed {α : Type} (place : Place) (fault : CatalogFault) : Except CatalogError α :=
  .error (.malformed place fault)

/-- The reading of a value of an expected kind. -/
def expect {α : Type} (place : Place) (key : String) (e : Expected α) (v : Json) :
    Except CatalogError α :=
  match e.read? v with
  | some a => .ok a
  | none => malformed place (.wrongKind key e.kinds v.kind)

/-- A member that has to be there. -/
def required {α : Type} (place : Place) (members : List (String × Json)) (key : String)
    (e : Expected α) : Except CatalogError α :=
  match Json.member? members key with
  | some v => expect place key e v
  | none => malformed place (.missing key)

/-- A member that may be left out. -/
def optional {α : Type} (place : Place) (members : List (String × Json)) (key : String)
    (e : Expected α) (default : α) : Except CatalogError α :=
  match Json.member? members key with
  | some v => expect place key e v
  | none => .ok default

/-- The members of an entry, which has to be an object. -/
def membersOf (place : Place) : Json → Except CatalogError (List (String × Json))
  | .obj members => .ok members
  | v => malformed place (.notObject v.kind)

/-- The texts of a list that holds nothing else. -/
def textItems (place : Place) (key : String) : List Json → Except CatalogError (List String)
  | [] => .ok []
  | .str s :: r => (textItems place key r).map (s :: ·)
  | v :: _ => malformed place (.wrongItem key v.kind)

/-- The pieces of a text between its points. -/
def dotted (s : String) : List String := (Text.split ['.'] s.toList).map String.ofList

/-- The segments of a path that is given in either way. -/
def pathItems (place : Place) (key : String) :
    String ⊕ List Json → Except CatalogError (List String)
  | .inl s => .ok (dotted s)
  | .inr items => textItems place key items

/-! ## Entries -/

/-- Loads a column of an entry. -/
def loadColumn (list : Section) (i j : Nat) (v : Json) : Except CatalogError Column := do
  let place := Place.column list i j
  let members ← membersOf place v
  let name ← required place members "name" .text
  let type ← required place members "type" .text
  let nullable ← optional place members "nullable" .flag false
  match Column.make? (.str name) (.str type) (.bool nullable) with
  | some c => return c
  | none => malformed place .unnamedColumn

/-- Loads entries by index, from index `i` on, up to the first that fails. -/
def loadFrom {α : Type} (load : Nat → Json → Except CatalogError α) (i : Nat) :
    List Json → Except CatalogError (List α)
  | [] => .ok []
  | v :: r => do
    let a ← load i v
    return a :: (← loadFrom load (i + 1) r)

/-- Loads the columns of an entry. -/
def loadColumns (list : Section) (i : Nat) (members : List (String × Json)) :
    Except CatalogError (List Column) := do
  loadFrom (loadColumn list i) 0 (← required (.entry list i) members "columns" .items)

/-- The row shape of an entry, whose name has to be an identifier. -/
def makeShape (place : Place) (segments : List String) (name : String) (columns : List Column) :
    Except CatalogError RowShape := do
  match NamespacePath.ofSegments (segments.map .str) with
  | .error fault => malformed place (.badNamespace fault)
  | .ok path =>
    if Name.isIdentifier name.toList then
      (RowShape.make path (.str name) columns).mapError fun fault =>
        .malformed place (.badShape fault)
    else malformed place (.invalidName name)

def loadTable (package : List String) (i : Nat) (v : Json) : Except CatalogError RowShape := do
  let place := Place.entry .tables i
  let members ← membersOf place v
  let name ← required place members "name" .text
  let schema ← optional place members "schema" .text "public"
  let columns ← loadColumns .tables i members
  makeShape place (tableNamespace package schema) name columns

def loadStatement (package : List String) (i : Nat) (v : Json) : Except CatalogError RowShape := do
  let place := Place.entry .statements i
  let members ← membersOf place v
  let name ← required place members "name" .text
  let file ← required place members "file" .text
  let columns ← loadColumns .statements i members
  makeShape place (statementNamespace package file) (declarationName name) columns

def loadRowShape (i : Nat) (v : Json) : Except CatalogError RowShape := do
  let place := Place.entry .rowShapes i
  let members ← membersOf place v
  let path ← required place members "namespace" .path
  let name ← required place members "name" .text
  let segments ← pathItems place "namespace" path
  let columns ← loadColumns .rowShapes i members
  makeShape place segments name columns

/-! ## Catalogs -/

/-- The segments of the package; none if it is left out, null or empty. -/
def loadPackage (members : List (String × Json)) : Except CatalogError (List String) := do
  match ← optional .whole members "package" .package none with
  | none | some (.inl "") => return []
  | some path => pathItems .whole "package" path

/-- Loads the entries of a list, which may be left out. -/
def loadSection (members : List (String × Json)) (list : Section)
    (load : Nat → Json → Except CatalogError RowShape) : Except CatalogError (List RowShape) := do
  loadFrom load 0 (← optional .whole members list.word .items [])

/-- The row shapes of a catalog: tables, then statements, then row shapes, each in order. -/
def load : Json → Except CatalogError (List RowShape)
  | .obj members => do
    let package ← loadPackage members
    let tables ← loadSection members .tables (loadTable package)
    let statements ← loadSection members .statements (loadStatement package)
    let rowShapes ← loadSection members .rowShapes loadRowShape
    return tables ++ statements ++ rowShapes
  | _ => .error .notObject

/-- What a document that is not read means for a catalog file. The complaint about a faulty document
names the path; what goes beyond a bound is no fault of the catalog. -/
def readError (path : String) : Json.Failure → Error
  | .fault fault => .catalog (.unreadable path fault)
  | .overrun o => .overrun o

/-- The row shapes of a catalog file. -/
def loadFile (m : Json.Reader) (path : String) (bytes : ByteArray) :
    Except Error (List RowShape) := do
  let content ← (Text.ofBytes bytes).mapError .badEncoding
  let doc ← (Json.read m content).mapError (readError path)
  (load doc).mapError .catalog

end RowDecl.Catalog
