import RowDecl.Catalog.Load
import RowDecl.Declaration.Braces
import RowDecl.Declaration.Document
import RowDecl.Store.Write

/-! # The workbench

A workbench keeps settings, row shapes and the tools made from them between steps. A tool refers to
the settings it was made with, so that a later change of these settings reaches it, while new
settings do not; the type map of a tool is fixed when it is made. -/

namespace RowDecl

/-- A type map with the settings that blocks are laid out by; none stands for the defaults. -/
structure Emitter where
  settings : Option Nat
  types : TypeMap

/-- An emitter for row shapes of its own. -/
structure Generator where
  emitter : Emitter
  shapes : List RowShape

structure Workbench where
  cwd : Address
  store : Store
  cells : List Settings
  current : Option Nat
  types : Option TypeMap
  emitter : Option Emitter
  generator : Option Generator
  shapes : List RowShape

inductive Step
  | config (source : SettingsSource)
  | set (key : String) (v : Json)
  | showConfig
  | override (tag : String) (token : Json)
  | shape (columnsFirst : Bool) (path name : Json) (columns : List Json)
  | catalog (data : Json)
  | drop (index : Nat)
  | reverse
  | types
  | emitter (withTypes : Bool)
  | generator
  | token (tag column shape : Json)
  | supports (tag : Json)
  | fields (index : Nat)
  | emit
  | render
  | block (index fieldsOf : Nat)
  | generate
  | write (path : String)

/-- What a step answers. -/
inductive Reply
  | absent
  | nothing
  | value (v : Json)
  | listing (result : Except Error Json)
  | shape (s : RowShape)
  | count (n : Nat)
  | truth (b : Bool)
  | texts (ts : List String)
  | text (t : String)
  | fields (fs : List Field)
  | written (before after : Store) (result : Except Error Unit)

namespace Workbench

/-- A workbench with nothing on it. -/
def fresh (cwd : Address) (store : Store) : Workbench :=
  ⟨cwd, store, [], none, none, none, none, []⟩

/-- The settings that are referred to. -/
def settingsAt (w : Workbench) (cell : Option Nat) : Settings :=
  (cell.bind (w.cells[·]?)).getD .default

/-- The current settings. -/
def settings (w : Workbench) : Settings := w.settingsAt w.current

/-- Puts checked settings on the workbench, or takes the current ones off. -/
def putSettings (w : Workbench) : Option Settings → Workbench
  | some s => { w with cells := w.cells ++ [s], current := some w.cells.length }
  | none => { w with current := none }

/-- Changes the current settings in place. -/
def changeSettings (w : Workbench) (cell : Nat) (s : Settings) : Workbench :=
  { w with cells := w.cells.set cell s }

/-- The answer of a step that leaves the workbench as it is. -/
def answer (w : Workbench) (r : Reply) : Except Error (Workbench × Reply) := .ok (w, r)

/-- The document of a generator. -/
def document (w : Workbench) (g : Generator) : Except Error String :=
  RowDecl.generate (w.settingsAt g.emitter.settings) g.emitter.types g.shapes commandName

/-- Carries a step out. -/
def step (w : Workbench) : Step → Except Error (Workbench × Reply)
  | .config source => do
    match ← source.load with
    | none => return (w.putSettings none, .value .null)
    | some s => return (w.putSettings (some s), .listing s.toJson)
  | .set key v =>
    match w.current with
    | none => w.answer .absent
    | some cell => do
      return (w.changeSettings cell (← w.settings.assignNamed key v), .nothing)
  | .showConfig =>
    match w.current with
    | none => w.answer .absent
    | some _ => w.answer (.listing w.settings.toJson)
  | .override tag token =>
    match w.current with
    | none => w.answer .absent
    | some cell => do
      return (w.changeSettings cell (← w.settings.putOverride tag token), .nothing)
  | .shape columnsFirst path name columns => do
    let s ← if columnsFirst then RowShape.ofColumns path name columns
      else RowShape.create path name columns
    return ({ w with shapes := w.shapes ++ [s] }, .shape s)
  | .catalog data => do
    let more ← (Catalog.load data).mapError .catalog
    let shapes := w.shapes ++ more
    return ({ w with shapes := shapes }, .count shapes.length)
  | .drop index =>
    match w.shapes[index]? with
    | none => w.answer .absent
    | some s => .ok ({ w with shapes := w.shapes.eraseIdx index }, .shape s)
  | .reverse =>
    let shapes := w.shapes.reverse
    .ok ({ w with shapes := shapes }, .texts (shapes.map (·.qualifiedName)))
  | .types => do
    let m ← TypeMap.ofSettings w.settings
    return ({ w with types := some m }, .count m.size)
  | .emitter withTypes => do
    let m ← match withTypes, w.types with
      | true, some m => pure m
      | _, _ => TypeMap.ofSettings w.settings
    return ({ w with emitter := some ⟨w.current, m⟩ }, .nothing)
  | .generator => do
    let m ← TypeMap.ofSettings w.settings
    return ({ w with generator := some ⟨⟨w.current, m⟩, w.shapes⟩ }, .count w.shapes.length)
  | .token tag column shape =>
    match w.types with
    | none => w.answer .absent
    | some m => do w.answer (.value (← m.token tag column shape))
  | .supports tag =>
    match w.types with
    | none => w.answer .absent
    | some m => do w.answer (.truth (← m.supports tag))
  | .fields index =>
    match w.types, w.shapes[index]? with
    | some m, some s => do w.answer (.fields (← Field.ofShape m s))
    | _, _ => w.answer .absent
  | .emit =>
    match w.emitter with
    | none => w.answer .absent
    | some e => do
      w.answer (.texts (← RowDecl.emit (w.settingsAt e.settings) e.types w.shapes))
  | .render =>
    match w.emitter with
    | none => w.answer .absent
    | some e => do
      w.answer (.text (← RowDecl.render (w.settingsAt e.settings) e.types w.shapes))
  | .block index fieldsOf =>
    match w.emitter, w.shapes[index]?, w.shapes[fieldsOf]? with
    | some e, some s, some t => do
      let fields ← Field.ofShape e.types t
      let block ← Block.ofShape (w.settingsAt e.settings) s fields
      w.answer (.text block.text)
    | _, _, _ => w.answer .absent
  | .generate =>
    match w.generator with
    | none => w.answer .absent
    | some g => do w.answer (.text (← w.document g))
  | .write path =>
    match w.generator with
    | none => w.answer .absent
    | some g => do
      let content ← w.document g
      let (after, result) := w.store.write w.cwd (Route.parse path) content checkBraces
      return ({ w with store := after }, .written w.store after result)

/-- The workbench after a step, with the answer. A step that fails changes nothing. -/
def advance (w : Workbench) (st : Step) : Workbench × Except Error Reply :=
  match w.step st with
  | .ok (after, reply) => (after, .ok reply)
  | .error e => (w, .error e)

/-- The workbench after a list of steps, with their answers. -/
def session (w : Workbench) : List Step → Workbench × List (Except Error Reply)
  | [] => (w, [])
  | st :: r =>
    let (next, answer) := w.advance st
    let (last, answers) := next.session r
    (last, answer :: answers)

end Workbench

end RowDecl
