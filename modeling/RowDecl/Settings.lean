import RowDecl.Error

/-! # Settings

The six settings of a run. Only the policy for nullable columns has a type of its own; the other
values are kept as they are given and used as they are. `ofJson` overlays the defaults with the
members of an object, `toJson` gives all six back. The listing that `toJson` gives has a name too,
and a value that is given to that name takes its place. Three more names reach what holds the
settings (`Internal`): the table of their values can be replaced, the other two cannot be given a
value. -/

namespace RowDecl

/-- How a field of a nullable column is marked. -/
inductive NullablePolicy
  | ignore
  | optional
  | union
  deriving DecidableEq, Repr

namespace NullablePolicy

def word : NullablePolicy → String
  | .ignore => "ignore"
  | .optional => "optional"
  | .union => "union"

def ofWord? (w : String) : Option NullablePolicy :=
  [NullablePolicy.ignore, .optional, .union].find? (·.word = w)

@[simp] theorem ofWord?_word (p : NullablePolicy) : ofWord? p.word = some p := by
  cases p <;> decide

end NullablePolicy

/-- The value of the policy setting: a policy, or a value that was put there unchecked. -/
inductive PolicySetting
  | policy (p : NullablePolicy)
  | unchecked (given : Json)
  deriving DecidableEq, Repr

/-- The policy that a setting has the effect of: an unchecked word works like the policy of that
word, anything else like `ignore`. -/
def PolicySetting.effective : PolicySetting → NullablePolicy
  | .policy p => p
  | .unchecked (.str w) => (NullablePolicy.ofWord? w).getD .ignore
  | .unchecked _ => .ignore

/-- The policy that a setting names, if it names one. -/
def PolicySetting.check : PolicySetting → Except ValueFault NullablePolicy
  | .policy p => .ok p
  | .unchecked (.str w) =>
    match NullablePolicy.ofWord? w with
    | some p => .ok p
    | none => .error (.unknownPolicy (.str w))
  | .unchecked v => .error (.unknownPolicy v)

/-- The names of the settings. -/
inductive Setting
  | nullablePolicy
  | exportNamespaces
  | addGenerationComment
  | indent
  | namespaceSeparator
  | typeOverrides
  deriving DecidableEq, Repr

namespace Setting

def all : List Setting :=
  [.nullablePolicy, .exportNamespaces, .addGenerationComment, .indent, .namespaceSeparator,
    .typeOverrides]

def word : Setting → String
  | .nullablePolicy => "nullable_policy"
  | .exportNamespaces => "export_namespaces"
  | .addGenerationComment => "add_generation_comment"
  | .indent => "indent"
  | .namespaceSeparator => "namespace_separator"
  | .typeOverrides => "type_overrides"

def ofWord? (w : String) : Option Setting := all.find? (·.word = w)

@[simp] theorem ofWord?_word (s : Setting) : ofWord? s.word = some s := by
  cases s <;> decide

theorem word_of_ofWord? {w : String} {s : Setting} (h : ofWord? w = some s) : s.word = w := by
  simpa using List.find?_some h

end Setting

/-- The name of the listing of all settings. -/
def listingName : String := "to_dict"

/-- What holds the settings and has a name too. -/
inductive Internal
  | table
  | kind
  | reference
  deriving DecidableEq, Repr

namespace Internal

def all : List Internal := [.table, .kind, .reference]

def word : Internal → String
  | .table => "__dict__"
  | .kind => "__class__"
  | .reference => "__weakref__"

def ofWord? (w : String) : Option Internal := all.find? (·.word = w)

end Internal

/-- The values of the settings, and the value that stands in the place of their listing, if one was
put there. -/
structure Settings where
  nullablePolicy : PolicySetting
  exportNamespaces : Json
  addGenerationComment : Json
  indent : Json
  namespaceSeparator : Json
  typeOverrides : Json
  listing : Option Json
  deriving DecidableEq, Repr

namespace Settings

/-- Plain namespaces, no comment, four spaces, points and no overrides. -/
def default : Settings where
  nullablePolicy := .policy .ignore
  exportNamespaces := .bool false
  addGenerationComment := .bool false
  indent := .str "    "
  namespaceSeparator := .str "."
  typeOverrides := .obj []
  listing := none

instance : Inhabited Settings := ⟨default⟩

/-- Gives a setting a value, unchecked. -/
def set (s : Settings) (key : Setting) (v : Json) : Settings :=
  match key with
  | .nullablePolicy => { s with nullablePolicy := .unchecked v }
  | .exportNamespaces => { s with exportNamespaces := v }
  | .addGenerationComment => { s with addGenerationComment := v }
  | .indent => { s with indent := v }
  | .namespaceSeparator => { s with namespaceSeparator := v }
  | .typeOverrides => { s with typeOverrides := v }

/-- Gives the setting or the listing of a name a value; other names are passed over. -/
def setNamed (s : Settings) (name : String) (v : Json) : Settings :=
  match Setting.ofWord? name with
  | some key => s.set key v
  | none => if name = listingName then { s with listing := some v } else s

/-- The settings with a checked policy. -/
def checkPolicy (s : Settings) : Except Error Settings := do
  let p ← s.nullablePolicy.check.mapError .badValue
  return { s with nullablePolicy := .policy p }

/-- The overrides, if they are an object. -/
def overrides? (s : Settings) : Option (List (String × Json)) :=
  match s.typeOverrides with
  | .obj members => some members
  | _ => none

/-- The default settings overlaid with the members of an object. -/
def overlayDefault (members : List (String × Json)) : Settings :=
  members.foldl (fun s m => s.setNamed m.1 m.2) default

/-- Settings while they are overlaid. The overrides alone have no default of their own: they are
gone with a table that had them, and then their name means nothing any more. -/
structure Draft where
  settings : Settings
  hasOverrides : Bool

/-- The settings that a table of values holds. -/
def Draft.ofTable (table : List (String × Json)) : Draft where
  settings := overlayDefault table
  hasOverrides := (Json.member? table Setting.typeOverrides.word).isSome

/-- Gives a name a value. -/
def Draft.assign (d : Draft) (name : String) (v : Json) : Except Misuse Draft :=
  match Internal.ofWord? name with
  | some .table =>
    match v with
    | .obj table => .ok (Draft.ofTable table)
    | v => .error (.notTable v.kind)
  | some .kind => .error (.notClass v.kind)
  | some .reference => .error (.notWritable name)
  | none =>
    if name = Setting.typeOverrides.word ∧ d.hasOverrides = false then .ok d
    else .ok { d with settings := d.settings.setNamed name v }

/-- The settings of a draft, with a policy that is checked and overrides that are an object. -/
def Draft.check (d : Draft) : Except Error Settings := do
  let s ← d.settings.checkPolicy
  if d.hasOverrides then
    match s.overrides? with
    | some _ => return s
    | none => throw (.badValue .overridesNotMapping)
  else throw (.misuse .noOverrides)

/-- The default settings overlaid with the members of an object and checked. -/
def ofMembers (members : List (String × Json)) : Except Error Settings := do
  let d ← (members.foldlM (fun d m => Draft.assign d m.1 m.2) ⟨default, true⟩).mapError .misuse
  d.check

/-- The settings that a value gives. -/
def ofJson : Json → Except Error Settings
  | .obj members => ofMembers members
  | v => .error (.misuse (.unable v.kind .items))

/-- The name of the argument that stands for the settings themselves and is always given. -/
def ownName : String := "self"

/-- Why a name cannot be given as an argument. -/
def argumentFault? (name : String) : Option Misuse :=
  if name = ownName then some (.repeatedArgument name)
  else if (Setting.ofWord? name).isNone then some (.unknownSetting name)
  else none

/-- The default settings overlaid with arguments by name, each the name of a setting. The overrides
are not checked. -/
def ofArguments (members : List (String × Json)) : Except Error Settings :=
  match members.findSome? fun m => argumentFault? m.1 with
  | some use => .error (.misuse use)
  | none => (overlayDefault members).checkPolicy

/-- The listing of all six settings by name, unless a value has its place. A policy that was never
checked has no word to show. -/
def toJson (s : Settings) : Except Error Json :=
  match s.listing, s.nullablePolicy with
  | some v, _ => .error (.misuse (.notCallable v.kind))
  | none, .unchecked v => .error (.misuse (.unable v.kind .value))
  | none, .policy p =>
    .ok (.obj [(Setting.nullablePolicy.word, .str p.word),
      (Setting.exportNamespaces.word, s.exportNamespaces),
      (Setting.addGenerationComment.word, s.addGenerationComment),
      (Setting.indent.word, s.indent),
      (Setting.namespaceSeparator.word, s.namespaceSeparator),
      (Setting.typeOverrides.word, s.typeOverrides)])

/-- Gives a name a value in settings that are in use, which are not left without overrides. -/
def assignNamed (s : Settings) (name : String) (v : Json) : Except Error Settings := do
  let d ← (Draft.assign ⟨s, true⟩ name v).mapError .misuse
  if d.hasOverrides then return d.settings else throw (.misuse .noOverrides)

/-- The settings with one more override. -/
def putOverride (s : Settings) (tag : String) (token : Json) : Except Error Settings :=
  match s.typeOverrides with
  | .obj members => .ok { s with typeOverrides := .obj (Json.put members tag token) }
  | v => .error (.misuse (.notAssignable v.kind))

end Settings

/-- Where settings come from: nowhere, a value that overlays the defaults, or arguments by name. -/
inductive SettingsSource
  | absent
  | value (v : Json)
  | arguments (members : List (String × Json))
  deriving Repr

/-- The settings of a source; none if there is no source. -/
def SettingsSource.load : SettingsSource → Except Error (Option Settings)
  | .absent => .ok none
  | .value v => (Settings.ofJson v).map some
  | .arguments members => (Settings.ofArguments members).map some

end RowDecl
