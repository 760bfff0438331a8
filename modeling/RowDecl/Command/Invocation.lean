import RowDecl.Command.Arguments
import RowDecl.Declaration.Document
import RowDecl.Store.Basic

/-! # Invocations

An invocation is what the arguments ask for, every path resolved to an address. The last value of an
option counts. Options are looked at in the order in which they first appear, then the catalog, then
the output; but whoever asks for help gets it, whatever else is asked for. -/

namespace RowDecl.Command

structure Invocation where
  config : Option Address
  nullablePolicy : Option NullablePolicy
  exportNamespaces : Bool
  generationComment : Bool
  verbose : Bool
  catalog : Address
  output : Address
  deriving DecidableEq, Repr

/-- Why arguments are no invocation: they ask for help, they are not used as they should be, or a
path is none that any file system takes. -/
inductive Refusal
  | help
  | usage
  | error (e : Error)
  deriving DecidableEq, Repr

/-- The address that a path leads to. -/
def resolve (cwd : Address) (path : String) : Except Refusal Address :=
  let r := Route.parse path
  if r.hasNul then .error (.error (.badValue .nulByte)) else .ok (r.resolve cwd)

/-- The address that a path leads to, where something has to be that may be read. -/
def resolveExisting (s : Store) (cwd : Address) (path : String) : Except Refusal Address := do
  let a ← resolve cwd path
  if (s.node? a).isSome && s.isReadable a then return a else throw .usage

/-- The address that a path leads to, where what is there may be read. -/
def resolveOutput (s : Store) (cwd : Address) (path : String) : Except Refusal Address := do
  let a ← resolve cwd path
  if (s.node? a).isSome && !s.isReadable a then throw .usage else return a

/-- Takes an option with its value into an invocation. -/
def Invocation.take (s : Store) (cwd : Address) (inv : Invocation) (g : Given) :
    Except Refusal Invocation :=
  match g.1 with
  | .config => do return { inv with config := some (← resolveExisting s cwd g.2) }
  | .nullablePolicy =>
    match NullablePolicy.ofWord? g.2 with
    | some p => .ok { inv with nullablePolicy := some p }
    | none => .error .usage
  | .exportNamespaces => .ok { inv with exportNamespaces := true }
  | .generationComment => .ok { inv with generationComment := true }
  | .verbose => .ok { inv with verbose := true }
  | .help => .error .help

/-- Each option once, in the order of first appearance, with its last value. -/
def lastValues (given : List Given) : List Given :=
  (given.map (·.1)).eraseDups.filterMap fun o => given.findRev? (·.1 = o)

/-- What the arguments ask for. -/
def Invocation.ofArguments (s : Store) (cwd : Address) (args : List String) :
    Except Refusal Invocation :=
  match Arguments.read? args with
  | none => .error .usage
  | some a =>
    if a.has .help then .error .help
    else do
      let bare : Invocation := ⟨none, none, false, false, false, [], []⟩
      let inv ← (lastValues a.given).foldlM (Invocation.take s cwd) bare
      match a.paths with
      | [] => throw .usage
      | catalog :: more =>
        let catalog ← resolveExisting s cwd catalog
        match more with
        | [] => throw .usage
        | output :: more =>
          let output ← resolveOutput s cwd output
          if more = [] then return { inv with catalog := catalog, output := output }
          else throw .usage

/-! ## The command line -/

/-- The last name of an address; empty for the root. -/
def nameOf (a : Address) : String := a.getLast?.getD ""

/-- The command line as the comment tells it: paths by their last names, options in a fixed order,
and nothing that has no effect on the document. -/
def Invocation.commandLine (inv : Invocation) : String :=
  String.intercalate " "
    ([commandName, nameOf inv.catalog, nameOf inv.output]
      ++ (inv.config.elim [] fun a => [OptionName.config.word, nameOf a])
      ++ (inv.nullablePolicy.elim [] fun p => [OptionName.nullablePolicy.word, p.word])
      ++ (if inv.exportNamespaces then [OptionName.exportNamespaces.word] else [])
      ++ (if inv.generationComment then [OptionName.generationComment.word] else []))

end RowDecl.Command
