import RowDecl.Text.Split

/-! # Routes and addresses

A route is a path as it is spelled; an address is the place of a file, the names on the way to it
from the root. A route leads to an address from a working directory, each step up undoing the step
before it. -/

namespace RowDecl

/-- The names on the way from the root. -/
abbrev Address := List String

/-- The absolute path of an address. -/
def Address.text (a : Address) : String := "/" ++ String.intercalate "/" a

/-- A path as it is spelled: whether it starts from the root, and its steps. -/
structure Route where
  fromRoot : Bool
  steps : List String
  deriving DecidableEq, Repr

/-- The step that leads up. -/
def stepUp : String := ".."

namespace Route

/-- The route of a text. Empty steps and single points vanish. -/
def parse (path : String) : Route :=
  let steps := (Text.split ['/'] path.toList).filter fun c => c ≠ [] ∧ c ≠ ['.']
  ⟨path.toList.head? = some '/', steps.map String.ofList⟩

/-- The last step; empty for a route without steps. -/
def name (r : Route) : String := r.steps.getLast?.getD ""

/-- The route without its last step. -/
def parent (r : Route) : Route := ⟨r.fromRoot, r.steps.dropLast⟩

/-- The shortest spelling of a route; a single point is that of a route without steps. -/
def text (r : Route) : String :=
  if r.fromRoot then Address.text r.steps
  else if r.steps = [] then "." else String.intercalate "/" r.steps

/-- Where a route starts from. -/
def start (r : Route) (cwd : Address) : Address := if r.fromRoot then [] else cwd

/-- An address after one more step. -/
def step (a : Address) (s : String) : Address := if s = stepUp then a.dropLast else a ++ [s]

/-- Where the route leads to from a working directory, whatever exists on the way. -/
def resolve (r : Route) (cwd : Address) : Address := r.steps.foldl step (r.start cwd)

/-- Whether a step holds the character that no file system takes. -/
def hasNul (r : Route) : Bool := r.steps.any fun s => s.toList.contains '\x00'

end Route

end RowDecl
