import RowDecl.RowShape
import RowDecl.Settings

/-! # Hosts

A host is what a run finds around it and does not decide itself: the bounds of reading and the
stack. How much of the stack a value takes to be shown depends on where this is done, so a host
says which tasks are too much. Results about runs are about every host. -/

namespace RowDecl.Command

/-- A task in which values are shown with all that is inside them. -/
inductive Task
  /-- A policy is refused, and the refusal shows what was given. -/
  | refusal (given : Json)
  /-- Settings are put into the document of row shapes. -/
  | document (settings : Settings) (shapes : List RowShape)

/-- What a run finds around it. -/
structure Host where
  reader : Json.Reader
  exhausts : Task → Bool

namespace Host

/-- A host with room for every task. -/
def standard : Host where
  reader := .standard
  exhausts _ := false

/-- The halves of surrogate pairs on a host. -/
def halves (host : Host) : Text.Halves := host.reader.halves

end Host

end RowDecl.Command
