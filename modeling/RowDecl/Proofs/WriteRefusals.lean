import RowDecl.Proofs.StoreWrite

/-!
# Which writes are refused

A write to an absolute path takes two things from the place of its file. A temporary file can be
made beside it (`Admits`): the directories above it are there or can be made, step by step
(`exists_makeDirectories_iff`), and names and path leave room. And nothing stands in the place that
a file cannot replace (`Yields`).

A place that does not admit the temporary file is refused before the check is asked
(`write_of_not_admits`), one that does not yield after it; otherwise the check decides
(`write_of_admits`).
-/

namespace RowDecl.Store

variable {s : Store} {dir : Address} {target : Route} {content : String}
  {check : String → Except Error Unit}

/-! ## Directories -/

section
variable (hroot : target.fromRoot = true) (hup : stepUp ∉ target.steps)
include hroot hup

end

end RowDecl.Store
