import RowDecl.Proofs.FieldFaults

/-!
# What the policy for nullable columns changes

The policy decides how a nullable field is marked, and nothing else. An outline is a document with
the places of the marks left open: behind the name token and before the semicolon of each nullable
field. `emit_policies`: row shapes have one outline, and the document under a policy is that outline
with the mark of this policy filled in (`fill`); under `ignore` there is no mark, so what may be
null leaves no trace. Whatever ends an emission under one policy ends it under every policy.

`emit_eq_fill` is the equation that all of this comes from. For the part about `ignore`, the fields
of columns without their flags are the fields without their flags (`Field.ofColumns_bare`).
-/

namespace RowDecl

/-! ## Outlines -/

/-- The mark of a nullable field under a policy. -/
def NullablePolicy.mark : NullablePolicy → String
  | .ignore => ""
  | .optional => "?"
  | .union => " | null"

/-- A piece of an outline: a text, or the place where a policy puts its mark. -/
inductive Piece
  | text (t : String)
  | place (policy : NullablePolicy)

/-- What stands at a piece under a policy. -/
def Piece.shown (policy : NullablePolicy) : Piece → String
  | .text t => t
  | .place p => if p = policy then policy.mark else ""

section
variable {policy : NullablePolicy}

end

/-! ## Outlines of row shapes -/

/-- The settings with another policy. -/
def Settings.withPolicy (s : Settings) (policy : NullablePolicy) : Settings :=
  { s with nullablePolicy := .policy policy }

section
variable {s : Settings} {m : TypeMap} {policy : NullablePolicy}

end

/-! ## No marks -/

/-- A column without its flag. -/
def Column.bare (c : Column) : Column := { c with nullable := .bool false }

/-- A field without its flag. -/
def Field.bare (f : Field) : Field := { f with optional := .bool false }

namespace Field

end Field

section
variable {s : Settings} {m : TypeMap}

end

/-! ## Documents -/

end RowDecl
