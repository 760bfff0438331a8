import RowDecl.Field

/-! # Properties

A property is a field as one line of a declaration shows it: a name token, a marker and a type
token. A name that is no identifier is put between double quotes, with a backslash before each
quote and each backslash in it; `unescape_escape` says that nothing is lost. -/

namespace RowDecl

/-! ## Quoted names -/

/-- A character inside a quoted name. -/
def escapeChar (c : Char) : List Char := if c = '"' ∨ c = '\\' then ['\\', c] else [c]

/-- The inside of a quoted name. -/
def escape (s : List Char) : List Char := s.flatMap escapeChar

/-- The name whose quoted form has such an inside, if there is one. -/
def unescape? : List Char → Option (List Char)
  | [] => some []
  | '\\' :: c :: r => if c = '"' ∨ c = '\\' then (unescape? r).map (c :: ·) else none
  | c :: r => if c = '"' ∨ c = '\\' then none else (unescape? r).map (c :: ·)

theorem unescape_escape (s : List Char) : unescape? (escape s) = some s := by
  induction s with
  | nil => rfl
  | cons c r ih =>
    by_cases h : c = '"' ∨ c = '\\'
    · simp [escape, escapeChar, h, unescape?]
      simpa [escape] using ih
    · have hb : c ≠ '\\' := fun e => h (.inr e)
      simp only [escape, List.flatMap_cons, escapeChar, if_neg h, List.singleton_append]
      rw [unescape?.eq_3 _ _ (by rintro _ _ rfl; exact absurd rfl hb), if_neg h]
      simpa [escape] using ih

/-- A name between double quotes. -/
def quotedName (s : List Char) : List Char := '"' :: (escape s ++ ['"'])

/-- A name as it stands in a declaration: an identifier as it is, another between quotes. -/
def nameToken (name : String) : String :=
  if Name.isIdentifier name.toList then name else String.ofList (quotedName name.toList)

/-! ## Properties -/

structure Property where
  name : String
  marker : String
  type : String
  deriving DecidableEq, Repr

/-- The property of a field under a policy. -/
def Property.ofField (policy : NullablePolicy) (f : Field) : Property :=
  let name := nameToken f.name.text
  let type := f.fieldType.text
  if f.optional.truthy then
    match policy with
    | .ignore => ⟨name, "", type⟩
    | .optional => ⟨name, "?", type⟩
    | .union => ⟨name, "", type ++ " | null"⟩
  else ⟨name, "", type⟩

/-- The text of a property without its line. -/
def Property.text (p : Property) : String := p.name ++ p.marker ++ ": " ++ p.type ++ ";"

end RowDecl
