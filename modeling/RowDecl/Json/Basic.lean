import RowDecl.Number.Binary64

/-! # Values

The values of a JSON document. An object keeps its members in order; whole numbers and numbers with
a fraction or an exponent are apart. Cells of a row shape and settings hold such values untouched,
so their kinds, their truth and their equality are defined here. -/

namespace RowDecl

inductive Json
  | null
  | bool (b : Bool)
  | int (n : Int)
  | float (x : Binary64)
  | str (s : String)
  | arr (items : List Json)
  | obj (members : List (String × Json))
  deriving Inhabited, Repr

/-- The kinds of values that messages tell apart. -/
inductive Kind
  | object
  | array
  | string
  | integer
  | fraction
  | boolean
  | null
  deriving DecidableEq, Repr

/-- The word for a kind in messages. -/
def Kind.word : Kind → String
  | .object => "dict"
  | .array => "list"
  | .string => "str"
  | .integer => "int"
  | .fraction => "float"
  | .boolean => "bool"
  | .null => "NoneType"

namespace Json

def kind : Json → Kind
  | .null => .null
  | .bool _ => .boolean
  | .int _ => .integer
  | .float _ => .fraction
  | .str _ => .string
  | .arr _ => .array
  | .obj _ => .object

/-- Whether a value counts as true: all but null, false, zero and what is empty. -/
def truthy : Json → Bool
  | .null => false
  | .bool b => b
  | .int n => n != 0
  | .float x => !x.isZero
  | .str s => s != ""
  | .arr items => !items.isEmpty
  | .obj members => !members.isEmpty

/-- What two scalar values are compared by. -/
inductive Key
  | null
  | number (n : Int)
  | fraction (x : Binary64)
  | text (s : String)
  deriving DecidableEq, Repr

/-- The key of a scalar. Numbers are compared by value, the truth values being one and zero; an
array or an object has no key. -/
def key? : Json → Option Key
  | .null => some .null
  | .bool b => some (.number (if b then 1 else 0))
  | .int n => some (.number n)
  | .float x => some (match x.toInt? with | some n => .number n | none => .fraction x)
  | .str s => some (.text s)
  | .arr _ => none
  | .obj _ => none

/-! ## Members of an object -/

/-- The value of the first member with a name. -/
def member? (members : List (String × Json)) (name : String) : Option Json := members.lookup name

/-- Gives a member a value: a member of that name keeps its place, a new one comes last. -/
def put (members : List (String × Json)) (name : String) (value : Json) : List (String × Json) :=
  match members with
  | [] => [(name, value)]
  | (n, v) :: r => if n = name then (n, value) :: r else (n, v) :: put r name value

@[simp] theorem member?_nil (name : String) : member? [] name = none := rfl

theorem member?_cons (n : String) (v : Json) (r : List (String × Json)) (name : String) :
    member? ((n, v) :: r) name = if n = name then some v else member? r name := by
  by_cases h : n = name
  · subst h; simp [member?]
  · have hb : (name == n) = false := beq_false_of_ne fun e => h e.symm
    rw [if_neg h]
    rw [member?, List.lookup_cons, hb]
    rfl

/-- After a member is put, it is found under its name and all others as before. -/
theorem member?_put (members : List (String × Json)) (name : String) (value : Json) (k : String) :
    member? (put members name value) k = if name = k then some value else member? members k := by
  induction members with
  | nil => simp [put, member?_cons]
  | cons p r ih =>
    obtain ⟨n, v⟩ := p
    by_cases h : n = name
    · subst h
      by_cases hk : n = k <;> simp [put, member?_cons, hk]
    · by_cases hk : n = k
      · subst hk
        have : ¬name = n := fun e => h e.symm
        simp [put, member?_cons, h, this]
      · simp [put, member?_cons, h, hk, ih]

/-! ## Equality -/

mutual

/-- Two values are equal when they are built alike. -/
def decEq : (a b : Json) → Decidable (a = b)
  | .null, .null => isTrue rfl
  | .bool a, .bool b => decidable_of_iff (a = b) (by simp)
  | .int a, .int b => decidable_of_iff (a = b) (by simp)
  | .float a, .float b => decidable_of_iff (a = b) (by simp)
  | .str a, .str b => decidable_of_iff (a = b) (by simp)
  | .arr a, .arr b =>
    match decEqItems a b with
    | isTrue h => isTrue (by rw [h])
    | isFalse h => isFalse (by simpa using h)
  | .obj a, .obj b =>
    match decEqMembers a b with
    | isTrue h => isTrue (by rw [h])
    | isFalse h => isFalse (by simpa using h)
  | .null, .bool _ | .null, .int _ | .null, .float _ | .null, .str _ | .null, .arr _
  | .null, .obj _ | .bool _, .null | .bool _, .int _ | .bool _, .float _ | .bool _, .str _
  | .bool _, .arr _ | .bool _, .obj _ | .int _, .null | .int _, .bool _ | .int _, .float _
  | .int _, .str _ | .int _, .arr _ | .int _, .obj _ | .float _, .null | .float _, .bool _
  | .float _, .int _ | .float _, .str _ | .float _, .arr _ | .float _, .obj _ | .str _, .null
  | .str _, .bool _ | .str _, .int _ | .str _, .float _ | .str _, .arr _ | .str _, .obj _
  | .arr _, .null | .arr _, .bool _ | .arr _, .int _ | .arr _, .float _ | .arr _, .str _
  | .arr _, .obj _ | .obj _, .null | .obj _, .bool _ | .obj _, .int _ | .obj _, .float _
  | .obj _, .str _ | .obj _, .arr _ => isFalse (by simp)

def decEqItems : (a b : List Json) → Decidable (a = b)
  | [], [] => isTrue rfl
  | [], _ :: _ => isFalse (by simp)
  | _ :: _, [] => isFalse (by simp)
  | x :: xs, y :: ys =>
    match decEq x y, decEqItems xs ys with
    | isTrue h, isTrue t => isTrue (by rw [h, t])
    | isFalse h, _ => isFalse (by simp [h])
    | _, isFalse t => isFalse (by simp [t])

def decEqMembers : (a b : List (String × Json)) → Decidable (a = b)
  | [], [] => isTrue rfl
  | [], _ :: _ => isFalse (by simp)
  | _ :: _, [] => isFalse (by simp)
  | (m, x) :: xs, (n, y) :: ys =>
    match decEq x y, decEqMembers xs ys with
    | isTrue h, isTrue t => decidable_of_iff (m = n) (by simp [h, t])
    | isFalse h, _ => isFalse (by simp [h])
    | _, isFalse t => isFalse (by simp [t])

end

instance : DecidableEq Json := decEq

end Json

end RowDecl
