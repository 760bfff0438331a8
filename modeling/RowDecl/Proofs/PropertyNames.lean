import RowDecl.Proofs.UniqueReading

/-!
# What the tokens of properties denote

`Denotes token name` is the reading of the target language: an identifier denotes itself, a literal
between double quotes denotes what its body stands for (`LiteralBody`). It says nothing about how
tokens are written. `propertyToken_denotes_iff`: the token of a field whose name is on one line
denotes the name of the field and nothing else, and different fields never share a name.

A name with a line feed or a carriage return has a token that denotes nothing. There are two ways to
get there: the quotes leave both characters as they are, and an identifier with one line feed behind
it is not put between quotes at all (`fieldToken_line_feed`).
-/

namespace RowDecl

/-! ## Reading a token -/

/-- What a backslash and one more character stand for in a literal. Escapes by number, which go on
behind that character, are left out, and so are line ends, which are skipped. -/
def escapeValue? (c : Char) : Option Char :=
  match c with
  | 'b' => some '\x08'
  | 't' => some '\t'
  | 'n' => some '\n'
  | 'v' => some '\x0b'
  | 'f' => some '\x0c'
  | 'r' => some '\r'
  | c => if c.isDigit || ['x', 'u', '\n', '\r', '\u2028', '\u2029'].contains c then none else some c

/-- The body of a literal between double quotes, and the text that it stands for. It has no quote
but behind a backslash, and no line feed and no carriage return at all. -/
inductive LiteralBody : List Char → List Char → Prop
  | nil : LiteralBody [] []
  | plain {c : Char} {s t : List Char} : c ∉ ['"', '\\', '\n', '\r'] → LiteralBody s t →
      LiteralBody (c :: s) (c :: t)
  | escaped {c d : Char} {s t : List Char} : escapeValue? c = some d → LiteralBody s t →
      LiteralBody ('\\' :: c :: s) (d :: t)

/-- The name that a token denotes as the name of a property. -/
inductive Denotes : List Char → List Char → Prop
  | identifier {s : List Char} : Name.isStrictIdentifier s = true → Denotes s s
  | literal {s t : List Char} : LiteralBody s t → Denotes ('"' :: (s ++ ['"'])) t

/-- A text without line feeds and carriage returns. -/
def IsOneLine (s : List Char) : Prop := '\n' ∉ s ∧ '\r' ∉ s

instance (s : List Char) : Decidable (IsOneLine s) :=
  inferInstanceAs (Decidable ('\n' ∉ s ∧ '\r' ∉ s))

theorem isOneLine_cons {c : Char} {s : List Char} :
    IsOneLine (c :: s) ↔ (c ≠ '\n' ∧ c ≠ '\r') ∧ IsOneLine s := by
  simp only [IsOneLine, List.mem_cons, not_or]
  grind

/-! ## Bodies of literals -/

theorem literalBody_nil_iff {p : List Char} : LiteralBody [] p ↔ p = [] := by
  constructor
  · rintro ⟨⟩
    rfl
  · rintro rfl
    exact .nil

/-- A character that needs no backslash is read as it stands. -/
theorem literalBody_plain_iff {c : Char} (hquote : c ≠ '"') (hback : c ≠ '\\') {s p : List Char} :
    LiteralBody (c :: s) p ↔ (c ≠ '\n' ∧ c ≠ '\r') ∧ ∃ t, LiteralBody s t ∧ p = c :: t := by
  constructor
  · intro h
    cases h with
    | plain hc h => exact ⟨by simp_all, _, h, rfl⟩
    | escaped => exact absurd rfl hback
  · rintro ⟨⟨hline, hreturn⟩, t, h, rfl⟩
    exact .plain (by simp [*]) h

/-- A quote or a backslash is read from behind a backslash. -/
theorem literalBody_escaped_iff {c : Char} (hc : c = '"' ∨ c = '\\') {s p : List Char} :
    LiteralBody ('\\' :: c :: s) p ↔ ∃ t, LiteralBody s t ∧ p = c :: t := by
  have hvalue : escapeValue? c = some c := by rcases hc with rfl | rfl <;> rfl
  constructor
  · intro h
    cases h with
    | plain hback => simp at hback
    | escaped hd h =>
      obtain rfl := Option.some.inj (hvalue.symm.trans hd)
      exact ⟨_, h, rfl⟩
  · rintro ⟨t, h, rfl⟩
    exact .escaped hvalue h

/-- The inside of a quoted name stands for the name, if the name is on one line. -/
theorem literalBody_escape_iff {s p : List Char} :
    LiteralBody (escape s) p ↔ p = s ∧ IsOneLine s := by
  induction s generalizing p with
  | nil => simp [escape, literalBody_nil_iff, IsOneLine]
  | cons c s ih =>
    have hcons : escape (c :: s) = escapeChar c ++ escape s := rfl
    rw [hcons, isOneLine_cons]
    by_cases hc : c = '"' ∨ c = '\\'
    · have hline : c ≠ '\n' ∧ c ≠ '\r' := by rcases hc with rfl | rfl <;> decide
      rw [escapeChar, if_pos hc, List.cons_append, List.cons_append, List.nil_append,
        literalBody_escaped_iff hc]
      simp only [ih]
      grind
    · obtain ⟨hquote, hback⟩ := not_or.1 hc
      rw [escapeChar, if_neg hc, List.cons_append, List.nil_append,
        literalBody_plain_iff hquote hback]
      simp only [ih]
      grind

/-! ## Tokens -/

theorem denotes_quotedName_iff {s p : List Char} :
    Denotes (quotedName s) p ↔ p = s ∧ IsOneLine s := by
  rw [← literalBody_escape_iff]
  constructor
  · intro h
    generalize htoken : quotedName s = token at h
    cases h with
    | identifier hp =>
      rw [← htoken] at hp
      simp [quotedName, Name.isStrictIdentifier, show Name.isStart '"' = false by decide] at hp
    | literal hbody =>
      obtain rfl := List.append_cancel_right (List.cons.inj htoken).2
      exact hbody
  · exact .literal

/-- Only identifiers are read as they stand where no quote is in front. -/
theorem denotes_iff_of_start {c : Char} (hc : Name.isStart c = true) {s p : List Char} :
    Denotes (c :: s) p ↔ Name.isStrictIdentifier (c :: s) = true ∧ p = c :: s := by
  constructor
  · intro h
    cases h with
    | identifier hs => exact ⟨hs, rfl⟩
    | literal => exact absurd hc (by decide)
  · rintro ⟨hs, rfl⟩
    exact .identifier hs

theorem isOneLine_of_isStrictIdentifier {s : List Char} (h : Name.isStrictIdentifier s = true) :
    IsOneLine s :=
  ⟨fun hc => absurd (mem_of_isStrictIdentifier h hc) (by decide),
    fun hc => absurd (mem_of_isStrictIdentifier h hc) (by decide)⟩

/-- What passes for an identifier is one, if it is on one line. -/
theorem isStrictIdentifier_iff_isOneLine {s : List Char} (h : Name.isIdentifier s = true) :
    Name.isStrictIdentifier s = true ↔ IsOneLine s := by
  refine ⟨isOneLine_of_isStrictIdentifier, fun hline => ?_⟩
  simp only [Name.isIdentifier, Bool.or_eq_true, Bool.and_eq_true, decide_eq_true_eq] at h
  rcases h with h | ⟨hlast, -⟩
  · exact h
  · exact absurd (List.mem_of_getLast? hlast) hline.1

/-- A name token denotes the name, if the name is on one line, and nothing else. -/
theorem denotes_nameToken_iff {name : String} {p : List Char} :
    Denotes (nameToken name).toList p ↔ p = name.toList ∧ IsOneLine name.toList := by
  unfold nameToken
  split
  · rename_i hname
    rw [← isStrictIdentifier_iff_isOneLine hname]
    cases hs : name.toList with
    | nil => simp [hs, Name.isIdentifier, Name.isStrictIdentifier] at hname
    | cons c r =>
      rw [denotes_iff_of_start (isIdentifier_cons (hs ▸ hname)), and_comm]
  · rw [String.toList_ofList, denotes_quotedName_iff]

theorem Property.name_ofField (policy : NullablePolicy) (f : Field) :
    (Property.ofField policy f).name = nameToken f.name.text := by
  unfold Property.ofField
  cases f.optional.truthy <;> cases policy <;> rfl

/-! ## The properties of a declaration -/

/-- The token of a field denotes the name of the field exactly if that is on one line, and nothing
else; no two tokens of a shape denote the same name. -/
theorem propertyToken_denotes_iff {m : TypeMap} {shape : RowShape} {fields : List Field}
    (h : Field.ofShape m shape = .ok fields) (policy : NullablePolicy) :
    (∀ f ∈ fields, ∃ name, f.name = .str name ∧
      ∀ p, Denotes (Property.ofField policy f).name.toList p ↔
        p = name.toList ∧ IsOneLine name.toList) ∧
    fields.Pairwise fun f g => ∀ p q, Denotes (Property.ofField policy f).name.toList p →
      Denotes (Property.ofField policy g).name.toList q → p ≠ q := by
  have hnames : ∀ f ∈ fields, ∃ name, f.name = .str name := by
    intro f hf
    obtain ⟨c, -, n, tag, token, -, -, -, rfl⟩ := exists_step_of_mem (Field.ofShape_ok h) hf
    exact ⟨_, rfl⟩
  have htoken : ∀ {f : Field} {name : String}, f.name = .str name → ∀ p,
      Denotes (Property.ofField policy f).name.toList p ↔
        p = name.toList ∧ IsOneLine name.toList := by
    intro f name hf p
    rw [Property.name_ofField, hf]
    exact denotes_nameToken_iff
  refine ⟨fun f hf => ?_, ?_⟩
  · obtain ⟨name, hname⟩ := hnames f hf
    exact ⟨name, hname, htoken hname⟩
  · refine (Field.ofShape_distinct h).imp_of_mem fun {f g} hf hg hne p q hp hq hpq => hne ?_
    obtain ⟨name, hname⟩ := hnames f hf
    obtain ⟨name', hname'⟩ := hnames g hg
    obtain ⟨rfl, -⟩ := (htoken hname p).1 hp
    obtain ⟨rfl, -⟩ := (htoken hname' q).1 hq
    rw [hname, hname', String.toList_inj.1 hpq]

/-- A shape with one column of each kind: of an identifier, of a name to be quoted and of a name on
two lines. -/
def threeNamed : RowShape where
  path := ⟨⟨"crm", by decide⟩, []⟩
  name := .str "Contact"
  columns := [⟨.str "first_name", .str "text", .bool false, by decide⟩,
    ⟨.str "say \"hi\"\\", .str "int", .bool true, by decide⟩,
    ⟨.str "two\nlines", .str "int", .bool false, by decide⟩]
  named := by decide
  distinct := @hasDistinctNames_of_columnFault? .null _ (by decide)

/-- The first two tokens denote their names, the third denotes nothing. -/
theorem propertyToken_denotes_iff_three_named :
    ∃ f g h, Field.ofShape .builtIn threeNamed = .ok [f, g, h] ∧
      (∀ p, Denotes (Property.ofField .union f).name.toList p ↔ p = "firstName".toList) ∧
      (Property.ofField .union g).name = "\"say \\\"hi\\\"\\\\\"" ∧
      (∀ p, Denotes (Property.ofField .union g).name.toList p ↔ p = "say \"hi\"\\".toList) ∧
      ∀ p, ¬ Denotes (Property.ofField .union h).name.toList p := by
  obtain ⟨fields, hfields⟩ : ∃ fields, Field.ofShape .builtIn threeNamed = .ok fields :=
    ⟨_, rfl⟩
  obtain ⟨hdenotes, -⟩ := propertyToken_denotes_iff hfields .union
  cases hfields
  simp only [List.forall_mem_cons] at hdenotes
  obtain ⟨⟨a, ha, hf⟩, ⟨b, hb, hg⟩, ⟨c, hc, hh⟩, -⟩ := hdenotes
  cases ha
  cases hb
  cases hc
  refine ⟨_, _, _, rfl, fun p => (hf p).trans (and_iff_left (by decide)), by decide +kernel,
    fun p => (hg p).trans (and_iff_left (by decide)), fun p hp => ?_⟩
  exact absurd ((hh p).1 hp).2 (by decide)

/-- A shape with a column whose name is an identifier but for the line feed at its end. -/
def lineEnded : RowShape where
  path := ⟨⟨"crm", by decide⟩, []⟩
  name := .str "Contact"
  columns := [⟨.str "id\n", .str "int", .bool false, by decide⟩]
  named := by decide
  distinct := @hasDistinctNames_of_columnFault? .null _ (by decide)

/-- The name of that column stands without quotes, and the token denotes nothing. -/
theorem fieldToken_line_feed :
    ∃ f, Field.ofShape .builtIn lineEnded = .ok [f] ∧
      (Property.ofField .ignore f).name = "id\n" ∧
      ∀ p, ¬ Denotes (Property.ofField .ignore f).name.toList p := by
  refine ⟨_, rfl, by decide +kernel, fun p hp => ?_⟩
  rw [Property.name_ofField] at hp
  exact absurd (denotes_nameToken_iff.1 hp).2 (by decide +kernel)

end RowDecl
