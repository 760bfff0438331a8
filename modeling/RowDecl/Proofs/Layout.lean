import RowDecl.Proofs.Emission

/-!
# The characters of a document

Documents, blocks and properties as lists of characters, put together to the right, so that they
can be read from the left. `toList_text_ofField` takes a property apart into its name token, the
mark behind the name (`markerOf`), the type and the mark behind the type (`suffixOf`).
-/

namespace RowDecl

/-! ## Properties -/

/-- The mark behind the name of a property. -/
def markerOf (policy : NullablePolicy) (nullable : Bool) : List Char :=
  if policy = .optional ∧ nullable then ['?'] else []

/-- The mark behind the type of a property. -/
def suffixOf (policy : NullablePolicy) (nullable : Bool) : List Char :=
  if policy = .union ∧ nullable then " | null".toList else []

theorem toList_text_ofField (policy : NullablePolicy) (f : Field) :
    (Property.ofField policy f).text.toList =
      (nameToken f.name.text).toList ++ (markerOf policy f.optional.truthy ++
        (": ".toList ++ (f.fieldType.text.toList ++
          (suffixOf policy f.optional.truthy ++ ";".toList)))) := by
  unfold Property.ofField Property.text markerOf suffixOf
  cases f.optional.truthy <;> cases policy <;> simp

/-! ## Blocks -/

/-- The characters of the lines of properties. -/
def linesOf (indent : List Char) (properties : List Property) : List Char :=
  properties.flatMap fun p => indent ++ (indent ++ (p.text.toList ++ ['\n']))

theorem Block.toList_text (b : Block) :
    b.text.toList =
      b.keyword.toList ++ (" ".toList ++ (b.path.toList ++ (" \x7b\n".toList ++
        (b.indent.toList ++ ("export interface ".toList ++ (b.name.toList ++ (" \x7b\n".toList ++
          (linesOf b.indent.toList b.properties ++
            (b.indent.toList ++ "\x7d\n\x7d".toList))))))))) := by
  have hlines : (String.join (b.properties.map (Block.line b.indent))).toList =
      linesOf b.indent.toList b.properties := by
    rw [String.toList_join, List.flatMap_map]
    simp [linesOf, Block.line]
  simp only [Block.text, String.toList_append, hlines, List.append_assoc]

/-- The block of a shape under settings whose separator is a text. -/
theorem Block.ofShape_ok_iff {s : Settings} {separator : String}
    (hsep : s.namespaceSeparator = .str separator) {shape : RowShape} {fields : List Field}
    {b : Block} :
    Block.ofShape s shape fields = .ok b ↔
      b = ⟨keywordOf s.exportNamespaces.truthy, shape.path.render separator, s.indent.text,
        shape.name.text, fields.map (Property.ofField s.nullablePolicy.effective)⟩ := by
  simp [Block.ofShape, hsep, eq_comm]

/-! ## Documents -/

/-- The characters behind a block: later blocks, each after an empty line, and the last line
feed. -/
def laterBlocks (blocks : List String) : List Char :=
  (blocks.flatMap fun b => '\n' :: '\n' :: b.toList) ++ ['\n']

@[simp] theorem toList_joinBlocks_nil : (joinBlocks []).toList = [] := rfl

theorem toList_joinBlocks_cons (b : String) (bs : List String) :
    (joinBlocks (b :: bs)).toList = b.toList ++ laterBlocks bs := by
  have key : ∀ (bs : List String) (b : String),
      (String.intercalate "\n\n" (b :: bs)).toList =
        b.toList ++ bs.flatMap fun b => '\n' :: '\n' :: b.toList := by
    intro bs
    induction bs with
    | nil => intro b; simp
    | cons c bs ih =>
      intro b
      rw [String.intercalate_cons_cons, String.toList_append, String.toList_append, ih c]
      simp
  simp only [joinBlocks, String.toList_append, key, laterBlocks, List.append_assoc]
  rfl

@[simp] theorem laterBlocks_nil : laterBlocks [] = ['\n'] := rfl

theorem laterBlocks_cons (b : String) (bs : List String) :
    laterBlocks (b :: bs) = '\n' :: '\n' :: (b.toList ++ laterBlocks bs) := by
  simp [laterBlocks]

/-! ## Names and paths -/

theorem mem_of_isStrictIdentifier {s : List Char} (h : Name.isStrictIdentifier s = true) {c : Char}
    (hc : c ∈ s) : Name.isPart c = true := by
  cases s with
  | nil => cases hc
  | cons d r =>
    simp only [Name.isStrictIdentifier, Bool.and_eq_true, List.all_eq_true] at h
    rcases List.mem_cons.1 hc with rfl | hc
    · exact Name.isPart_of_isStart h.1
    · exact h.2 c hc

theorem mem_of_isIdentifier {s : List Char} (h : Name.isIdentifier s = true) {c : Char}
    (hc : c ∈ s) : Name.isPart c = true ∨ c = '\n' := by
  simp only [Name.isIdentifier, Bool.or_eq_true, Bool.and_eq_true, decide_eq_true_eq] at h
  rcases h with h | ⟨hlast, h⟩
  · exact .inl (mem_of_isStrictIdentifier h hc)
  · obtain ⟨t, rfl⟩ := List.getLast?_eq_some_iff.1 hlast
    rw [List.dropLast_concat] at h
    rcases List.mem_append.1 hc with hc | hc
    · exact .inl (mem_of_isStrictIdentifier h hc)
    · exact .inr (by simpa using hc)

theorem toList_render (p : NamespacePath) (separator : String) :
    (p.render separator).toList =
      separator.toList.intercalate (p.segments.map (·.text.toList)) := by
  rw [NamespacePath.render, String.toList_intercalate, NamespacePath.names, List.map_map]
  rfl

/-- A rendered path holds nothing but its segments and separators. -/
theorem mem_render {p : NamespacePath} {separator : String} {c : Char}
    (hc : c ∈ (p.render separator).toList) : Name.isPart c = true ∨ c ∈ separator.toList := by
  have key : ∀ gs : List Segment,
      c ∈ separator.toList.intercalate (gs.map (·.text.toList)) →
        Name.isPart c = true ∨ c ∈ separator.toList := by
    intro gs
    induction gs with
    | nil => simp
    | cons g gs ih =>
      intro h
      cases gs with
      | nil =>
        simp only [List.map_cons, List.map_nil, List.intercalate_singleton] at h
        exact .inl (mem_of_isStrictIdentifier g.isIdentifier h)
      | cons g' gs =>
        simp only [List.map_cons, List.intercalate_cons_cons, List.mem_append] at h ih
        rcases h with (h | h) | h
        · exact .inl (mem_of_isStrictIdentifier g.isIdentifier h)
        · exact .inr h
        · exact ih h
  rw [toList_render] at hc
  exact key p.segments hc

end RowDecl
