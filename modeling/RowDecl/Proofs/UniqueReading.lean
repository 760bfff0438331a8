import RowDecl.Proofs.PathText

/-!
# Documents are read in one way

`render_eq_render_iff`: two lists of row shapes have the same document exactly if they declare the
same, shape by shape (`SameDeclaration`): the path, the name and what the fields show. Columns may
have any names; blanks are the only indent, points the only separator, and all tokens are built in.

The parts are read from the left. Each has a lemma that takes it off the front of two equal texts:
an identifier ends before the first character that it cannot hold (`append_eq_append_of_stop`), a
quoted name at its first quote without a backslash (`escape_append_quote`), a line of a property at
its line feed (`property_append`), the lines of a block before the brace that closes them
(`lines_append`). Nothing is said about what follows, so the lemmas go through in sequence.
-/

namespace RowDecl

/-! ## The front of two equal texts -/

/-- A mark that may be left out, before a character that it does not begin with. -/
theorem mark_append {p q : Prop} [Decidable p] [Decidable q] {c d : Char} (hcd : c ≠ d)
    {w u v : List Char}
    (h : (if p then c :: w else []) ++ d :: u = (if q then c :: w else []) ++ d :: v) :
    (p ↔ q) ∧ u = v := by
  by_cases hp : p <;> by_cases hq : q <;> simp only [hp, hq, if_true, if_false] at h ⊢
  · simpa using h
  · simp [hcd] at h
  · simp [hcd.symm] at h
  · simpa using h

/-! ## Names -/

theorem escapeChar_append {c d : Char} {u v : List Char}
    (h : escapeChar c ++ u = escapeChar d ++ v) : c = d ∧ u = v := by
  unfold escapeChar at h
  split at h <;> split at h
  · simpa using h
  · rename_i hd
    simp only [List.cons_append, List.nil_append, List.cons.injEq] at h
    exact absurd (.inr h.1.symm) hd
  · rename_i hc _
    simp only [List.cons_append, List.nil_append, List.cons.injEq] at h
    exact absurd (.inr h.1) hc
  · simpa using h

theorem escapeChar_append_ne_quote (c : Char) (u v : List Char) : escapeChar c ++ u ≠ '"' :: v := by
  intro h
  unfold escapeChar at h
  split at h
  · simp at h
  · rename_i hc
    simp only [List.cons_append, List.nil_append, List.cons.injEq] at h
    exact hc (.inl h.1)

/-- The inside of a quoted name ends at the first quote that no backslash stands before. -/
theorem escape_append_quote : ∀ {s t u v : List Char},
    escape s ++ '"' :: u = escape t ++ '"' :: v → s = t ∧ u = v
  | [], [], u, v, h => by simpa [escape] using h
  | [], d :: t, u, v, h => by
    rw [escape, escape, List.flatMap_cons, List.append_assoc] at h
    exact absurd h.symm (escapeChar_append_ne_quote d _ u)
  | c :: s, [], u, v, h => by
    rw [escape, escape, List.flatMap_cons, List.append_assoc] at h
    exact absurd h (escapeChar_append_ne_quote c _ v)
  | c :: s, d :: t, u, v, h => by
    rw [escape, escape, List.flatMap_cons, List.flatMap_cons, List.append_assoc,
      List.append_assoc] at h
    obtain ⟨rfl, hrest⟩ := escapeChar_append h
    obtain ⟨rfl, rfl⟩ := escape_append_quote hrest
    exact ⟨rfl, rfl⟩

theorem isIdentifier_cons {c : Char} {r : List Char} (h : Name.isIdentifier (c :: r) = true) :
    Name.isStart c = true := by
  simp only [Name.isIdentifier, Name.isStrictIdentifier, Bool.or_eq_true, Bool.and_eq_true] at h
  rcases h with h | ⟨-, h⟩
  · exact h.1
  · cases r with
    | nil => simp at h
    | cons d r =>
      simp only [List.dropLast_cons_cons, Bool.and_eq_true] at h
      exact h.1

/-- A name token is an identifier or begins with a quote. -/
theorem nameToken_cases (n : String) :
    (nameToken n = n ∧ (∃ c r, n.toList = c :: r ∧ Name.isStart c = true) ∧
      ∀ c ∈ n.toList, Name.isPart c = true ∨ c = '\n') ∨
    (nameToken n).toList = '"' :: (escape n.toList ++ ['"']) := by
  unfold nameToken
  split
  · rename_i hn
    refine .inl ⟨rfl, ?_, fun c hc => mem_of_isIdentifier hn hc⟩
    cases hs : n.toList with
    | nil => simp [hs, Name.isIdentifier, Name.isStrictIdentifier] at hn
    | cons c r => exact ⟨c, r, rfl, isIdentifier_cons (hs ▸ hn)⟩
  · exact .inr (by simp [quotedName])

/-- A character that may stand behind a name. -/
def endsName (c : Char) : Bool := c = '?' || c = ':'

theorem not_endsName_of_part {c : Char} (h : Name.isPart c = true ∨ c = '\n') :
    endsName c = false := by
  cases he : endsName c with
  | false => rfl
  | true =>
    simp only [endsName, Bool.or_eq_true, decide_eq_true_eq] at he
    rcases he with rfl | rfl <;> revert h <;> decide

/-- A name token is read off the front of what follows with the end of a name. -/
theorem nameToken_append {n n' : String} {u v : List Char} (hu : ∀ c ∈ u.head?, endsName c = true)
    (hv : ∀ c ∈ v.head?, endsName c = true)
    (h : (nameToken n).toList ++ u = (nameToken n').toList ++ v) : n = n' ∧ u = v := by
  have hquote : Name.isStart '"' = false := by decide
  rcases nameToken_cases n with ⟨hn, ⟨c, r, hc, hcs⟩, hparts⟩ | hn <;>
    rcases nameToken_cases n' with ⟨hn', ⟨c', r', hc', hcs'⟩, hparts'⟩ | hn' <;>
    rw [hn, hn'] at h
  · have := append_eq_append_of_stop (fun c => !endsName c)
      (fun c hc => by simp [not_endsName_of_part (hparts c hc)])
      (fun c hc => by simp [not_endsName_of_part (hparts' c hc)])
      (fun c hc => by simp [hu c hc]) (fun c hc => by simp [hv c hc]) h
    exact ⟨String.toList_inj.1 this.1, this.2⟩
  · rw [hc] at h
    simp only [List.cons_append, List.cons.injEq] at h
    rw [h.1, hquote] at hcs
    cases hcs
  · rw [hc'] at h
    simp only [List.cons_append, List.cons.injEq] at h
    rw [← h.1, hquote] at hcs'
    cases hcs'
  · simp only [List.cons_append, List.append_assoc, List.cons.injEq, true_and,
      List.nil_append] at h
    obtain ⟨hs, huv⟩ := escape_append_quote h
    exact ⟨String.toList_inj.1 hs, huv⟩

/-! ## Properties -/

/-- What a declaration shows of a field: its name, its type and whether it is marked as nullable. -/
structure Shown where
  name : Json
  type : Json
  nullable : Bool
  deriving DecidableEq

/-- What is shown of a field under a policy; `ignore` drops the mark. -/
def Field.shown (policy : NullablePolicy) (f : Field) : Shown :=
  ⟨f.name, f.fieldType, policy ≠ .ignore && f.optional.truthy⟩

/-- The name of a field is a text and its type is built in. -/
def Field.IsPlain (f : Field) : Prop := (∃ n, f.name = .str n) ∧ f.fieldType ∈ builtInTokens

theorem endsName_marker (policy : NullablePolicy) (b : Bool) (u : List Char) :
    ∀ c ∈ (markerOf policy b ++ (": ".toList ++ u)).head?, endsName c = true := by
  intro c hc
  unfold markerOf at hc
  split at hc <;> simp at hc <;> subst hc <;> decide

theorem builtInToken_append {t t' : Json} (ht : t ∈ builtInTokens) (ht' : t' ∈ builtInTokens)
    {policy : NullablePolicy} {b b' : Bool} {u v : List Char}
    (h : t.text.toList ++ (suffixOf policy b ++ (";".toList ++ u)) =
      t'.text.toList ++ (suffixOf policy b' ++ (";".toList ++ v))) :
    t = t' ∧ suffixOf policy b ++ (";".toList ++ u) = suffixOf policy b' ++ (";".toList ++ v) := by
  have hletters : ∀ t ∈ builtInTokens, t.text.toList.all Char.isAlpha = true := by decide
  have hstop : ∀ (b : Bool) (u : List Char),
      ∀ c ∈ (suffixOf policy b ++ (";".toList ++ u)).head?, c.isAlpha = false := by
    intro b u c hc
    unfold suffixOf at hc
    split at hc <;> simp at hc <;> subst hc <;> decide
  have hinj : ∀ t ∈ builtInTokens, ∀ t' ∈ builtInTokens,
      t.text.toList = t'.text.toList → t = t' := by decide
  obtain ⟨htext, hrest⟩ := append_eq_append_of_stop Char.isAlpha
    (List.all_eq_true.1 (hletters t ht)) (List.all_eq_true.1 (hletters t' ht')) (hstop b u)
    (hstop b' v) h
  exact ⟨hinj t ht t' ht' htext, hrest⟩

/-- The text of a property shows a field in one way. -/
theorem property_append {policy : NullablePolicy} {f g : Field} (hf : f.IsPlain) (hg : g.IsPlain)
    {u v : List Char}
    (h : (Property.ofField policy f).text.toList ++ u =
      (Property.ofField policy g).text.toList ++ v) :
    f.shown policy = g.shown policy ∧ u = v := by
  obtain ⟨⟨n, hn⟩, ht⟩ := hf
  obtain ⟨⟨n', hn'⟩, ht'⟩ := hg
  simp only [toList_text_ofField, List.append_assoc] at h
  obtain ⟨hname, h⟩ := nameToken_append (endsName_marker _ _ _) (endsName_marker _ _ _) h
  obtain ⟨hmarker, h⟩ := mark_append (by decide) h
  obtain ⟨htype, h⟩ := builtInToken_append ht ht' (List.cons.inj h).2
  obtain ⟨hsuffix, h⟩ := mark_append (by decide) h
  refine ⟨?_, h⟩
  have hname : f.name = g.name := by rw [hn, hn'] at hname ⊢; exact congrArg Json.str hname
  have hmark : (policy ≠ .ignore && f.optional.truthy) =
      (policy ≠ .ignore && g.optional.truthy) := by
    cases policy <;> simp_all
  simp only [Field.shown, hname, htype, hmark]

/-! ## Blocks -/

/-- Indents are made of blanks. -/
def IsIndent (indent : List Char) : Prop := ∀ c ∈ indent, c = ' ' ∨ c = '\t'

instance (indent : List Char) : Decidable (IsIndent indent) := List.decidableBAll _ indent

/-- The line that closes the properties is told apart from the line of one more property. -/
theorem close_ne_line {indent : List Char} (hindent : IsIndent indent) (n : String)
    (u v : List Char) :
    indent ++ '\x7d' :: u ≠ indent ++ (indent ++ ((nameToken n).toList ++ v)) := by
  intro h
  have h := List.append_cancel_left h
  cases indent with
  | nil =>
    rcases nameToken_cases n with ⟨hn, ⟨c, r, hc, hcs⟩, -⟩ | hn
    · rw [hn, hc] at h
      simp only [List.nil_append, List.cons_append, List.cons.injEq] at h
      rw [← h.1] at hcs
      revert hcs
      decide
    · rw [hn] at h
      simp at h
  | cons c r =>
    simp only [List.cons_append, List.cons.injEq] at h
    rcases hindent c (.head _) with rfl | rfl <;> simp at h

/-- The lines of properties are read up to the line that closes them. -/
theorem lines_append {policy : NullablePolicy} {indent : List Char} (hindent : IsIndent indent) :
    ∀ {fs gs : List Field} {u v : List Char}, (∀ f ∈ fs, f.IsPlain) → (∀ g ∈ gs, g.IsPlain) →
      linesOf indent (fs.map (Property.ofField policy)) ++ (indent ++ '\x7d' :: u) =
        linesOf indent (gs.map (Property.ofField policy)) ++ (indent ++ '\x7d' :: v) →
      fs.map (Field.shown policy) = gs.map (Field.shown policy) ∧ u = v
  | [], [], u, v, _, _, h => by
    simpa [linesOf] using h
  | [], g :: gs, u, v, _, _, h => by
    simp only [linesOf, List.map_cons, List.map_nil, List.flatMap_cons, List.flatMap_nil,
      List.nil_append, List.append_assoc, toList_text_ofField] at h
    exact absurd h (close_ne_line hindent _ _ _)
  | f :: fs, [], u, v, _, _, h => by
    simp only [linesOf, List.map_cons, List.map_nil, List.flatMap_cons, List.flatMap_nil,
      List.nil_append, List.append_assoc, toList_text_ofField] at h
    exact absurd h.symm (close_ne_line hindent _ _ _)
  | f :: fs, g :: gs, u, v, hf, hg, h => by
    simp only [linesOf, List.map_cons, List.flatMap_cons, List.append_assoc] at h
    have h := List.append_cancel_left (List.append_cancel_left h)
    obtain ⟨hfg, h⟩ := property_append (hf f (.head _)) (hg g (.head _)) h
    obtain ⟨hrest, huv⟩ := lines_append hindent (fun f hm => hf f (.tail _ hm))
      (fun g hm => hg g (.tail _ hm)) (List.append_cancel_left h)
    exact ⟨by rw [List.map_cons, List.map_cons, hfg, hrest], huv⟩

/-! ## Blocks -/

/-- The fields of a shape as a declaration shows them. -/
def shownFields (policy : NullablePolicy) (m : TypeMap) (x : RowShape) :
    Except Error (List Shown) :=
  (Field.ofShape m x).map (·.map (Field.shown policy))

/-- Two shapes declare the same: the path, the name and what is shown of the fields, in order. -/
structure SameDeclaration (policy : NullablePolicy) (m : TypeMap) (x y : RowShape) : Prop where
  path : x.path.segments = y.path.segments
  name : x.name = y.name
  fields : shownFields policy m x = shownFields policy m y

/-- A property as what is shown of its field. -/
theorem ofField_eq_of_shown {policy : NullablePolicy} {f g : Field}
    (h : f.shown policy = g.shown policy) :
    Property.ofField policy f = Property.ofField policy g := by
  simp only [Field.shown, Shown.mk.injEq] at h
  unfold Property.ofField
  rw [h.1, h.2.1]
  cases policy <;> simp_all

theorem properties_eq_of_shown {policy : NullablePolicy} :
    ∀ {fs gs : List Field}, fs.map (Field.shown policy) = gs.map (Field.shown policy) →
      fs.map (Property.ofField policy) = gs.map (Property.ofField policy)
  | [], gs, h => by cases gs <;> simp_all
  | f :: fs, [], h => by simp at h
  | f :: fs, g :: gs, h => by
    simp only [List.map_cons, List.cons.injEq] at h ⊢
    exact ⟨ofField_eq_of_shown h.1, properties_eq_of_shown h.2⟩

theorem isPlain_of_builtIn {x : RowShape} {fs : List Field}
    (h : Field.ofShape .builtIn x = .ok fs) : ∀ f ∈ fs, f.IsPlain := by
  intro f hf
  obtain ⟨c, -, n, tag, token, -, -, htoken, rfl⟩ := exists_step_of_mem (Field.ofShape_ok h) hf
  exact ⟨⟨_, rfl⟩, TypeMap.builtIn_token htoken⟩

section
variable {s : Settings} (hsep : s.namespaceSeparator = .str ".")
include hsep

/-- Shapes that declare the same have the same block. -/
theorem blockText_congr {m : TypeMap} {x y : RowShape} {t : String}
    (h : SameDeclaration s.nullablePolicy.effective m x y) (hx : blockText s m x = .ok t) :
    blockText s m y = .ok t := by
  obtain ⟨fx, hfx, bx, hbx, rfl⟩ := blockText_ok_iff.1 hx
  have hfields : shownFields s.nullablePolicy.effective m y =
      .ok (fx.map (Field.shown s.nullablePolicy.effective)) := by
    rw [← h.fields, shownFields, hfx]
    rfl
  obtain ⟨fy, hfy, hshown⟩ := mapped_ok_iff.1 hfields
  refine blockText_ok_iff.2 ⟨fy, hfy, bx, ?_, rfl⟩
  rw [Block.ofShape_ok_iff hsep] at hbx ⊢
  rw [hbx, NamespacePath.segments_inj h.path, h.name, properties_eq_of_shown hshown]

theorem blocks_congr {m : TypeMap} : ∀ {A B : List RowShape} {as bs : List String},
    List.Forall₂ (SameDeclaration s.nullablePolicy.effective m) A B →
    List.Forall₂ (fun x a => blockText s m x = .ok a) A as →
    List.Forall₂ (fun y b => blockText s m y = .ok b) B bs → as = bs
  | _, _, _, _, .nil, .nil, .nil => rfl
  | _, _, _, _, .cons hxy h, .cons hx hA, .cons hy hB => by
    have hab := (blockText_congr hsep hxy hx).symm.trans hy
    rw [Except.ok.inj hab, blocks_congr h hA hB]

variable {indent : String} (hindent : s.indent = .str indent) (hblank : IsIndent indent.toList)
include hindent hblank

/-- The text of a block declares a shape in one way. -/
theorem blockText_append {x y : RowShape} (hx : x.IdentifierNamed) (hy : y.IdentifierNamed)
    {a b : String} (ha : blockText s .builtIn x = .ok a) (hb : blockText s .builtIn y = .ok b)
    {u v : List Char} (h : a.toList ++ u = b.toList ++ v) :
    SameDeclaration s.nullablePolicy.effective .builtIn x y ∧ u = v := by
  obtain ⟨fx, hfx, bx, hbx, rfl⟩ := blockText_ok_iff.1 ha
  obtain ⟨fy, hfy, by', hby, rfl⟩ := blockText_ok_iff.1 hb
  rw [Block.ofShape_ok_iff hsep] at hbx hby
  obtain ⟨n, hn, hnid⟩ := hx
  obtain ⟨n', hn', hnid'⟩ := hy
  subst hbx hby
  simp only [Block.toList_text, List.append_assoc, hindent, Json.text_str] at h
  have h := List.append_cancel_left (List.append_cancel_left h)
  -- The path ends at the space before the brace.
  have hspace : ∀ {p : NamespacePath}, ∀ c ∈ (p.render ".").toList, (c != ' ') = true := by
    intro p c hc
    simp only [bne_iff_ne]
    rintro rfl
    revert hc
    exact fun hc => absurd (mem_render hc) (by decide)
  obtain ⟨hpath, h⟩ := append_eq_append_of_stop (· != ' ') hspace hspace (by simp) (by simp) h
  have h := List.append_cancel_left (List.append_cancel_left (List.append_cancel_left h))
  -- So does the name, which may hold a line feed but no space.
  have hname : ∀ {n : String}, Name.isIdentifier n.toList = true →
      ∀ c ∈ (Json.str n).text.toList, (c != ' ') = true := by
    intro n hn c hc
    simp only [bne_iff_ne]
    rintro rfl
    exact absurd (mem_of_isIdentifier hn hc) (by decide)
  rw [hn, hn'] at h
  obtain ⟨hname, h⟩ := append_eq_append_of_stop (· != ' ') (hname hnid) (hname hnid')
    (by simp) (by simp) h
  obtain ⟨hshown, h⟩ := lines_append hblank (isPlain_of_builtIn hfx) (isPlain_of_builtIn hfy)
    (List.append_cancel_left h)
  have hsame := NamespacePath.render_inj ⟨'.', by decide, by decide⟩ (String.toList_inj.1 hpath)
  refine ⟨⟨congrArg NamespacePath.segments hsame, ?_, ?_⟩, (List.cons.inj (List.cons.inj h).2).2⟩
  · rw [hn, hn']
    exact congrArg Json.str (String.toList_inj.1 hname)
  · simp only [shownFields, hfx, hfy, Except.map, hshown]

/-- The blocks behind a block declare shapes in one way. -/
theorem laterBlocks_inj : ∀ {A B : List RowShape} {as bs : List String},
    (∀ x ∈ A, x.IdentifierNamed) → (∀ y ∈ B, y.IdentifierNamed) →
    List.Forall₂ (fun x a => blockText s .builtIn x = .ok a) A as →
    List.Forall₂ (fun y b => blockText s .builtIn y = .ok b) B bs →
    laterBlocks as = laterBlocks bs →
    List.Forall₂ (SameDeclaration s.nullablePolicy.effective .builtIn) A B
  | [], [], _, _, _, _, _, _, _ => .nil
  | [], _ :: _, _, _, _, _, .nil, .cons _ _, h => by simp [laterBlocks_cons] at h
  | _ :: _, [], _, _, _, _, .cons _ _, .nil, h => by simp [laterBlocks_cons] at h
  | x :: A, y :: B, _, _, hA, hB, .cons hx hA', .cons hy hB', h => by
    rw [laterBlocks_cons, laterBlocks_cons] at h
    simp only [List.cons.injEq, true_and] at h
    obtain ⟨hxy, h⟩ :=
      blockText_append hsep hindent hblank (hA x (.head _)) (hB y (.head _)) hx hy h
    exact .cons hxy (laterBlocks_inj (fun x hm => hA x (.tail _ hm)) (fun y hm => hB y (.tail _ hm))
      hA' hB' h)

end

/-! ## Documents -/

/-- **Two lists of row shapes have the same document exactly if they declare the same**, shape by
shape. -/
theorem render_eq_render_iff {s : Settings} {indent : String}
    (hsep : s.namespaceSeparator = .str ".") (hindent : s.indent = .str indent)
    (hblank : IsIndent indent.toList) (hoverrides : s.typeOverrides = .obj []) {m : TypeMap}
    (hm : TypeMap.ofSettings s = .ok m) {A B : List RowShape}
    (hA : ∀ x ∈ A, x.IdentifierNamed) (hB : ∀ y ∈ B, y.IdentifierNamed) {a b : String}
    (ha : render s m A = .ok a) (hb : render s m B = .ok b) :
    a = b ↔ List.Forall₂ (SameDeclaration s.nullablePolicy.effective m) A B := by
  obtain rfl : m = .builtIn := by
    rw [TypeMap.ofSettings, hoverrides] at hm
    exact (Except.ok.inj hm).symm
  obtain ⟨-, as, has, rfl⟩ := render_ok_iff.1 ha
  obtain ⟨-, bs, hbs, rfl⟩ := render_ok_iff.1 hb
  refine ⟨fun h => ?_, fun h => ?_⟩
  · have h := congrArg String.toList h
    cases has with
    | nil =>
      cases hbs with
      | nil => exact .nil
      | cons _ _ => simp [toList_joinBlocks_cons, laterBlocks] at h
    | cons hx has =>
      cases hbs with
      | nil => simp [toList_joinBlocks_cons, laterBlocks] at h
      | cons hy hbs =>
        rw [toList_joinBlocks_cons, toList_joinBlocks_cons] at h
        obtain ⟨hxy, h⟩ :=
          blockText_append hsep hindent hblank (hA _ (.head _)) (hB _ (.head _)) hx hy h
        exact .cons hxy (laterBlocks_inj hsep hindent hblank (fun x hm => hA x (.tail _ hm))
          (fun y hm => hB y (.tail _ hm)) has hbs h)
  · rw [blocks_congr hsep h has hbs]

/-- A shape with one property, whose name holds the text of two. -/
def lookalike : RowShape where
  path := ⟨⟨"db", by decide⟩, []⟩
  name := .str "Person\n"
  columns := [⟨.str "x\": number;\n        \"y", .str "int", .bool true, by decide⟩]
  named := by decide
  distinct := @hasDistinctNames_of_columnFault? .null _ (by decide)

/-- A shape with the two properties that the name of `lookalike` holds. -/
def lookalikePair : RowShape where
  path := ⟨⟨"db", by decide⟩, []⟩
  name := .str "Person\n"
  columns := [⟨.str "x", .str "int", .bool false, by decide⟩,
    ⟨.str "y", .str "int", .bool true, by decide⟩]
  named := by decide
  distinct := @hasDistinctNames_of_columnFault? .null _ (by decide)

theorem render_eq_render_iff_lookalike :
    let s := { Settings.default with nullablePolicy := .policy .union }
    ∃ a b, render s .builtIn [lookalike] = .ok a ∧ render s .builtIn [lookalikePair] = .ok b ∧
      (a = b ↔ List.Forall₂ (SameDeclaration .union .builtIn) [lookalike] [lookalikePair]) := by
  intro s
  have hA : ∀ x ∈ [lookalike], x.IdentifierNamed := by
    simpa using ⟨"Person\n", rfl, by decide⟩
  have hB : ∀ y ∈ [lookalikePair], y.IdentifierNamed := by
    simpa using ⟨"Person\n", rfl, by decide⟩
  have hblank : IsIndent "    ".toList := by decide
  have ha : render s .builtIn [lookalike] = .ok (
      "namespace db \x7b\n    export interface Person\n \x7b\n"
        ++ "        \"x\\\": number;\n        \\\"y\": number | null;\n    \x7d\n\x7d\n") := by
    decide +kernel
  have hb : render s .builtIn [lookalikePair] = .ok (
      "namespace db \x7b\n    export interface Person\n \x7b\n"
        ++ "        x: number;\n        y: number | null;\n    \x7d\n\x7d\n") := by
    decide +kernel
  exact ⟨_, _, ha, hb, render_eq_render_iff rfl rfl hblank rfl rfl hA hB ha hb⟩

end RowDecl
