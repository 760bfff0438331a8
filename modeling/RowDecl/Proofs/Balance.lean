import RowDecl.Proofs.CaseImages
import RowDecl.Proofs.Layout
import RowDecl.Proofs.Scanning

/-!
# The braces of a document balance

`checkBraces_generate`: the check that stands before the writing of a document never refuses what is
generated, and counts two braces of each kind for each row shape. The indent, the separator and the
tokens of the overrides must be inert texts, that is, without braces, quotes and slashes; the names
of columns may hold anything but a line feed.

`HasBraces s n k` counts the braces that the scanner leaves of a part, and adds up over parts
(`HasBraces.append`). A part of a document is an inert text, a quoted name, a comment or one of the
ends of a block, so the count is found part by part along the layout of a document.
-/

namespace RowDecl

/-! ## Braces of parts -/

/-- The scanner leaves `opened` opening and `closed` closing braces of the text `s`, whatever
follows. -/
def HasBraces (s : List Char) (opened closed : Nat) : Prop :=
  ∃ t, Leaves s t ∧ t.count '\x7b' = opened ∧ t.count '\x7d' = closed

/-- The characters that the check of braces looks at. -/
def braceMarks : List Char := ['\x7b', '\x7d', '"', '/']

/-- The check of braces passes over every character of the text. -/
def IsInert (s : List Char) : Prop := ∀ c ∈ s, c ∉ braceMarks

instance (s : List Char) : Decidable (IsInert s) := List.decidableBAll _ s

namespace HasBraces

theorem nil : HasBraces [] 0 0 := ⟨[], .nil, rfl, rfl⟩

theorem append {s t : List Char} {n k n' k' : Nat} (h : HasBraces s n k)
    (h' : HasBraces t n' k') : HasBraces (s ++ t) (n + n') (k + k') := by
  obtain ⟨u, hs, rfl, rfl⟩ := h
  obtain ⟨u', ht, rfl, rfl⟩ := h'
  exact ⟨u ++ u', hs.append ht, List.count_append, List.count_append⟩

/-- A text without quotes and slashes has all its braces. -/
theorem of_not_mem {s : List Char} (hquote : '"' ∉ s) (hslash : '/' ∉ s) :
    HasBraces s (s.count '\x7b') (s.count '\x7d') :=
  ⟨s, leaves_self hquote hslash, rfl, rfl⟩

theorem of_isInert {s : List Char} (h : IsInert s) : HasBraces s 0 0 := by
  have hnot : ∀ c ∈ braceMarks, c ∉ s := fun c hc hcs => h c hcs hc
  have hs := of_not_mem (hnot '"' (by decide)) (hnot '/' (by decide))
  rwa [List.count_eq_zero_of_not_mem (hnot '\x7b' (by decide)),
    List.count_eq_zero_of_not_mem (hnot '\x7d' (by decide))] at hs

theorem quotedName {n : List Char} (h : '\n' ∉ n) : HasBraces (quotedName n) 0 0 :=
  ⟨[], leaves_quotedName h, rfl, rfl⟩

theorem flatMap {α : Type} {f : α → List Char} : ∀ {as : List α},
    (∀ a ∈ as, HasBraces (f a) 0 0) → HasBraces (as.flatMap f) 0 0
  | [], _ => nil
  | a :: as, h => by
    rw [List.flatMap_cons]
    exact (h a (.head _)).append (flatMap fun b hb => h b (.tail _ hb))

/-- The counts of a whole text. -/
theorem counts {content : String} {n k : Nat} (h : HasBraces content.toList n k) :
    openingBraces content = n ∧ closingBraces content = k := by
  obtain ⟨t, ht, rfl, rfl⟩ := h
  unfold openingBraces closingBraces
  rw [ht.code_eq]
  exact ⟨rfl, rfl⟩

end HasBraces

/-! ## Parts of a document -/

theorem not_mem_braceMarks {c : Char} (h : Name.isPart c = true ∨ c = '\n') : c ∉ braceMarks := by
  intro hc
  simp only [braceMarks, List.mem_cons, List.not_mem_nil, or_false] at hc
  rcases hc with rfl | rfl | rfl | rfl <;> exact absurd h (by decide)

theorem isInert_of_isIdentifier {s : List Char} (h : Name.isIdentifier s = true) : IsInert s :=
  fun _ hc => not_mem_braceMarks (mem_of_isIdentifier h hc)

theorem isInert_render {separator : String} (h : IsInert separator.toList) (p : NamespacePath) :
    IsInert (p.render separator).toList := by
  intro c hc
  rcases mem_render hc with hpart | hmem
  · exact not_mem_braceMarks (.inl hpart)
  · exact h c hmem

/-- The name token of a field holds no braces outside of quotes. -/
theorem hasBraces_nameToken {n : String} (h : '\n' ∉ n.toList) :
    HasBraces (nameToken n).toList 0 0 := by
  unfold nameToken
  split
  · rename_i hn
    exact .of_isInert (isInert_of_isIdentifier hn)
  · rw [String.toList_ofList]
    exact .quotedName h

/-- The comment holds no braces outside of its line. -/
theorem hasBraces_commentText {commandLine : String} (h : '\n' ∉ commandLine.toList) :
    HasBraces (commentText commandLine).toList 0 0 := by
  have htitle : '\n' ∉ " Generated by sql_schema_to_code v1.0.0 : ".toList := by simp
  have htext : (commentText commandLine).toList =
      '/' :: '/' :: (" Generated by sql_schema_to_code v1.0.0 : ".toList ++ commandLine.toList
        ++ ['\n']) ++ ['\n'] := by
    unfold commentText
    simp
  have hline := List.not_mem_append htitle h
  have hcomment : HasBraces _ 0 0 := ⟨['\n'], leaves_comment hline, rfl, rfl⟩
  rw [htext]
  exact hcomment.append (.of_isInert (by decide))

theorem hasBraces_laterBlocks : ∀ {blocks : List String},
    (∀ b ∈ blocks, HasBraces b.toList 2 2) →
    HasBraces (laterBlocks blocks) (2 * blocks.length) (2 * blocks.length)
  | [], _ => .of_isInert (by decide)
  | b :: blocks, h => by
    have hlater := hasBraces_laterBlocks fun b' hb' => h b' (.tail _ hb')
    have hempty : HasBraces ['\n', '\n'] 0 0 := .of_isInert (by decide)
    rw [laterBlocks_cons, List.length_cons, Nat.mul_succ, Nat.add_comm, ← Nat.zero_add (2 + _)]
    exact hempty.append ((h b (.head _)).append hlater)

/-- The braces of blocks add up. -/
theorem hasBraces_joinBlocks {blocks : List String} (h : ∀ b ∈ blocks, HasBraces b.toList 2 2) :
    HasBraces (joinBlocks blocks).toList (2 * blocks.length) (2 * blocks.length) := by
  cases blocks with
  | nil => exact .nil
  | cons b blocks =>
    have hlater := hasBraces_laterBlocks fun b' hb' => h b' (.tail _ hb')
    rw [toList_joinBlocks_cons, List.length_cons, Nat.mul_succ, Nat.add_comm]
    exact (h b (.head _)).append hlater

/-! ## Settings and columns -/

/-- A value that is an inert text. -/
def Json.IsInert (v : Json) : Prop := ∃ t, v = .str t ∧ RowDecl.IsInert t.toList

theorem Json.IsInert.text {v : Json} (h : v.IsInert) : RowDecl.IsInert v.text.toList := by
  obtain ⟨t, rfl, ht⟩ := h
  rwa [Json.text_str]

/-- The indent, the separator and the tokens of the overrides are inert texts. -/
structure Settings.IsInert (s : Settings) : Prop where
  indent : s.indent.IsInert
  separator : s.namespaceSeparator.IsInert
  overrides : ∃ os, s.typeOverrides = .obj os ∧ ∀ o ∈ os, o.2.IsInert

theorem Settings.IsInert.token {s : Settings} (hs : s.IsInert) {m : TypeMap}
    (hm : TypeMap.ofSettings s = .ok m) {tag : String} {v : Json} (h : m.find? tag = some v) :
    v.IsInert := by
  obtain ⟨os, hos, hinert⟩ := hs.overrides
  simp only [TypeMap.ofSettings, hos, Except.ok.injEq] at hm
  subst hm
  rcases TypeMap.token_mem h with hbuilt | hover
  · have hall : ∀ w ∈ builtInTokens, RowDecl.IsInert w.text.toList ∧ w = .str w.text := by decide
    obtain ⟨hw, hv⟩ := hall v hbuilt
    exact ⟨v.text, hv, hw⟩
  · obtain ⟨o, ho, rfl⟩ := List.mem_map.1 hover
    exact hinert o ho

/-- No name of a column holds a line feed. -/
def RowShape.HasOneLineNames (x : RowShape) : Prop :=
  ∀ c ∈ x.columns, ∀ n, c.sourceName = .str n → '\n' ∉ n.toList

section
variable {s : Settings} (hs : s.IsInert) {m : TypeMap} (hm : TypeMap.ofSettings s = .ok m)
include hs hm

theorem hasBraces_property {c : Column} {f : Field} (h : IsFieldOf m c f)
    (hc : ∀ n, c.sourceName = .str n → '\n' ∉ n.toList) (policy : NullablePolicy) :
    HasBraces (Property.ofField policy f).text.toList 0 0 := by
  obtain ⟨n, tag, token, hn, -, htoken, rfl⟩ := h
  have hname : '\n' ∉ (Json.str (String.ofList (Name.camelCase n.toList))).text.toList := by
    rw [Json.text_str, String.toList_ofList]
    exact fun hmem => hc n hn (Name.mem_of_mem_camelCase (by decide) hmem)
  have hmarker : ∀ b, IsInert (markerOf policy b) := by cases policy <;> decide
  have hsuffix : ∀ b, IsInert (suffixOf policy b) := by cases policy <;> decide
  rw [toList_text_ofField]
  exact (hasBraces_nameToken hname).append <| (HasBraces.of_isInert (hmarker _)).append <|
    (HasBraces.of_isInert (by decide)).append <|
    (HasBraces.of_isInert (hs.token hm htoken).text).append <|
    (HasBraces.of_isInert (hsuffix _)).append (HasBraces.of_isInert (by decide))

theorem hasBraces_linesOf {x : RowShape} (hlines : x.HasOneLineNames) {fields : List Field}
    (h : Field.ofShape m x = .ok fields) (policy : NullablePolicy) :
    HasBraces (linesOf s.indent.text.toList (fields.map (Property.ofField policy))) 0 0 := by
  have hindent : HasBraces s.indent.text.toList 0 0 := .of_isInert hs.indent.text
  refine .flatMap fun p hp => ?_
  obtain ⟨f, hf, rfl⟩ := List.mem_map.1 hp
  obtain ⟨c, hc, hcf⟩ := exists_step_of_mem (Field.ofShape_ok h) hf
  exact hindent.append <| hindent.append <|
    (hasBraces_property hs hm hcf (hlines c hc) policy).append (.of_isInert (by decide))

/-! ## Blocks and documents -/

/-- A block opens and closes two braces. -/
theorem hasBraces_blockText {x : RowShape} (hx : x.IdentifierNamed) (hlines : x.HasOneLineNames)
    {b : String} (h : blockText s m x = .ok b) : HasBraces b.toList 2 2 := by
  obtain ⟨fields, hfields, block, hblock, rfl⟩ := blockText_ok_iff.1 h
  obtain ⟨separator, hsep, hinert⟩ := hs.separator
  rw [Block.ofShape_ok_iff hsep] at hblock
  obtain ⟨n, hn, hnid⟩ := hx
  subst hblock
  have hkeyword : ∀ b, IsInert (Block.keywordOf b).toList := by decide
  have hindent : HasBraces s.indent.text.toList 0 0 := .of_isInert hs.indent.text
  have hname : IsInert x.name.text.toList := by
    rw [hn, Json.text_str]
    exact isInert_of_isIdentifier hnid
  have hproperties := hasBraces_linesOf hs hm hlines hfields s.nullablePolicy.effective
  have hopen : HasBraces " \x7b\n".toList 1 0 := .of_not_mem (by decide) (by decide)
  have hclose : HasBraces "\x7d\n\x7d".toList 0 2 := .of_not_mem (by decide) (by decide)
  rw [Block.toList_text]
  exact (HasBraces.of_isInert (hkeyword _)).append <| (HasBraces.of_isInert (by decide)).append <|
    (HasBraces.of_isInert (isInert_render hinert x.path)).append <| hopen.append <|
    hindent.append <|
    (HasBraces.of_isInert (by decide)).append <| (HasBraces.of_isInert hname).append <|
    hopen.append <| hproperties.append <| hindent.append hclose

theorem hasBraces_render {shapes : List RowShape} (hnamed : ∀ x ∈ shapes, x.IdentifierNamed)
    (hlines : ∀ x ∈ shapes, x.HasOneLineNames) {body : String} (h : render s m shapes = .ok body) :
    HasBraces body.toList (2 * shapes.length) (2 * shapes.length) := by
  obtain ⟨-, blocks, hblocks, rfl⟩ := render_ok_iff.1 h
  rw [hblocks.length_eq]
  refine hasBraces_joinBlocks fun b hb => ?_
  obtain ⟨x, hx, hxb⟩ := exists_step_of_mem hblocks hb
  exact hasBraces_blockText hs hm (hnamed x hx) (hlines x hx) hxb

theorem hasBraces_generate {shapes : List RowShape} (hnamed : ∀ x ∈ shapes, x.IdentifierNamed)
    (hlines : ∀ x ∈ shapes, x.HasOneLineNames) {commandLine text : String}
    (hcommand : '\n' ∉ commandLine.toList) (h : generate s m shapes commandLine = .ok text) :
    HasBraces text.toList (2 * shapes.length) (2 * shapes.length) := by
  simp only [generate, sequence_ok_iff, pure_ok_iff] at h
  obtain ⟨body, hbody, rfl⟩ := h
  have hrender := hasBraces_render hs hm hnamed hlines hbody
  split
  · rw [String.toList_append]
    have hall := (hasBraces_commentText hcommand).append hrender
    rwa [Nat.zero_add] at hall
  · exact hrender

/-- **What is generated passes the check of braces**, which counts two of each kind for each row
shape. -/
theorem checkBraces_generate {shapes : List RowShape} (hnamed : ∀ x ∈ shapes, x.IdentifierNamed)
    (hlines : ∀ x ∈ shapes, x.HasOneLineNames) {text : String}
    (h : generate s m shapes commandName = .ok text) :
    checkBraces text = .ok () ∧ openingBraces text = 2 * shapes.length ∧
      closingBraces text = 2 * shapes.length := by
  have hbraces := hasBraces_generate hs hm hnamed hlines (by decide) h
  obtain ⟨hopen, hclose⟩ := hbraces.counts
  refine ⟨?_, hopen, hclose⟩
  simp only [checkBraces, hopen, hclose, if_true]

end

/-- Settings that ask for the comment and give a tag a token of its own. -/
def commented : Settings :=
  { Settings.default with
    nullablePolicy := .policy .union
    addGenerationComment := .bool true
    indent := .str "\t"
    typeOverrides := .obj [("json", .str "Map<string, string>")] }

/-- A shape whose column names hold quotes, backslashes, a comment and braces. -/
def misleading : RowShape where
  path := ⟨⟨"sql", by decide⟩, []⟩
  name := .str "Row"
  columns := [⟨.str "\x7b\"\\", .str "int", .bool true, by decide⟩,
    ⟨.str "// \x7d\r", .str "JSON", .bool false, by decide⟩,
    ⟨.str "last_\x7d_\"", .str "text", .bool false, by decide⟩]
  named := by decide
  distinct := @hasDistinctNames_of_columnFault? .null _ (by decide)

theorem checkBraces_generate_misleading :
    ∃ m text, TypeMap.ofSettings commented = .ok m ∧
      generate commented m [misleading] commandName = .ok text ∧
      checkBraces text = .ok () ∧ openingBraces text = 2 ∧ closingBraces text = 2 := by
  have hs : commented.IsInert := by
    refine ⟨⟨"\t", rfl, by decide⟩, ⟨".", rfl, by decide⟩, _, rfl, ?_⟩
    simpa using ⟨"Map<string, string>", rfl, by decide⟩
  have hnamed : ∀ x ∈ [misleading], x.IdentifierNamed := by
    simpa using ⟨"Row", rfl, by decide⟩
  have hlines : ∀ x ∈ [misleading], x.HasOneLineNames := by
    simp [RowShape.HasOneLineNames, misleading]
  have h : generate commented (.ofOverrides [("json", .str "Map<string, string>")]) [misleading]
      commandName = .ok ("// Generated by sql_schema_to_code v1.0.0 : sql_schema_to_code\n\n"
        ++ "namespace sql \x7b\n\texport interface Row \x7b\n\t\t\"\x7b\\\"\\\\\": number | null;\n"
        ++ "\t\t\"// \x7d\r\": Map<string, string>;\n"
        ++ "\t\t\"last\x7d\\\"\": string;\n\t\x7d\n\x7d\n") := by
    decide +kernel
  exact ⟨_, _, rfl, h, checkBraces_generate hs rfl hnamed hlines h⟩

end RowDecl
