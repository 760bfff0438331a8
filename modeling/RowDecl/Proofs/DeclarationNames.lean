import RowDecl.Proofs.CatalogGrammar
import RowDecl.Proofs.PropertyNames

/-!
# The names of loaded declarations

Names are checked when a catalog is loaded, tables, statements and row shapes alike, and nowhere
later. `load_names`: the names that pass are identifiers, perhaps with one line feed behind them,
and the line that opens an interface is one line exactly without it. Every such name is loaded, and
a document with a line feed in the names of all its lists is, too (`load_line_feeds`).
-/

namespace RowDecl

/-! ## The check -/

/-- What passes for an identifier is one, or is one with a line feed behind it. -/
theorem isIdentifier_iff {s : List Char} :
    Name.isIdentifier s = true ↔
      ∃ word, Name.isStrictIdentifier word = true ∧ (s = word ∨ s = word ++ ['\n']) := by
  simp only [Name.isIdentifier, Bool.or_eq_true, Bool.and_eq_true, decide_eq_true_eq]
  constructor
  · rintro (h | ⟨hlast, h⟩)
    · exact ⟨s, h, .inl rfl⟩
    · obtain ⟨word, rfl⟩ := List.getLast?_eq_some_iff.1 hlast
      rw [List.dropLast_concat] at h
      exact ⟨word, h, .inr rfl⟩
  · rintro ⟨word, h, rfl | rfl⟩
    · exact .inl h
    · refine .inr ⟨List.getLast?_concat, ?_⟩
      rwa [List.dropLast_concat]

/-- What passes is an identifier exactly if it does not end in a line feed. -/
theorem isStrictIdentifier_iff_getLast? {s : List Char} (h : Name.isIdentifier s = true) :
    Name.isStrictIdentifier s = true ↔ s.getLast? ≠ some '\n' := by
  constructor
  · intro hstrict hlast
    have hmem : '\n' ∈ s := List.mem_of_getLast? hlast
    exact absurd hmem (isOneLine_of_isStrictIdentifier hstrict).1
  · intro hlast
    obtain ⟨word, hword, rfl | rfl⟩ := isIdentifier_iff.1 h
    · exact hword
    · exact absurd List.getLast?_concat hlast

/-! ## Headers -/

theorem isOneLine_append {s t : List Char} : IsOneLine (s ++ t) ↔ IsOneLine s ∧ IsOneLine t := by
  simp only [IsOneLine, List.mem_append, not_or]
  exact and_and_and_comm

namespace Block

/-- The line of a block that opens its interface. -/
def header (b : Block) : String := b.indent ++ "export interface " ++ b.name ++ " \x7b"

/-- The header stands behind the line of the namespace, and a line feed behind it. -/
theorem text_eq_header (b : Block) :
    ∃ rest, b.text = b.keyword ++ " " ++ b.path ++ " \x7b\n" ++ b.header ++ "\n" ++ rest := by
  refine ⟨String.join (b.properties.map (line b.indent)) ++ b.indent ++ "\x7d\n\x7d", ?_⟩
  have hopen : " \x7b\n" = " \x7b" ++ "\n" := rfl
  simp only [text, header, hopen, String.append_assoc]

theorem name_ofShape {s : Settings} {shape : RowShape} {fields : List Field} {b : Block}
    (h : ofShape s shape fields = .ok b) : b.name = shape.name.text := by
  unfold ofShape at h
  split at h
  · cases h
    rfl
  · cases h

/-- Behind an indent on one line, the header is on one line if the name is. -/
theorem isOneLine_header {b : Block} (hindent : IsOneLine b.indent.toList) :
    IsOneLine b.header.toList ↔ IsOneLine b.name.toList := by
  have hopen : IsOneLine "export interface ".toList := by decide
  have hclose : IsOneLine " \x7b".toList := by decide
  simp only [header, String.toList_append, isOneLine_append, hindent, hopen, hclose, true_and,
    and_true]

end Block

/-! ## Documents -/

namespace Catalog

/-- The name of a loaded shape is a text that passes the check. -/
theorem load_identifierNamed {data : Json} {shapes : List RowShape} (h : load data = .ok shapes) :
    ∀ shape ∈ shapes, shape.IdentifierNamed := by
  intro shape hshape
  obtain ⟨entries, -, hvalid, hshapes⟩ := load_ok_iff.1 h
  obtain ⟨e, he, hof⟩ := exists_step_of_mem hshapes hshape
  exact ⟨e.name, hof.name, (hvalid e he).named⟩

/-- A catalog with a single table, which has no columns. -/
def tableNamed (name : String) : Json :=
  .obj [("tables", .arr [.obj [("name", .str name), ("columns", .arr [])]])]

/-- Every name that passes the check is the name of a loaded table. -/
theorem load_tableNamed {name : String} (h : Name.isIdentifier name.toList = true) :
    ∃ shape, load (tableNamed name) = .ok [shape] ∧ shape.name = .str name := by
  let e : Entry := ⟨tableNamespace [] "public", name, []⟩
  have htable : ReadsTable [] (.obj [("name", .str name), ("columns", .arr [])]) e :=
    ⟨_, "public", rfl, rfl, .inr ⟨rfl, rfl⟩, ⟨[], rfl, .nil⟩, rfl⟩
  have hdescribes : Describes (tableNamed name) [e] :=
    ⟨_, [], _, [], [], [e], [], [], rfl, .absent rfl, .inl rfl, .cons htable .nil,
      .inr ⟨rfl, rfl⟩, .nil, .inr ⟨rfl, rfl⟩, .nil, rfl⟩
  have hlocated : ∀ s ∈ tableNamespace [] "public", ∃ c ∈ s.toList, Text.isBlank c = false := by
    intro s hs
    rw [List.mem_singleton.1 hs]
    exact ⟨'s', by decide, by decide⟩
  have hvalid : e.IsValid := ⟨by simp [e], by simp [e], h, List.cons_ne_nil _ _, hlocated⟩
  obtain ⟨shape, hshape⟩ := hvalid.exists_shape
  have hloads := load_ok_iff.2 ⟨[e], hdescribes, by simpa using hvalid, .cons hshape .nil⟩
  exact ⟨shape, hloads, hshape.name⟩

/-- **The names of loaded declarations** are identifiers and identifiers with one line feed behind
them. A name is an identifier exactly if it does not end in a line feed, and the line that opens an
interface, behind an indent on one line, is on one line exactly then. Each of these names is
loaded. -/
theorem load_names (data : Json) :
    (∀ shapes, load data = .ok shapes → ∀ shape ∈ shapes,
      ∃ name : String, shape.name = .str name ∧
        (∃ word, Name.isStrictIdentifier word = true ∧
          (name.toList = word ∨ name.toList = word ++ ['\n'])) ∧
        (Name.isStrictIdentifier name.toList = true ↔ name.toList.getLast? ≠ some '\n') ∧
        ∀ s fields b, Block.ofShape s shape fields = .ok b → IsOneLine b.indent.toList →
          (∃ rest, b.text = b.keyword ++ " " ++ b.path ++ " \x7b\n" ++ b.header ++ "\n" ++ rest) ∧
          (IsOneLine b.header.toList ↔ Name.isStrictIdentifier name.toList = true)) ∧
    ∀ (name : String) (word : List Char), Name.isStrictIdentifier word = true →
      (name.toList = word ∨ name.toList = word ++ ['\n']) →
      ∃ shape, load (tableNamed name) = .ok [shape] ∧ shape.name = .str name := by
  refine ⟨fun shapes h shape hshape => ?_, fun name word hword hname => ?_⟩
  · obtain ⟨name, hname, hid⟩ := load_identifierNamed h shape hshape
    refine ⟨name, hname, isIdentifier_iff.1 hid, isStrictIdentifier_iff_getLast? hid, ?_⟩
    intro s fields b hb hindent
    have hshown : b.name = name := by
      rw [Block.name_ofShape hb, hname]
      rfl
    refine ⟨b.text_eq_header, ?_⟩
    rw [Block.isOneLine_header hindent, hshown, isStrictIdentifier_iff_isOneLine hid]
  · exact load_tableNamed (isIdentifier_iff.2 ⟨word, hword, hname⟩)

/-- A catalog with a name of an identifier and a line feed in each of its lists. -/
def lineFeedNames : Json :=
  .obj [("tables", .arr [.obj [("name", .str "Person\n"), ("columns", .arr [])]]),
    ("statements", .arr [.obj [("name", .str "find\n"), ("file", .str "q.sql"),
      ("columns", .arr [])]]),
    ("row_shapes", .arr [.obj [("namespace", .str "ui"), ("name", .str "Row\n"),
      ("columns", .arr [])]])]

/-- It is loaded, and none of the three names is an identifier. -/
theorem load_line_feeds :
    ∃ shapes, load lineFeedNames = .ok shapes ∧
      shapes.map (·.name) = [.str "Person\n", .str "Find\n", .str "Row\n"] ∧
      ∀ name ∈ ["Person\n", "Find\n", "Row\n"], Name.isStrictIdentifier name.toList = false := by
  exact ⟨_, rfl, rfl, by decide⟩

end Catalog

end RowDecl
