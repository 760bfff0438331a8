import RowDecl.Proofs.PathText
import RowDecl.Proofs.Selection

/-!
# Interfaces that are declared once

Row shapes are told apart by the segments of their paths, but a block shows the text of the path
under the separator that is configured. `emit_declares_once_iff`: what is emitted never declares two
interfaces of one name under one text of a path exactly if the separator has a character that no
segment can hold. Under any other separator two paths of the same text are found, and both shapes
are emitted (`emit_joined_alike`).
-/

namespace RowDecl

/-- The block of a shape's own fields. -/
def IsBlockOf (s : Settings) (m : TypeMap) (shape : RowShape) (b : Block) : Prop :=
  ∃ fields, Field.ofShape m shape = .ok fields ∧ Block.ofShape s shape fields = .ok b

/-- The texts are those of the blocks of the shapes, in order, and no two of the blocks declare the
same name under the same text of a path. -/
def DeclaresOnce (s : Settings) (m : TypeMap) (shapes : List RowShape) (texts : List String) :
    Prop :=
  ∃ blocks, List.Forall₂ (IsBlockOf s m) shapes blocks ∧ texts = blocks.map Block.text ∧
    (blocks.map fun b => (b.path, b.name)).Nodup

/-- What is emitted is the texts of the blocks of the shapes. -/
theorem exists_blocks_of_texts {s : Settings} {m : TypeMap} :
    ∀ {shapes : List RowShape} {texts : List String},
      List.Forall₂ (fun shape t => blockText s m shape = .ok t) shapes texts →
      ∃ blocks, List.Forall₂ (IsBlockOf s m) shapes blocks ∧ texts = blocks.map Block.text
  | _, _, .nil => ⟨[], .nil, rfl⟩
  | _, _, .cons ht h => by
    obtain ⟨fields, hfields, b, hb, rfl⟩ := blockText_ok_iff.1 ht
    obtain ⟨blocks, hblocks, rfl⟩ := exists_blocks_of_texts h
    exact ⟨b :: blocks, .cons ⟨fields, hfields, hb⟩ hblocks, rfl⟩

/-- A shape without columns. -/
def bareShape (p : NamespacePath) : RowShape where
  path := p
  name := .str "T"
  columns := []
  named := by decide
  distinct := @hasDistinctNames_of_columnFault? .null [] rfl

theorem bareShape_named (p : NamespacePath) : (bareShape p).IdentifierNamed := ⟨"T", rfl, by decide⟩

section
variable {s : Settings} {separator : String} (hsep : s.namespaceSeparator = .str separator)
  {m : TypeMap}
include hsep

/-- Blocks show the texts of the paths and the names of their shapes. -/
theorem shown_of_blocks {shapes : List RowShape} {blocks : List Block}
    (h : List.Forall₂ (IsBlockOf s m) shapes blocks) :
    blocks.map (fun b => (b.path, b.name)) =
      shapes.map fun a => (a.path.render separator, a.name.text) := by
  symm
  rw [← List.forall₂_eq_eq_eq, List.forall₂_map_left_iff, List.forall₂_map_right_iff]
  refine h.imp fun a b hb => ?_
  obtain ⟨fields, -, hb⟩ := hb
  rw [(Block.ofShape_ok_iff hsep).1 hb]

/-- Under a separator with a mark, shapes with different keys declare different interfaces. -/
theorem declaresOnce_of_mark (hmark : ∃ c ∈ separator.toList, Name.isPart c = false)
    {shapes : List RowShape} (hnamed : ∀ a ∈ shapes, a.IdentifierNamed) {texts : List String}
    (h : emit s m shapes = .ok texts) : DeclaresOnce s m shapes texts := by
  obtain ⟨hdistinct, htexts⟩ := emit_ok_iff.1 h
  obtain ⟨blocks, hblocks, rfl⟩ := exists_blocks_of_texts htexts
  refine ⟨blocks, hblocks, rfl, ?_⟩
  rw [shown_of_blocks hsep hblocks, List.Nodup, List.pairwise_map]
  have hkeys := (duplicateFault?_nil_eq_none_iff.1 hdistinct).2
  refine hkeys.imp_of_mem fun {a b} ha hb hkey hshown => hkey ?_
  obtain ⟨n, hn, -⟩ := hnamed a ha
  obtain ⟨n', hn', -⟩ := hnamed b hb
  rw [hn, hn', Prod.mk.injEq] at hshown
  obtain ⟨hpath, rfl⟩ : a.path.render separator = b.path.render separator ∧ n = n' := hshown
  rw [RowShape.key?, RowShape.key?, hn, hn', NamespacePath.render_inj hmark hpath]

/-- Two shapes without columns under different paths of one text are emitted, and declare the same
interface. -/
theorem exists_declared_twice {p q : NamespacePath} (hpq : p ≠ q)
    (h : p.render separator = q.render separator) :
    ∃ shapes texts, (∀ a ∈ shapes, a.IdentifierNamed) ∧ emit s m shapes = .ok texts ∧
      ¬DeclaresOnce s m shapes texts := by
  have hblock : ∀ p, ∃ t, blockText s m (bareShape p) = .ok t :=
    fun p => exists_blockText_ok hsep rfl
  have hkey : ∀ p, (bareShape p).key? = some (p, .text "T") := fun p => rfl
  obtain ⟨texts, htexts⟩ : ∃ texts, emit s m [bareShape p, bareShape q] = .ok texts := by
    rw [exists_emit_iff]
    simp [hkey, hblock, hpq]
  refine ⟨_, texts, ?_, htexts, ?_⟩
  · simpa using ⟨bareShape_named p, bareShape_named q⟩
  · rintro ⟨blocks, hblocks, -, hdistinct⟩
    rw [shown_of_blocks hsep hblocks] at hdistinct
    simp [bareShape, h] at hdistinct

/-- **Interfaces are declared once exactly under a separator with a mark**, that is, with a
character that no segment of a path can hold: then whatever shapes are emitted, no two of their
blocks declare the same name under the same text of a path. -/
theorem emit_declares_once_iff (m : TypeMap) :
    (∀ shapes texts, (∀ a ∈ shapes, a.IdentifierNamed) → emit s m shapes = .ok texts →
      DeclaresOnce s m shapes texts) ↔
    ∃ c ∈ separator.toList, Name.isPart c = false := by
  constructor
  · intro honce
    rw [← NamespacePath.render_injective_iff]
    intro p q hpq
    by_contra hne
    obtain ⟨shapes, texts, hnamed, htexts, htwice⟩ := exists_declared_twice hsep hne hpq
    exact htwice (honce shapes texts hnamed htexts)
  · exact fun hmark shapes texts hnamed h => declaresOnce_of_mark hsep hmark hnamed h

end

/-- Settings under which an underscore stands between segments. -/
def underscored : Settings := { Settings.default with namespaceSeparator := .str "_" }

/-- The path of two segments. -/
def nestedPath : NamespacePath := ⟨⟨"geo", by decide⟩, [⟨"maps", by decide⟩]⟩

/-- The path of one segment that has the same text. -/
def joinedPath : NamespacePath := ⟨⟨"geo_maps", by decide⟩, []⟩

/-- A shape under each of them. -/
def alike : List RowShape := [bareShape nestedPath, bareShape joinedPath]

theorem alike_named : ∀ a ∈ alike, a.IdentifierNamed := by
  simpa [alike] using ⟨bareShape_named nestedPath, bareShape_named joinedPath⟩

/-- With points between the segments the two paths are told apart. -/
theorem emit_declares_once_points :
    Settings.default.namespaceSeparator = .str "." ∧
      ∃ texts, emit .default .builtIn alike = .ok texts ∧
        DeclaresOnce .default .builtIn alike texts := by
  have hmark : ∃ c ∈ ".".toList, Name.isPart c = false := ⟨'.', by decide, by decide⟩
  have h : ∃ texts, emit .default .builtIn alike = .ok texts := ⟨_, rfl⟩
  obtain ⟨texts, h⟩ := h
  exact ⟨rfl, texts, h, (emit_declares_once_iff rfl .builtIn).2 hmark _ texts alike_named h⟩

/-- With underscores between the segments the blocks of the two paths are the same text. -/
theorem emit_joined_alike :
    (∀ a ∈ alike, a.IdentifierNamed) ∧
      ∃ t, emit underscored .builtIn alike = .ok [t, t] ∧
        ¬DeclaresOnce underscored .builtIn alike [t, t] := by
  have h : ∃ t u, emit underscored .builtIn alike = .ok [t, u] ∧ t = u :=
    ⟨_, _, rfl, by decide +kernel⟩
  obtain ⟨t, _, h, rfl⟩ := h
  refine ⟨alike_named, t, h, ?_⟩
  rintro ⟨blocks, hblocks, -, hdistinct⟩
  rw [shown_of_blocks rfl hblocks] at hdistinct
  revert hdistinct
  decide +kernel

end RowDecl
