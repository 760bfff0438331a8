import Mathlib.Data.List.Perm.Basic
import RowDecl.Proofs.EmissionFaults

/-!
# Selections of row shapes

Whether row shapes are emitted depends on each of them and on each two of them, and on nothing
else: every shape has a key and a block of its own, and no two have the same key
(`exists_emit_iff`). So shapes may be left out and reordered without a fault, and each keeps its
block (`emit_map_get`, `emit_perm`); and if some shapes are refused, at most two of them are enough
for it (`emit_selection`).
-/

namespace RowDecl

variable {s : Settings} {m : TypeMap} {shapes : List RowShape} {blocks : List String}

/-- Nothing is declared twice exactly if all shapes have keys, all different. -/
theorem duplicateFault?_nil_eq_none_iff :
    duplicateFault? [] shapes = none ↔
      (∀ a ∈ shapes, a.key? ≠ none) ∧ shapes.Pairwise fun a b => a.key? ≠ b.key? := by
  simp only [duplicateFault?_eq_none_iff, List.not_mem_nil, not_false_eq_true, and_true,
    Option.ne_none_iff_exists']

/-- Shapes are emitted exactly if each has a key and a block, and no two have the same key. -/
theorem exists_emit_iff :
    (∃ blocks, emit s m shapes = .ok blocks) ↔
      (∀ a ∈ shapes, a.key? ≠ none ∧ ∃ t, blockText s m a = .ok t) ∧
        shapes.Pairwise fun a b => a.key? ≠ b.key? := by
  simp only [emit_ok_iff, duplicateFault?_nil_eq_none_iff]
  constructor
  · rintro ⟨blocks, ⟨hkeys, hdistinct⟩, hblocks⟩
    refine ⟨fun a ha => ⟨hkeys a ha, ?_⟩, hdistinct⟩
    obtain ⟨t, -, ht⟩ := exists_step_of_mem hblocks.flip ha
    exact ⟨t, ht⟩
  · rintro ⟨hall, hdistinct⟩
    obtain ⟨blocks, hblocks⟩ := exists_mapM_ok fun a ha => (hall a ha).2
    exact ⟨blocks, ⟨fun a ha => (hall a ha).1, hdistinct⟩, mapM_ok_iff.1 hblocks⟩

/-- What is refused is refused for one shape or for two. -/
theorem exists_emit_iff_of_few :
    (∃ blocks, emit s m shapes = .ok blocks) ↔
      ∀ few, few.Sublist shapes → few.length ≤ 2 → ∃ blocks, emit s m few = .ok blocks := by
  simp only [exists_emit_iff]
  constructor
  · rintro ⟨hall, hdistinct⟩ few hfew -
    exact ⟨fun a ha => hall a (hfew.subset ha), hdistinct.sublist hfew⟩
  · intro h
    refine ⟨fun a ha => ?_, ?_⟩
    · exact (h [a] (List.singleton_sublist.2 ha) (by simp)).1 a (.head _)
    · rw [List.pairwise_iff_forall_sublist]
      intro a b hab
      exact (List.pairwise_cons.1 (h [a, b] hab (by simp)).2).1 b (.head _)

/-- Shapes that are chosen by their indices, each at most once, keep their blocks. -/
theorem emit_map_get (h : emit s m shapes = .ok blocks) (hlength : blocks.length = shapes.length)
    {chosen : List (Fin shapes.length)} (hchosen : chosen.Nodup) :
    emit s m (chosen.map shapes.get) =
      .ok (chosen.map fun i => blocks.get (i.cast hlength.symm)) := by
  rw [emit_ok_iff, duplicateFault?_nil_eq_none_iff] at h ⊢
  obtain ⟨⟨hkeys, hdistinct⟩, hblocks⟩ := h
  refine ⟨⟨fun a ha => ?_, ?_⟩, ?_⟩
  · obtain ⟨i, -, rfl⟩ := List.mem_map.1 ha
    exact hkeys _ (List.get_mem _ _)
  · rw [List.pairwise_map]
    refine hchosen.imp fun {i j} hij => ?_
    rw [List.pairwise_iff_getElem] at hdistinct
    rcases Nat.lt_or_gt_of_ne (Fin.val_ne_of_ne hij) with hlt | hlt
    · exact hdistinct i j i.isLt j.isLt hlt
    · exact (hdistinct j i j.isLt i.isLt hlt).symm
  · rw [List.forall₂_map_left_iff, List.forall₂_map_right_iff, List.forall₂_same]
    intro i _
    exact hblocks.get i.isLt (i.cast hlength.symm).isLt

/-- Shapes in another order have the same blocks in another order. -/
theorem emit_perm (h : emit s m shapes = .ok blocks) {shapes' : List RowShape}
    (hperm : shapes'.Perm shapes) :
    ∃ blocks', emit s m shapes' = .ok blocks' ∧ blocks'.Perm blocks := by
  rw [emit_ok_iff, duplicateFault?_nil_eq_none_iff] at h
  obtain ⟨⟨hkeys, hdistinct⟩, hblocks⟩ := h
  obtain ⟨blocks', hblocks', hperm'⟩ := List.perm_comp_forall₂ hperm hblocks
  have hdistinct' : shapes'.Pairwise fun a b => a.key? ≠ b.key? :=
    (hperm.pairwise_iff fun h => Ne.symm h).2 hdistinct
  have hkeys' : ∀ a ∈ shapes', a.key? ≠ none := fun a ha => hkeys a (hperm.subset ha)
  have hnone := duplicateFault?_nil_eq_none_iff.2 ⟨hkeys', hdistinct'⟩
  exact ⟨blocks', emit_ok_iff.2 ⟨hnone, hblocks'⟩, hperm'⟩

/-- **Shapes are emitted each for itself.** A list of shapes is emitted exactly if each of them has
a key and a block and no two have the same key; so it is emitted exactly if every part of at most
two of them is. Then each shape has its own block, in order; every choice of the shapes, in any
order, is emitted too, and each keeps its block; another order of all shapes gives another order of
all blocks. -/
theorem emit_selection (s : Settings) (m : TypeMap) (shapes : List RowShape) :
    ((∃ blocks, emit s m shapes = .ok blocks) ↔
      (∀ a ∈ shapes, a.key? ≠ none ∧ ∃ t, blockText s m a = .ok t) ∧
        shapes.Pairwise fun a b => a.key? ≠ b.key?) ∧
    ((∃ blocks, emit s m shapes = .ok blocks) ↔
      ∀ few, few.Sublist shapes → few.length ≤ 2 → ∃ blocks, emit s m few = .ok blocks) ∧
    ∀ blocks, emit s m shapes = .ok blocks →
      List.Forall₂ (fun shape b => blockText s m shape = .ok b) shapes blocks ∧
      ∃ hlength : blocks.length = shapes.length,
        (∀ chosen : List (Fin shapes.length), chosen.Nodup →
          emit s m (chosen.map shapes.get) =
            .ok (chosen.map fun i => blocks.get (i.cast hlength.symm))) ∧
        ∀ shapes', shapes'.Perm shapes →
          ∃ blocks', emit s m shapes' = .ok blocks' ∧ blocks'.Perm blocks := by
  refine ⟨exists_emit_iff, exists_emit_iff_of_few, fun blocks h => ?_⟩
  have hblocks := (emit_ok_iff.1 h).2
  refine ⟨hblocks, hblocks.length_eq.symm, fun chosen hchosen => ?_, fun shapes' hperm => ?_⟩
  · exact emit_map_get h hblocks.length_eq.symm hchosen
  · exact emit_perm h hperm

/-- A shape with one column. -/
def badge : RowShape where
  path := ⟨⟨"staff", by decide⟩, []⟩
  name := .str "Badge"
  columns := [⟨.str "code", .str "text", .bool true, by decide⟩]
  named := by decide
  distinct := @hasDistinctNames_of_columnFault? .null _ (by decide)

/-- A shape of another name under the same path. -/
def desk : RowShape := { badge with name := .str "Desk", named := by decide }

/-- A shape of the same name under another path. -/
def visitorBadge : RowShape := { badge with path := ⟨⟨"visitors", by decide⟩, []⟩ }

/-- The first shape is left out and the other two change places. -/
theorem emit_selection_reordered :
    ∃ a b c, emit .default .builtIn [badge, desk, visitorBadge] = .ok [a, b, c] ∧
      emit .default .builtIn [visitorBadge, desk] = .ok [c, b] := by
  have h : ∃ a b c, emit .default .builtIn [badge, desk, visitorBadge] = .ok [a, b, c] :=
    ⟨_, _, _, rfl⟩
  obtain ⟨a, b, c, h⟩ := h
  obtain ⟨-, _, hchosen, -⟩ := (emit_selection _ _ _).2.2 _ h
  exact ⟨a, b, c, h, hchosen [2, 1] (by decide)⟩

end RowDecl
