import RowDecl.Proofs.PathSegments
import RowDecl.Proofs.Splitting

/-!
# Paths read from their texts

A path is read back from its text exactly if the separator has a mark, a character that no segment
can hold (`parse_render_iff`). With a mark the segments are the pieces of the text
(`piecesOf_render`), and cleaning leaves them as they are. Without one the texts do not even tell
the paths apart, and with the empty separator nothing can be read.
-/

namespace RowDecl.NamespacePath

variable {separator : String}

/-- The pieces of the text of a path are its segments. -/
theorem piecesOf_render (hmark : ∃ c ∈ separator.toList, Name.isPart c = false)
    (p : NamespacePath) : piecesOf (p.render separator) separator = p.asGiven := by
  have hwords : ∀ w ∈ p.segments.map (·.text.toList), ∀ c ∈ w, Name.isPart c = true := by
    intro w hw c hc
    obtain ⟨g, -, rfl⟩ := List.mem_map.1 hw
    exact mem_of_isStrictIdentifier g.isIdentifier hc
  have hsplit : Text.split separator.toList (p.render separator).toList =
      p.segments.map (·.text.toList) := by
    rw [toList_render]
    exact Text.split_intercalate Name.isPart hmark hwords
  rw [piecesOf, hsplit, asGiven, names, List.map_map, List.map_map]
  exact List.map_congr_left fun g _ => congrArg Json.str String.ofList_toList

theorem ne_empty_of_mark (hmark : ∃ c ∈ separator.toList, Name.isPart c = false) :
    separator ≠ "" := by
  rintro rfl
  simp at hmark

/-- **Reading undoes writing exactly under a separator with a mark**, and exactly such a separator
tells all paths apart by their texts. -/
theorem parse_render_iff (separator : String) :
    ((∀ p : NamespacePath, parse (p.render separator) separator = .ok p) ↔
      ∃ c ∈ separator.toList, Name.isPart c = false) ∧
    ((Function.Injective fun p : NamespacePath => p.render separator) ↔
      ∃ c ∈ separator.toList, Name.isPart c = false) := by
  refine ⟨⟨fun hread => ?_, fun hmark p => ?_⟩, render_injective_iff⟩
  · apply render_injective_iff.1
    intro p q htext
    have hboth : (.ok p : Except Error NamespacePath) = .ok q := calc
      _ = parse (p.render separator) separator := (hread p).symm
      _ = parse (q.render separator) separator := congrArg (parse · separator) htext
      _ = .ok q := hread q
    exact Except.ok.inj hboth
  · rw [parse_ok_iff, piecesOf_render hmark]
    exact ⟨ne_empty_of_mark hmark, forall₂_asGiven.2 rfl⟩

end RowDecl.NamespacePath
