import RowDecl.Declaration.Document
import RowDecl.Proofs.Outcome

/-!
# What is emitted

Inversion of the way from row shapes to a document. `ofShape_ok`: the fields of a shape stand for
its columns one by one (`IsFieldOf`), and every name is a text. `render_ok_iff`: a document is the
texts of the blocks, one for each shape, where no shape is declared twice. `token_mem`: the tokens
of a type map are built in or come from an override.
-/

namespace RowDecl

/-! ## Types -/

/-- The tokens that the built-in tags have. -/
def builtInTokens : List Json := [.str "number", .str "string", .str "boolean"]

theorem mem_of_member? {members : List (String × Json)} {name : String} {v : Json}
    (h : Json.member? members name = some v) : v ∈ members.map (·.2) := by
  induction members with
  | nil => simp at h
  | cons p r ih =>
    obtain ⟨n, w⟩ := p
    rw [Json.member?_cons] at h
    split at h
    · cases h; simp
    · simp only [List.map_cons, List.mem_cons]
      exact .inr (ih h)

namespace TypeMap

theorem builtIn_token {tag : String} {v : Json} (h : builtIn.find? tag = some v) :
    v ∈ builtInTokens := by
  have key : ∀ w ∈ builtIn.entries.map (·.2), w ∈ builtInTokens := by decide
  exact key v (mem_of_member? h)

/-- A token of a type map is built in or is the token of an override. -/
theorem token_mem {overrides : List (String × Json)} {tag : String} {v : Json}
    (h : (ofOverrides overrides).find? tag = some v) :
    v ∈ builtInTokens ∨ v ∈ overrides.map (·.2) := by
  have key : ∀ (os : List (String × Json)) (m : TypeMap),
      (∀ w, m.find? tag = some w → w ∈ builtInTokens ∨ w ∈ overrides.map (·.2)) →
      (∀ o ∈ os, o.2 ∈ overrides.map (·.2)) →
      (os.foldl (fun m o => m.insert o.1 o.2) m).find? tag = some v →
      v ∈ builtInTokens ∨ v ∈ overrides.map (·.2) := by
    intro os
    induction os with
    | nil => exact fun m hm _ hv => hm v hv
    | cons o os ih =>
      intro m hm ho hv
      refine ih _ (fun w hw => ?_) (fun o' ho' => ho o' (.tail _ ho')) hv
      rw [find?_insert] at hw
      split at hw
      · cases hw; exact .inr (ho o (.head _))
      · exact hm w hw
  exact key overrides builtIn (fun w hw => .inl (builtIn_token hw))
    (fun o ho => List.mem_map_of_mem ho) h

end TypeMap

/-! ## Fields -/

/-- `f` is the field of column `c`: the name in camel case, the token of the type, and the rest as
it is. -/
def IsFieldOf (m : TypeMap) (c : Column) (f : Field) : Prop :=
  ∃ n tag token, c.sourceName = .str n ∧ c.nativeType = .str tag ∧ m.find? tag = some token ∧
    f = ⟨.str (String.ofList (Name.camelCase n.toList)), token, c.nullable, .str n⟩

theorem token_ok_iff {m : TypeMap} {nativeType column shape token : Json} :
    m.token nativeType column shape = .ok token ↔
      ∃ tag, nativeType = .str tag ∧ m.find? tag = some token := by
  cases nativeType with
  | str tag =>
    simp only [TypeMap.token]
    cases hm : m.find? tag <;> simp [hm]
  | _ => simp [TypeMap.token]

namespace Field

/-- A column has a field exactly if its type has a token; a name that can be compared is a text
then. -/
theorem ofColumn_ok_iff {m : TypeMap} {shape : Json} {c : Column} {f : Field}
    (hk : c.sourceName.key? ≠ none) : ofColumn m shape c = .ok f ↔ IsFieldOf m c f := by
  unfold ofColumn IsFieldOf
  simp only [sequence_ok_iff, mapError_ok_iff, pure_ok_iff, token_ok_iff]
  refine ⟨fun h => ?_, fun h => ?_⟩
  · obtain ⟨token, ⟨tag, ht, hm⟩, name, hn, rfl⟩ := h
    cases hs : c.sourceName with
    | str n =>
      rw [hs] at hn
      simp only [nameOf, Except.ok.injEq] at hn
      subst hn
      exact ⟨n, tag, token, rfl, ht, hm, rfl⟩
    | arr items => simp [hs, Json.key?] at hk
    | obj members => simp [hs, Json.key?] at hk
    | _ => simp [hs, nameOf] at hn
  · obtain ⟨n, tag, token, hs, ht, hm, rfl⟩ := h
    exact ⟨token, ⟨tag, ht, hm⟩, _, by rw [hs]; rfl, by rw [hs]⟩

theorem ofColumns_ok {m : TypeMap} {shape : String} :
    ∀ {cs : List Column} {earlier fs : List Field},
      ofColumns m shape earlier cs = .ok fs →
      List.Forall₂ (fun c f => ofColumn m (.str shape) c = .ok f) cs fs
  | [], earlier, fs, h => by
    simp only [ofColumns, Except.ok.injEq] at h
    subst h
    exact .nil
  | c :: cs, earlier, fs, h => by
    simp only [ofColumns, sequence_ok_iff] at h
    obtain ⟨f, hf, h⟩ := h
    split at h
    · simp at h
    · simp only [sequence_ok_iff, pure_ok_iff] at h
      obtain ⟨fs', hfs, rfl⟩ := h
      exact .cons hf (ofColumns_ok hfs)

/-- Fields have other names than the fields before them. -/
theorem ofColumns_distinct {m : TypeMap} {shape : String} :
    ∀ {cs : List Column} {earlier fs : List Field},
      ofColumns m shape earlier cs = .ok fs →
      (∀ f ∈ fs, ∀ g ∈ earlier, g.name ≠ f.name) ∧ fs.Pairwise fun f g => f.name ≠ g.name
  | [], earlier, fs, h => by
    simp only [ofColumns, Except.ok.injEq] at h
    subst h
    simp
  | c :: cs, earlier, fs, h => by
    simp only [ofColumns, sequence_ok_iff] at h
    obtain ⟨f, -, h⟩ := h
    split at h
    · simp at h
    · rename_i hnone
      simp only [sequence_ok_iff, pure_ok_iff] at h
      obtain ⟨fs', hfs, rfl⟩ := h
      obtain ⟨hearlier, hdistinct⟩ := ofColumns_distinct hfs
      simp only [List.mem_append, List.mem_singleton] at hearlier
      have hf : ∀ g ∈ earlier, g.name ≠ f.name := by simpa using hnone
      refine ⟨?_, .cons (fun g hg => hearlier g hg f (.inr rfl)) hdistinct⟩
      rintro g (_ | ⟨_, hg⟩)
      · exact hf
      · exact fun e he => hearlier g hg e (.inl he)

/-- The fields of a shape have different names. -/
theorem ofShape_distinct {m : TypeMap} {s : RowShape} {fs : List Field}
    (h : ofShape m s = .ok fs) : fs.Pairwise fun f g => f.name ≠ g.name :=
  (ofColumns_distinct h).2

/-- The fields of a shape stand for its columns one by one. -/
theorem ofShape_ok {m : TypeMap} {s : RowShape} {fs : List Field} (h : ofShape m s = .ok fs) :
    List.Forall₂ (IsFieldOf m) s.columns fs := by
  have hcs := (List.forall₂_and_left _ _).2 ⟨s.distinct.1, ofColumns_ok h⟩
  exact hcs.imp fun c f ⟨hk, hf⟩ => (ofColumn_ok_iff hk).1 hf

end Field

/-! ## Blocks and documents -/

/-- The declaration name of a shape is a text that passes for an identifier. -/
def RowShape.IdentifierNamed (s : RowShape) : Prop :=
  ∃ n, s.name = .str n ∧ Name.isIdentifier n.toList = true

theorem blockText_ok_iff {s : Settings} {m : TypeMap} {shape : RowShape} {t : String} :
    blockText s m shape = .ok t ↔
      ∃ fields, Field.ofShape m shape = .ok fields ∧
        ∃ block, Block.ofShape s shape fields = .ok block ∧ block.text = t := by
  simp [blockText]

theorem emit_ok_iff {s : Settings} {m : TypeMap} {shapes : List RowShape} {blocks : List String} :
    emit s m shapes = .ok blocks ↔
      duplicateFault? [] shapes = none ∧
        List.Forall₂ (fun shape b => blockText s m shape = .ok b) shapes blocks := by
  unfold emit
  cases duplicateFault? [] shapes <;> simp [mapM_ok_iff]

theorem render_ok_iff {s : Settings} {m : TypeMap} {shapes : List RowShape} {t : String} :
    render s m shapes = .ok t ↔
      duplicateFault? [] shapes = none ∧
        ∃ blocks, List.Forall₂ (fun shape b => blockText s m shape = .ok b) shapes blocks ∧
          joinBlocks blocks = t := by
  simp only [render, mapped_ok_iff, emit_ok_iff, and_assoc, exists_and_left]

end RowDecl
