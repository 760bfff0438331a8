import Mathlib.Data.List.Nodup
import RowDecl.Json.Reader
import RowDecl.Proofs.Outcome

/-!
# Objects that are read

A name that comes twice in an object gets its last value, at its first place. So however a document
is written, the members of the object that is read have different names (`distinct_of_read`), and
what is read of it can be told by `member?` alone.
-/

namespace RowDecl.Json

/-- The members of an object have different names. -/
def HasDistinctMembers (members : List (String × Json)) : Prop := (members.map (·.1)).Nodup

theorem member?_eq_none_iff {members : List (String × Json)} {name : String} :
    member? members name = none ↔ name ∉ members.map (·.1) := by
  induction members with
  | nil => simp
  | cons p r ih =>
    obtain ⟨n, v⟩ := p
    rw [member?_cons, List.map_cons, List.mem_cons, not_or, ← ih]
    split
    · rename_i h
      simp [h]
    · rename_i h
      simp [Ne.symm h]

/-- Under different names, what is found under a name is what is listed with it. -/
theorem member?_eq_some_iff {members : List (String × Json)} (h : HasDistinctMembers members)
    {name : String} {v : Json} : member? members name = some v ↔ (name, v) ∈ members := by
  induction members with
  | nil => simp
  | cons p r ih =>
    obtain ⟨n, w⟩ := p
    obtain ⟨hn, hr⟩ := List.nodup_cons.1 h
    rw [member?_cons, List.mem_cons, Prod.mk.injEq]
    split
    · rename_i heq
      subst heq
      have hnone : (n, v) ∉ r := fun hmem => hn (List.mem_map.2 ⟨_, hmem, rfl⟩)
      simp [hnone, eq_comm]
    · rename_i hne
      rw [ih hr]
      simp [Ne.symm hne]

/-- A member that is put keeps its place or comes last. -/
theorem map_fst_put (members : List (String × Json)) (name : String) (value : Json) :
    (put members name value).map (·.1) =
      if name ∈ members.map (·.1) then members.map (·.1) else members.map (·.1) ++ [name] := by
  induction members with
  | nil => simp [put]
  | cons p r ih =>
    obtain ⟨n, v⟩ := p
    by_cases h : n = name
    · simp [put, h]
    · simp only [put, if_neg h, List.map_cons, ih, List.mem_cons, Ne.symm h, false_or]
      split <;> simp

theorem HasDistinctMembers.put {members : List (String × Json)} (h : HasDistinctMembers members)
    (name : String) (value : Json) : HasDistinctMembers (put members name value) := by
  unfold HasDistinctMembers at h ⊢
  rw [map_fst_put]
  split
  · exact h
  · rename_i hnew
    rw [List.nodup_append]
    refine ⟨h, List.nodup_singleton _, fun n hn m hm hnm => hnew ?_⟩
    rw [← List.mem_singleton.1 hm, ← hnm]
    exact hn

section
variable {m : Reader} {room : Nat}

/-- Members are read as an object with different names. The recursion is that of the reader, which
puts one member after the other. -/
theorem readMembers_ok {done : List (String × Json)} {s : List Char} {v : Json} {rest : Rest s}
    (hdone : HasDistinctMembers done) (h : readMembers m room done s = .ok (v, rest)) :
    ∃ members, v = .obj members ∧ HasDistinctMembers members := by
  induction hlength : s.length using Nat.strongRecOn generalizing done s with
  | ind n ih =>
    unfold readMembers at h
    split at h
    · split at h
      · cases h
      · split at h
        · dsimp only at h
          split at h
          · cases h
          · split at h
            · cases h
              exact ⟨_, rfl, hdone.put _ _⟩
            · split at h
              · cases h
                rename_i _ r _ name a ha _ b hcolon _ v c hc _ t hcomma _ rest' hmembers
                have hshorter : (skipGap t).length < n := by
                  have := length_lt_of_skipGap hcolon
                  have := length_lt_of_skipGap hcomma
                  have := skipGap_le b
                  have := skipGap_le t
                  rw [← hlength, List.length_cons]
                  omega
                exact ih _ hshorter (hdone.put _ _) hmembers rfl
              · cases h
            · cases h
        · cases h
    · cases h

/-- Items are read as an array. -/
theorem readItems_ok {done : List Json} {s : List Char} {v : Json} {rest : Rest s}
    (h : readItems m room done s = .ok (v, rest)) : ∃ items, v = .arr items := by
  induction hlength : s.length using Nat.strongRecOn generalizing done s with
  | ind n ih =>
    unfold readItems at h
    split at h
    · cases h
    · split at h
      · cases h
        exact ⟨_, rfl⟩
      · dsimp only at h
        split at h
        · cases h
          rename_i _ v r hr _ t hcomma _ rest' hitems
          have hshorter : (skipGap t).length < n := by
            have := length_lt_of_skipGap hcomma
            have := skipGap_le t
            omega
          exact ih _ hshorter hitems rfl
        · cases h
      · cases h

theorem readNumber_ne_obj {s r : List Char} {members : List (String × Json)} :
    readNumber m s ≠ .ok (.obj members, r) := by
  intro h
  unfold readNumber at h
  dsimp only at h
  split at h
  · cases h
  · split at h
    · split at h <;> cases h
    · cases h

/-- A word or a number is no object. -/
theorem readScalar_ne_obj {s : List Char} {members : List (String × Json)} {rest : Rest s} :
    readScalar m s ≠ .ok (.obj members, rest) := by
  intro h
  unfold readScalar at h
  split at h
  · rename_i w v hword
    split at h
    · cases h
      have hmem := List.mem_of_find?_eq_some hword
      simp [words] at hmem
    · cases h
  · split at h
    · cases h
    · rename_i hnumber
      split at h
      · cases h
        exact readNumber_ne_obj hnumber
      · cases h

theorem readValue_ok {s : List Char} {members : List (String × Json)} {rest : Rest s}
    (h : readValue m room s = .ok (.obj members, rest)) : HasDistinctMembers members := by
  unfold readValue at h
  split at h
  · split at h <;> cases h
  · split at h
    · cases h
    · split at h
      · cases h
      · split at h
        · rename_i hitems
          obtain ⟨items, rfl⟩ := readItems_ok hitems
          cases h
        · cases h
  · split at h
    · cases h
    · split at h
      · cases h
        exact List.nodup_nil
      · split at h
        · rename_i hmembers
          have hnone : HasDistinctMembers [] := List.nodup_nil
          obtain ⟨members', rfl, hdistinct⟩ := readMembers_ok hnone hmembers
          cases h
          exact hdistinct
        · cases h
  · exact absurd h readScalar_ne_obj

/-- The members of an object that is read have different names. -/
theorem distinct_of_read {doc : String} {members : List (String × Json)}
    (h : read m doc = .ok (.obj members)) : HasDistinctMembers members := by
  unfold read readAll at h
  rw [mapError_ok_iff] at h
  split at h
  · cases h
  · simp only [sequence_ok_iff] at h
    obtain ⟨⟨v, rest⟩, hvalue, h⟩ := h
    dsimp only at h
    split at h
    · simp only [pure_ok_iff] at h
      exact readValue_ok (h ▸ hvalue)
    · cases h

end

end RowDecl.Json
