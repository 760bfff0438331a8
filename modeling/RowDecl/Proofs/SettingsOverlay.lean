import RowDecl.Settings
import RowDecl.Proofs.ReadObjects

/-!
# Settings laid over the defaults

Members are laid over settings one after the other, and each gives one of them a value. When their
names are different, what comes out can be told by looking each setting up (`Settings.overlaid`): it
does not depend on the order of the members, nor on members of other names (`foldl_setNamed`,
`ofMembers_congr`). This is so for plain members only, none of which has the name of what holds the
settings; with such a member the place of the others matters.
-/

namespace RowDecl.Settings

open Json (member? HasDistinctMembers)

/-- Settings with the value of each member that names one of them. -/
def overlaid (s : Settings) (members : List (String × Json)) : Settings where
  nullablePolicy :=
    (member? members Setting.nullablePolicy.word).elim s.nullablePolicy .unchecked
  exportNamespaces := (member? members Setting.exportNamespaces.word).getD s.exportNamespaces
  addGenerationComment :=
    (member? members Setting.addGenerationComment.word).getD s.addGenerationComment
  indent := (member? members Setting.indent.word).getD s.indent
  namespaceSeparator := (member? members Setting.namespaceSeparator.word).getD s.namespaceSeparator
  typeOverrides := (member? members Setting.typeOverrides.word).getD s.typeOverrides
  listing := (member? members listingName).or s.listing

theorem overlaid_congr {s : Settings} {members members' : List (String × Json)}
    (h : ∀ name, member? members name = member? members' name) :
    s.overlaid members = s.overlaid members' := by
  simp only [overlaid, h]

theorem word_eq_iff {key key' : Setting} : key.word = key'.word ↔ key = key' := by
  refine ⟨fun h => ?_, congrArg _⟩
  have hfound := Setting.ofWord?_word key
  rw [h, Setting.ofWord?_word] at hfound
  exact (Option.some.inj hfound).symm

theorem word_ne_listingName (key : Setting) : key.word ≠ listingName := by
  cases key <;> decide

theorem overlaid_cons {n : String} {v : Json} {r : List (String × Json)} (hn : member? r n = none)
    (s : Settings) : s.overlaid ((n, v) :: r) = (s.setNamed n v).overlaid r := by
  unfold setNamed
  split
  · rename_i key hkey
    obtain rfl := Setting.word_of_ofWord? hkey
    have hlisting := word_ne_listingName key
    cases key <;> simp [overlaid, set, Json.member?_cons, hn, hlisting, word_eq_iff]
  · rename_i hkey
    have hword : ∀ key : Setting, n ≠ key.word := by
      rintro key rfl
      rw [Setting.ofWord?_word] at hkey
      cases hkey
    split
    · rename_i hlisting
      subst hlisting
      simp [overlaid, Json.member?_cons, hn, hword]
    · rename_i hlisting
      simp [overlaid, Json.member?_cons, hword, hlisting]

/-- A member that is put into an object gives its setting the last word. -/
theorem overlaid_put (s : Settings) (members : List (String × Json)) (key : Setting) (v : Json) :
    s.overlaid (Json.put members key.word v) = (s.overlaid members).set key v := by
  have hlisting := word_ne_listingName key
  cases key <;> simp [overlaid, set, Json.member?_put, hlisting, word_eq_iff]

/-- Members of different names are laid over settings in any order. -/
theorem foldl_setNamed : ∀ {members : List (String × Json)}, HasDistinctMembers members →
    ∀ s : Settings, members.foldl (fun s m => s.setNamed m.1 m.2) s = s.overlaid members
  | [], _, s => rfl
  | (n, v) :: r, h, s => by
    obtain ⟨hn, hr⟩ := List.nodup_cons.1 h
    rw [List.foldl_cons, foldl_setNamed hr, overlaid_cons (Json.member?_eq_none_iff.2 hn)]

/-! ## Plain members -/

/-- No member has the name of what holds the settings. -/
def Plain (members : List (String × Json)) : Prop :=
  ∀ m ∈ members, Internal.ofWord? m.1 = none

instance (members : List (String × Json)) : Decidable (Plain members) :=
  inferInstanceAs (Decidable (∀ m ∈ members, _))

theorem ofWord?_internal_word (key : Setting) : Internal.ofWord? key.word = none := by
  cases key <;> decide

theorem Plain.put {members : List (String × Json)} (h : Plain members) (key : Setting) (v : Json) :
    Plain (Json.put members key.word v) := by
  intro m hm
  have hname : m.1 ∈ (Json.put members key.word v).map (·.1) := List.mem_map_of_mem hm
  rw [Json.map_fst_put] at hname
  have hold : m.1 ∈ members.map (·.1) → Internal.ofWord? m.1 = none := by
    intro hmem
    obtain ⟨m', hm', hsame⟩ := List.mem_map.1 hmem
    exact hsame ▸ h m' hm'
  split at hname
  · exact hold hname
  · rcases List.mem_append.1 hname with hname | hname
    · exact hold hname
    · rw [List.mem_singleton.1 hname, ofWord?_internal_word]

/-- A name that is not that of what holds the settings gives one of them a value. -/
theorem Draft.assign_of_plain {name : String} (h : Internal.ofWord? name = none) (s : Settings)
    (v : Json) : Draft.assign ⟨s, true⟩ name v = .ok ⟨s.setNamed name v, true⟩ := by
  simp [Draft.assign, h]

theorem Draft.foldlM_assign : ∀ {members : List (String × Json)}, Plain members →
    ∀ s : Settings, members.foldlM (fun d m => Draft.assign d m.1 m.2) ⟨s, true⟩ =
      .ok ⟨members.foldl (fun s m => s.setNamed m.1 m.2) s, true⟩
  | [], _, s => rfl
  | m :: r, h, s => by
    obtain ⟨hm, hr⟩ := List.forall_mem_cons.1 h
    rw [List.foldlM_cons, assign_of_plain hm, ok_sequence, foldlM_assign hr]
    rfl

/-- Members that are accepted are plain, unless one replaces the table of values: what else holds
the settings cannot be given a value. -/
theorem plain_of_ofMembers_ok {members : List (String × Json)} {settings : Settings}
    (htable : member? members Internal.table.word = none) (h : ofMembers members = .ok settings) :
    Plain members := by
  simp only [ofMembers, sequence_ok_iff, mapError_ok_iff] at h
  obtain ⟨d, hd, -⟩ := h
  have hnames : ∀ m ∈ [] ++ members,
      Internal.ofWord? m.1 = none ∨ m.1 = Internal.table.word := by
    refine foldlM_ok_induction (P := fun done _ => ∀ m ∈ done,
      Internal.ofWord? m.1 = none ∨ m.1 = Internal.table.word) ?_ [] (by simp) hd
    intro done d m d' hdone hassign
    rw [List.forall_mem_append, List.forall_mem_singleton]
    refine ⟨hdone, ?_⟩
    unfold Draft.assign at hassign
    split at hassign
    · rename_i hword
      have hfound : Internal.table.word = m.1 := by simpa using List.find?_some hword
      exact .inr hfound.symm
    · cases hassign
    · cases hassign
    · exact .inl ‹_›
  rw [Json.member?_eq_none_iff] at htable
  intro m hm
  exact (hnames m hm).resolve_right fun h => htable (h ▸ List.mem_map_of_mem hm)

/-- Plain members are laid over the defaults and checked. -/
theorem ofMembers_of_plain {members : List (String × Json)} (h : Plain members) :
    ofMembers members = Draft.check ⟨overlayDefault members, true⟩ := by
  rw [ofMembers, Draft.foldlM_assign h]
  rfl

section
variable {members members' : List (String × Json)}

theorem checkPolicy_ok_iff {s settings : Settings} :
    s.checkPolicy = .ok settings ↔
      ∃ p, s.nullablePolicy.check = .ok p ∧ { s with nullablePolicy := .policy p } = settings := by
  simp [checkPolicy]

/-- The settings that members give: what is laid over the defaults, with a policy that is checked
and overrides that are an object. -/
theorem ofMembers_ok_iff (h : HasDistinctMembers members) (hplain : Plain members)
    {settings : Settings} :
    ofMembers members = .ok settings ↔
      (default.overlaid members).checkPolicy = .ok settings ∧ settings.overrides?.isSome := by
  rw [ofMembers_of_plain hplain, overlayDefault, foldl_setNamed h]
  simp only [Draft.check, sequence_ok_iff, if_true]
  constructor
  · rintro ⟨s, hs, hsettings⟩
    split at hsettings
    · rename_i hoverrides
      simp only [pure_ok_iff] at hsettings
      subst hsettings
      exact ⟨hs, by rw [hoverrides]; rfl⟩
    · cases hsettings
  · rintro ⟨hs, hoverrides⟩
    obtain ⟨overrides, hoverrides⟩ := Option.isSome_iff_exists.1 hoverrides
    exact ⟨settings, hs, by rw [hoverrides]; rfl⟩

/-- Settings depend on what is found under each name only. -/
theorem ofMembers_congr (h : HasDistinctMembers members) (h' : HasDistinctMembers members')
    (hplain : Plain members) (hsame : ∀ name, member? members name = member? members' name) :
    ofMembers members = ofMembers members' := by
  have hplain' : Plain members' := by
    intro m hm
    have hfound := hsame m.1
    rw [(Json.member?_eq_some_iff h').2 hm, Json.member?_eq_some_iff h] at hfound
    exact hplain _ hfound
  rw [ofMembers_of_plain hplain, ofMembers_of_plain hplain', overlayDefault, overlayDefault,
    foldl_setNamed h, foldl_setNamed h', overlaid_congr hsame]

end

end RowDecl.Settings
