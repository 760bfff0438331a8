import RowDecl.Store.Write

/-!
# What a write leaves behind

A write goes through several stores: directories are made, the temporary file is there, the target
is replaced or the temporary file is gone again. `Grown s t` is the invariant of all of them but the
replacement: `t` is `s` with directories where nothing was. `write_cases` says what is left at the
end: after a failure a grown store, after a success a grown store with the bytes of the content at
the target. `makeDirectories_resolve` tells which directory is reached, `makeDirectories_changed`
which directories may be new, `node?_write_fresh` that the temporary file is gone.
-/

namespace RowDecl

/-! ## Routes -/

namespace Route

/-- The last step of a route can name a file. -/
def NamesFile (r : Route) : Prop := r.name ≠ "" ∧ r.name ≠ stepUp

theorem foldl_step_of_not_mem : ∀ {steps : List String}, stepUp ∉ steps → ∀ here : Address,
    steps.foldl step here = here ++ steps
  | [], _, here => (List.append_nil here).symm
  | s :: r, hup, here => by
    simp only [List.mem_cons, not_or] at hup
    rw [List.foldl_cons, foldl_step_of_not_mem hup.2, step, if_neg (Ne.symm hup.1),
      List.append_assoc]
    rfl

/-- A route with a last step leads to that name in the directory that the rest leads to. -/
theorem resolve_of_namesFile {r : Route} (h : r.NamesFile) (cwd : Address) :
    r.resolve cwd = r.parent.resolve cwd ++ [r.name] := by
  obtain ⟨hname, hup⟩ := h
  have hsteps : r.steps = r.parent.steps ++ [r.name] := by
    unfold name at hname
    cases hlast : r.steps.getLast? with
    | none => simp [hlast] at hname
    | some n =>
      obtain ⟨init, hinit⟩ := List.getLast?_eq_some_iff.1 hlast
      simp [parent, name, hinit]
  rw [resolve, hsteps, List.foldl_append, List.foldl_cons, List.foldl_nil, step, if_neg hup]
  rfl

end Route

namespace Store

/-- The bytes of the file at an address, if a file is there. -/
def file? (s : Store) (a : Address) : Option ByteArray :=
  match s.node? a with
  | some (.file content) => some content
  | _ => none

theorem file?_eq_some_iff {s : Store} {a : Address} {bytes : ByteArray} :
    s.file? a = some bytes ↔ s.node? a = some (.file bytes) := by
  unfold file?
  split
  · rename_i content hfile
    simp [hfile]
  · rename_i hnone
    exact iff_of_false nofun (hnone bytes)

/-! ## Grown stores -/

/-- `t` is `s` with directories at addresses where nothing was. -/
def Grown (s t : Store) : Prop :=
  ∀ a, t.node? a = s.node? a ∨ s.node? a = none ∧ t.node? a = some .directory

theorem Grown.refl (s : Store) : Grown s s := fun _ => .inl rfl

theorem Grown.trans {s t u : Store} (h₁ : Grown s t) (h₂ : Grown t u) : Grown s u := by
  intro a
  rcases h₁ a with h₁ | ⟨hs, ht⟩ <;> rcases h₂ a with h₂ | ⟨ht', hu⟩
  · exact .inl (h₂.trans h₁)
  · exact .inr ⟨h₁ ▸ ht', hu⟩
  · exact .inr ⟨hs, h₂.trans ht⟩
  · rw [ht] at ht'; cases ht'

theorem Grown.of_node?_eq {s t u : Store} (h : Grown s t) (hu : ∀ a, u.node? a = t.node? a) :
    Grown s u := by
  intro a
  rw [hu]
  exact h a

theorem grown_put_directory {s : Store} {a : Address} (ha : a ≠ []) (h : s.node? a = none) :
    Grown s (s.put a .directory) := by
  intro b
  rw [node?_put ha]
  split
  · rename_i hb
    exact .inr ⟨hb ▸ h, rfl⟩
  · exact .inl rfl

/-- The files of a grown store are those that were there. -/
theorem Grown.file? {s t : Store} (h : Grown s t) (a : Address) : t.file? a = s.file? a := by
  unfold Store.file?
  rcases h a with h | ⟨hs, ht⟩
  · rw [h]
  · rw [hs, ht]

/-- The directories of a store are those of what it has grown into. -/
theorem Grown.directory {s t : Store} (h : Grown s t) {a : Address}
    (ha : s.node? a = some .directory) : t.node? a = some .directory := by
  rcases h a with hsame | ⟨hnone, -⟩
  · exact hsame.trans ha
  · rw [ha] at hnone
    cases hnone

/-! ## Directories -/

theorem makeDirectories_grown : ∀ (steps : List String) (s : Store) (here : Address) (made : Bool),
    Grown s (s.makeDirectories here made steps).1
  | [], s, here, made => Grown.refl s
  | step :: r, s, here, made => by
    have hne : here ++ [step] ≠ [] := by simp
    unfold makeDirectories
    split
    · exact makeDirectories_grown r s _ made
    · split
      · exact Grown.refl s
      · split
        · exact makeDirectories_grown r s _ made
        · exact Grown.refl s
        · rename_i hnone
          split
          · exact Grown.refl s
          · exact (grown_put_directory hne hnone).trans (makeDirectories_grown r _ _ true)

/-- The directory that is reached is where the steps lead. -/
theorem makeDirectories_resolve : ∀ {steps : List String} {s t : Store} {here dir : Address}
    {made : Bool}, s.makeDirectories here made steps = (t, .ok dir) →
    dir = steps.foldl Route.step here
  | [], s, t, here, dir, made, h => by
    simp only [makeDirectories, Prod.mk.injEq, Except.ok.injEq] at h
    exact h.2.symm
  | step :: r, s, t, here, dir, made, h => by
    unfold makeDirectories at h
    rw [List.foldl_cons, Route.step]
    split at h
    · rename_i hup
      rw [if_pos hup]
      exact makeDirectories_resolve h
    · rename_i hup
      rw [if_neg hup]
      split at h
      · cases h
      · split at h
        · exact makeDirectories_resolve h
        · cases h
        · split at h
          · cases h
          · exact makeDirectories_resolve h

/-- Where a node has changed, some of the steps lead. -/
theorem makeDirectories_changed : ∀ {steps : List String} {s : Store} {here a : Address}
    {made : Bool}, (s.makeDirectories here made steps).1.node? a ≠ s.node? a →
    ∃ p, p ≠ [] ∧ p <+: steps ∧ a = p.foldl Route.step here
  | [], s, here, a, made, h => absurd rfl h
  | step :: r, s, here, a, made, h => by
    -- What changed behind the first step.
    have behind : ∀ {s : Store} {made : Bool},
        (s.makeDirectories (Route.step here step) made r).1.node? a ≠ s.node? a →
        ∃ p, p ≠ [] ∧ p <+: step :: r ∧ a = p.foldl Route.step here := by
      intro s made h
      obtain ⟨p, -, hp, ha⟩ := makeDirectories_changed h
      exact ⟨step :: p, by simp, List.cons_prefix_cons.2 ⟨rfl, hp⟩, ha⟩
    unfold makeDirectories at h
    split at h
    · rename_i hup
      exact behind (by rwa [Route.step, if_pos hup])
    · rename_i hup
      have hstep : Route.step here step = here ++ [step] := if_neg hup
      rw [hstep] at behind
      split at h
      · exact absurd rfl h
      · split at h
        · exact behind h
        · exact absurd rfl h
        · split at h
          · exact absurd rfl h
          · by_cases ha : a = here ++ [step]
            · exact ⟨[step], by simp, List.cons_prefix_cons.2 ⟨rfl, List.nil_prefix⟩,
                ha.trans hstep.symm⟩
            · refine behind fun hsame => h (hsame.trans ?_)
              rw [node?_put (by simp), if_neg ha]

/-! ## Files -/

theorem temporaryFault?_congr {s t : Store} (h : t.unwritable = s.unwritable) (dir : Address)
    (name : String) : t.temporaryFault? dir name = s.temporaryFault? dir name := by
  rw [temporaryFault?, temporaryFault?, h]

/-- A temporary file that is gone again was never there. -/
theorem node?_erase_put_fresh (s : Store) (dir : Address) (name : String) (n : Node) (a : Address) :
    ((s.put (dir ++ [s.freshName name]) n).erase (dir ++ [s.freshName name])).node? a =
      s.node? a := by
  have hne : dir ++ [s.freshName name] ≠ [] := by simp
  rw [node?_erase hne, node?_put hne]
  split
  · rename_i ha
    rw [ha, node?_fresh]
  · rfl

/-- A temporary file has another name than the file that it is for. -/
theorem freshName_ne (s : Store) (name : String) : s.freshName name ≠ name := by
  intro h
  have hlength := congrArg (·.toList.length) h
  simp [freshName] at hlength
  omega

theorem rename_ok {s t : Store} {dir : Address} {source : String} {target : Route}
    {content : ByteArray} (h : s.rename dir source target content = .ok t) :
    target.NamesFile ∧ s.node? (dir ++ [target.name]) ≠ some .directory ∧
      t = (s.erase (dir ++ [source])).put (dir ++ [target.name]) (.file content) := by
  unfold rename at h
  split at h
  · cases h
  · split at h
    · cases h
    · rename_i hname
      split at h
      · cases h
      · rename_i hdir
        exact ⟨not_or.1 hname, hdir, (Except.ok.inj h).symm⟩

/-- A write into a directory puts the content in its place or changes nothing. -/
theorem writeIn_cases {s t : Store} {dir : Address} {target : Route} {content : String}
    {check : String → Except Error Unit} {r : Except Error Unit}
    (h : s.writeIn dir target content check = (t, r)) :
    ((∃ e, r = .error e) ∧ ∀ a, t.node? a = s.node? a) ∨
      (r = .ok () ∧ target.NamesFile ∧ check content = .ok () ∧
        s.node? (dir ++ [target.name]) ≠ some .directory ∧
        ∀ a, t.node? a =
          if a = dir ++ [target.name] then some (.file content.toUTF8) else s.node? a) := by
  unfold writeIn at h
  split at h
  · cases h
    exact .inl ⟨⟨_, rfl⟩, fun _ => rfl⟩
  · dsimp only at h
    split at h
    · cases h
      exact .inl ⟨⟨_, rfl⟩, node?_erase_put_fresh s dir target.name _⟩
    · rename_i hcheck
      split at h
      · cases h
        exact .inl ⟨⟨_, rfl⟩, node?_erase_put_fresh s dir target.name _⟩
      · rename_i moved hmoved
        cases h
        obtain ⟨hname, hdir, rfl⟩ := rename_ok hmoved
        refine .inr ⟨rfl, hname, hcheck, fun hs => hdir ?_, fun a => ?_⟩
        · rw [node?_put (by simp)]
          split
          · rename_i hsource
            rw [hsource, node?_fresh] at hs
            cases hs
          · exact hs
        · rw [node?_put (by simp), node?_erase_put_fresh]

/-- Where nothing may be made is not changed by a write into a directory. -/
theorem unwritable_writeIn (s : Store) (dir : Address) (target : Route) (content : String)
    (check : String → Except Error Unit) :
    (s.writeIn dir target content check).1.unwritable = s.unwritable := by
  unfold writeIn
  split
  · rfl
  · dsimp only
    split
    · rfl
    · split
      · rfl
      · rename_i moved hmoved
        obtain ⟨-, -, rfl⟩ := rename_ok hmoved
        rfl

/-- The stages of a write: the path is not followed at all, a directory on the way cannot be made,
or the directory is reached and written into. -/
theorem write_stages {s t : Store} {cwd : Address} {target : Route} {content : String}
    {check : String → Except Error Unit} {r : Except Error Unit}
    (h : s.write cwd target content check = (t, r)) :
    (t = s ∧ ∃ e, r = .error e) ∨
      (∃ fault, s.makeDirectories (target.start cwd) false target.parent.steps = (t, .error fault) ∧
        r = .error (.file fault)) ∨
      ∃ made dir,
        s.makeDirectories (target.start cwd) false target.parent.steps = (made, .ok dir) ∧
          made.writeIn dir target content check = (t, r) := by
  unfold write at h
  split at h
  · cases h
    exact .inl ⟨rfl, _, rfl⟩
  · split at h
    · cases h
      exact .inl ⟨rfl, _, rfl⟩
    · split at h
      · rename_i fault hmade
        cases h
        exact .inr (.inl ⟨fault, hmade, rfl⟩)
      · rename_i made dir hmade
        exact .inr (.inr ⟨made, dir, hmade, h⟩)

section
variable {s t : Store} {cwd : Address} {target : Route} {content : String}
  {check : String → Except Error Unit} {r : Except Error Unit}

/-- A write that fails leaves a grown store; one that succeeds has the bytes of its content in a
grown store, where its route leads to and no directory is. -/
theorem write_cases (h : s.write cwd target content check = (t, r)) :
    ((∃ e, r = .error e) ∧ Grown s t) ∨
      (r = .ok () ∧ check content = .ok () ∧ ∃ made, Grown s made ∧
        made.node? (target.resolve cwd) ≠ some .directory ∧
        ∀ a, t.node? a =
          if a = target.resolve cwd then some (.file content.toUTF8) else made.node? a) := by
  have hgrown := makeDirectories_grown target.parent.steps s (target.start cwd) false
  rcases write_stages h with ⟨rfl, he⟩ | ⟨fault, hmade, rfl⟩ | ⟨made, dir, hmade, h⟩
  · exact .inl ⟨he, Grown.refl _⟩
  · rw [hmade] at hgrown
    exact .inl ⟨⟨_, rfl⟩, hgrown⟩
  · rw [hmade] at hgrown
    rcases writeIn_cases h with ⟨he, hsame⟩ | ⟨hok, hname, hcheck, hdir, hnodes⟩
    · exact .inl ⟨he, hgrown.of_node?_eq hsame⟩
    · have haddress : target.resolve cwd = dir ++ [target.name] := by
        rw [Route.resolve_of_namesFile hname, makeDirectories_resolve hmade]
        rfl
      rw [← haddress] at hdir hnodes
      exact .inr ⟨hok, hcheck, made, hgrown, hdir, hnodes⟩

/-- The files after a write that has succeeded. -/
theorem file?_write (h : s.write cwd target content check = (t, .ok ())) (a : Address) :
    t.file? a = if a = target.resolve cwd then some content.toUTF8 else s.file? a := by
  rcases write_cases h with ⟨⟨e, he⟩, -⟩ | ⟨-, -, made, hgrown, -, hnodes⟩
  · cases he
  · rw [← hgrown.file? a]
    by_cases ha : a = target.resolve cwd <;> simp [Store.file?, hnodes, ha]

/-- A directory that is new after a write is where some of the steps to the target lead. -/
theorem write_new_directory (h : s.write cwd target content check = (t, r)) {a : Address}
    (hs : s.node? a = none) (ht : t.node? a = some .directory) :
    ∃ p, p ≠ [] ∧ p <+: target.parent.steps ∧ a = p.foldl Route.step (target.start cwd) := by
  have hmade : (s.makeDirectories (target.start cwd) false target.parent.steps).1.node? a =
      some .directory := by
    rcases write_stages h with ⟨rfl, -⟩ | ⟨fault, hmade, -⟩ | ⟨made, dir, hmade, h⟩
    · rw [hs] at ht
      cases ht
    · rwa [hmade]
    · rw [hmade]
      rcases writeIn_cases h with ⟨-, hsame⟩ | ⟨-, -, -, -, hnodes⟩
      · rwa [← hsame]
      · rw [hnodes] at ht
        split at ht
        · cases ht
        · exact ht
  refine @makeDirectories_changed _ s _ _ false ?_
  rw [hmade, hs]
  exact nofun

/-- Where the temporary file was, there is nothing after the write. -/
theorem node?_write_fresh (h : s.write cwd target content check = (t, r)) {made : Store}
    {dir : Address}
    (hmade : s.makeDirectories (target.start cwd) false target.parent.steps = (made, .ok dir)) :
    t.node? (dir ++ [made.freshName target.name]) = none := by
  have hgrown := makeDirectories_grown target.parent.steps s (target.start cwd) false
  rw [hmade] at hgrown
  have hfresh := made.node?_fresh dir target.name
  rcases write_stages h with ⟨rfl, -⟩ | ⟨fault, hfault, -⟩ | ⟨made', dir', hmade', h⟩
  · rcases hgrown (dir ++ [made.freshName target.name]) with hsame | ⟨hnone, -⟩
    · exact hsame.symm.trans hfresh
    · exact hnone
  · rw [hmade] at hfault
    cases hfault
  · cases hmade.symm.trans hmade'
    rcases writeIn_cases h with ⟨-, hsame⟩ | ⟨-, -, -, -, hnodes⟩
    · rw [hsame, hfresh]
    · rw [hnodes, if_neg (by simpa using made.freshName_ne target.name), hfresh]

end

end Store

end RowDecl
