import RowDecl.Proofs.Outcome
import RowDecl.Proofs.StoreWrite
import RowDecl.Workbench

/-!
# Sessions at a workbench

`Workbench.Effect` lists the ways in which a step can change a workbench, and `effect_of_advance` is
the case analysis from which the rest follows: a step that fails leaves the workbench as it is, and
only a document that is written changes the store.

Three things hold along a session, each kept by a step and then, by induction on the steps, by all
of them. References to settings lead to settings that are there (`refersWithin_session`). A file is
one of those there were or holds a document with matching braces that a generator gave
(`file?_session`), and no file goes (`file?_isSome_session`). A generator gives the same document
until its settings are changed in place or another one is made (`document_session`): settings that
are put on the workbench later do not reach it.
-/

namespace RowDecl

namespace Step

/-- Whether a step changes settings in place. -/
def changesSettings : Step → Bool
  | .set _ _ | .override _ _ => true
  | _ => false

end Step

namespace Workbench

/-- What a step can make of a workbench. -/
inductive Effect (w : Workbench) : Step → Workbench → Prop
  | none {st : Step} : Effect w st w
  | config {source : SettingsSource} (s : Option Settings) :
    Effect w (.config source) (w.putSettings s)
  | set {key : String} {v : Json} {cell : Nat} (s : Settings) : w.current = some cell →
    Effect w (.set key v) (w.changeSettings cell s)
  | override {tag : String} {token : Json} {cell : Nat} (s : Settings) : w.current = some cell →
    Effect w (.override tag token) (w.changeSettings cell s)
  | shapes {st : Step} (shapes : List RowShape) : Effect w st { w with shapes := shapes }
  | types {st : Step} (m : TypeMap) : Effect w st { w with types := some m }
  | emitter {withTypes : Bool} (m : TypeMap) :
    Effect w (.emitter withTypes) { w with emitter := some ⟨w.current, m⟩ }
  | generator (m : TypeMap) :
    Effect w .generator { w with generator := some ⟨⟨w.current, m⟩, w.shapes⟩ }
  | write {path : String} {g : Generator} {text : String} {after : Store}
    {result : Except Error Unit} : w.generator = some g → w.document g = .ok text →
    w.store.write w.cwd (Route.parse path) text checkBraces = (after, result) →
    Effect w (.write path) { w with store := after }

section
variable {w w' : Workbench} {st : Step} {r : Reply}

/-- A step that changes the workbench by what it comes to has the effect of the change. -/
theorem Effect.of_change {α : Type} {result : Except Error α} {next : α → Workbench}
    {reply : α → Reply} (hnext : ∀ x, result = .ok x → Effect w st (next x))
    (h : (do let x ← result; return (next x, reply x)) = .ok (w', r)) : Effect w st w' := by
  simp only [sequence_ok_iff, pure_ok_iff, Prod.mk.injEq] at h
  obtain ⟨x, hx, rfl, -⟩ := h
  exact hnext x hx

/-- A step that only answers has no effect. -/
theorem Effect.of_answer {α : Type} {result : Except Error α} {reply : α → Reply}
    (h : (do w.answer (reply (← result))) = .ok (w', r)) : Effect w st w' :=
  .of_change (fun _ _ => .none) h

theorem Effect.of_absent (h : w.answer .absent = .ok (w', r)) : Effect w st w' := by
  cases h
  exact .none

/-- The effect of a step that does not fail, by cases on the step. -/
theorem effect_of_step (h : w.step st = .ok (w', r)) : Effect w st w' := by
  cases st with
  | config source =>
    simp only [step, sequence_ok_iff] at h
    obtain ⟨s, -, h⟩ := h
    cases s <;> cases h <;> exact .config _
  | set key v =>
    simp only [step] at h
    split at h
    · exact .of_absent h
    · rename_i cell hcell
      exact .of_change (fun s _ => .set s hcell) h
  | showConfig =>
    simp only [step] at h
    split at h <;> cases h <;> exact .none
  | override tag token =>
    simp only [step] at h
    split at h
    · exact .of_absent h
    · rename_i cell hcell
      exact .of_change (fun s _ => .override s hcell) h
  | shape columnsFirst path name columns =>
    simp only [step] at h
    split at h <;> exact .of_change (fun s _ => .shapes (w.shapes ++ [s])) h
  | catalog data => exact .of_change (fun more _ => .shapes (w.shapes ++ more)) h
  | drop index =>
    simp only [step] at h
    split at h
    · exact .of_absent h
    · cases h
      exact .shapes _
  | reverse =>
    cases h
    exact .shapes _
  | types => exact .of_change (fun m _ => .types m) h
  | emitter withTypes =>
    simp only [step] at h
    split at h <;> exact .of_change (fun m _ => .emitter m) h
  | generator => exact .of_change (fun m _ => .generator m) h
  | token tag column shape =>
    simp only [step] at h
    split at h
    · exact .of_absent h
    · exact .of_answer h
  | supports tag =>
    simp only [step] at h
    split at h
    · exact .of_absent h
    · exact .of_answer h
  | fields index =>
    simp only [step] at h
    split at h
    · exact .of_answer h
    · exact .of_absent h
  | emit =>
    simp only [step] at h
    split at h
    · exact .of_absent h
    · exact .of_answer h
  | render =>
    simp only [step] at h
    split at h
    · exact .of_absent h
    · exact .of_answer h
  | block index fieldsOf =>
    simp only [step] at h
    split at h
    · simp only [sequence_ok_iff] at h
      obtain ⟨fields, -, block, -, h⟩ := h
      cases h
      exact .none
    · exact .of_absent h
  | generate =>
    simp only [step] at h
    split at h
    · exact .of_absent h
    · exact .of_answer h
  | write path =>
    simp only [step] at h
    split at h
    · exact .of_absent h
    · rename_i g hg
      exact .of_change (fun text htext => .write hg htext rfl) h

/-- A step that fails has no effect. -/
theorem effect_of_advance (w : Workbench) (st : Step) : Effect w st (w.advance st).1 := by
  unfold advance
  split
  · rename_i after reply h
    exact effect_of_step h
  · exact .none

/-! ## References -/

/-- Every reference to settings leads to settings that are there. -/
structure RefersWithin (w : Workbench) : Prop where
  current : ∀ i, w.current = some i → i < w.cells.length
  emitter : ∀ e i, w.emitter = some e → e.settings = some i → i < w.cells.length
  generator : ∀ g i, w.generator = some g → g.emitter.settings = some i → i < w.cells.length

theorem refersWithin_fresh (cwd : Address) (s : Store) : (fresh cwd s).RefersWithin :=
  ⟨nofun, nofun, nofun⟩

theorem RefersWithin.effect (hw : w.RefersWithin) (h : Effect w st w') : w'.RefersWithin := by
  obtain ⟨hcurrent, hemitter, hgenerator⟩ := hw
  cases h with
  | none | shapes | types | write => exact ⟨hcurrent, hemitter, hgenerator⟩
  | config s =>
    cases s with
    | none => exact ⟨nofun, hemitter, hgenerator⟩
    | some s =>
      have hgrown : (w.putSettings (some s)).cells.length = w.cells.length + 1 := by
        simp [putSettings]
      refine ⟨fun i hi => ?_, fun e i he hi => ?_, fun g i hg hi => ?_⟩ <;> rw [hgrown]
      · cases hi
        exact Nat.lt_succ_self _
      · exact Nat.lt_succ_of_lt (hemitter e i he hi)
      · exact Nat.lt_succ_of_lt (hgenerator g i hg hi)
  | @set _ _ cell s _ | @override _ _ cell s _ =>
    have hsame : (w.changeSettings cell s).cells.length = w.cells.length := List.length_set ..
    constructor <;> rw [hsame] <;> assumption
  | emitter m =>
    refine ⟨hcurrent, fun e i he hi => ?_, hgenerator⟩
    cases he
    exact hcurrent i hi
  | generator m =>
    refine ⟨hcurrent, hemitter, fun g i hg hi => ?_⟩
    cases hg
    exact hcurrent i hi

/-- References stay within the settings along a session. -/
theorem refersWithin_session {w : Workbench} (hw : w.RefersWithin) (steps : List Step) :
    (w.session steps).1.RefersWithin := by
  induction steps generalizing w with
  | nil => exact hw
  | cons st r ih => exact ih (hw.effect (effect_of_advance w st))

/-! ## Files -/

/-- A file that is there after a step was there before it, or a document was written to it. -/
theorem file?_effect (h : Effect w st w') {a : Address} {bytes : ByteArray}
    (ha : w'.store.file? a = some bytes) :
    w.store.file? a = some bytes ∨
      ∃ path g text, st = .write path ∧ w.generator = some g ∧ w.document g = .ok text ∧
        checkBraces text = .ok () ∧ bytes = text.toUTF8 := by
  cases h with
  | write hg htext hwrite =>
    rcases Store.write_cases hwrite with ⟨-, hgrown⟩ | ⟨rfl, hcheck, -⟩
    · exact .inl (by rwa [← hgrown.file? a])
    · rw [Store.file?_write hwrite] at ha
      split at ha
      · exact .inr ⟨_, _, _, rfl, hg, htext, hcheck, (Option.some.inj ha).symm⟩
      · exact .inl ha
  | config s => cases s <;> exact .inl ha
  | _ => exact .inl ha

/-- No file goes in a step. -/
theorem file?_isSome_effect (h : Effect w st w') {a : Address}
    (ha : (w.store.file? a).isSome = true) : (w'.store.file? a).isSome = true := by
  cases h with
  | write hg htext hwrite =>
    rcases Store.write_cases hwrite with ⟨-, hgrown⟩ | ⟨rfl, -⟩
    · rwa [hgrown.file? a]
    · rw [Store.file?_write hwrite]
      split
      · rfl
      · exact ha
  | config s => cases s <;> exact ha
  | _ => exact ha

/-- **Files of a session.** A file in the end is as it was at first, or some step wrote to it what
the generator of that time gave, with matching braces. -/
theorem file?_session {w : Workbench} {steps : List Step} {a : Address} {bytes : ByteArray}
    (h : (w.session steps).1.store.file? a = some bytes) :
    w.store.file? a = some bytes ∨
      ∃ before path after g text, steps = before ++ .write path :: after ∧
        (w.session before).1.generator = some g ∧ (w.session before).1.document g = .ok text ∧
        checkBraces text = .ok () ∧ bytes = text.toUTF8 := by
  induction steps generalizing w with
  | nil => exact .inl h
  | cons st r ih =>
    rcases ih h with hfirst | ⟨before, path, after, g, text, rfl, hg, htext, hcheck, hbytes⟩
    · rcases file?_effect (effect_of_advance w st) hfirst with
        hsame | ⟨path, g, text, rfl, hg, htext, hcheck, hbytes⟩
      · exact .inl hsame
      · exact .inr ⟨[], path, r, g, text, rfl, hg, htext, hcheck, hbytes⟩
    · exact .inr ⟨st :: before, path, after, g, text, rfl, hg, htext, hcheck, hbytes⟩

/-- No file goes in a session. -/
theorem file?_isSome_session {w : Workbench} (steps : List Step) {a : Address}
    (ha : (w.store.file? a).isSome = true) :
    ((w.session steps).1.store.file? a).isSome = true := by
  induction steps generalizing w with
  | nil => exact ha
  | cons st r ih => exact ih (file?_isSome_effect (effect_of_advance w st) ha)

/-! ## Documents -/

/-- Settings that are referred to stay as they are, unless they are the current ones and are changed
in place. -/
theorem settingsAt_effect (h : Effect w st w') {cell : Option Nat}
    (hcell : ∀ i, cell = some i → i < w.cells.length)
    (hst : st.changesSettings = true → cell ≠ w.current) :
    w'.settingsAt cell = w.settingsAt cell := by
  cases cell with
  | none => cases h <;> rfl
  | some i =>
    cases h with
    | config s =>
      cases s with
      | none => rfl
      | some s =>
        simp only [settingsAt, putSettings, Option.bind_some]
        rw [List.getElem?_append_left (hcell i rfl)]
    | @set _ _ c s hc | @override _ _ c s hc =>
      have hne : c ≠ i := fun h => hst rfl (by rw [hc, h])
      simp [settingsAt, changeSettings, List.getElem?_set_ne hne]
    | _ => rfl

/-- A step keeps the generator, unless it makes one. -/
theorem generator_effect (h : Effect w st w') (hst : st ≠ .generator) :
    w'.generator = w.generator := by
  cases h with
  | config s => cases s <;> rfl
  | generator m => exact absurd rfl hst
  | _ => rfl

end

/-- **Documents of a session.** A generator gives the same document along steps that do not change
settings in place and make no other generator. -/
theorem document_session {w : Workbench} (hw : w.RefersWithin) {g : Generator}
    (hg : w.generator = some g) {steps : List Step}
    (hsteps : ∀ st ∈ steps, st.changesSettings = false ∧ st ≠ .generator) :
    (w.session steps).1.generator = some g ∧ (w.session steps).1.document g = w.document g := by
  induction steps generalizing w with
  | nil => exact ⟨hg, rfl⟩
  | cons st r ih =>
    obtain ⟨⟨hst, hne⟩, hr⟩ := List.forall_mem_cons.1 hsteps
    have heffect := effect_of_advance w st
    have hnext : (w.advance st).1.generator = some g := (generator_effect heffect hne).trans hg
    have hsettings : (w.advance st).1.settingsAt g.emitter.settings =
        w.settingsAt g.emitter.settings :=
      settingsAt_effect heffect (fun i hi => hw.generator g i hg hi) (by simp [hst])
    obtain ⟨hgenerator, hdocument⟩ := ih (hw.effect heffect) hnext hr
    exact ⟨hgenerator, hdocument.trans (by rw [document, document, hsettings])⟩

end Workbench

end RowDecl
