import RowDecl.Proofs.Outcome
import RowDecl.Proofs.StoreWrite

/-!
# Stores that differ at one address

Two stores may differ at one address only (`AgreeOff`). A write to another place then does the same
in both (`write_agree`): it has the same result, and the stores after it differ at that address
only. The place may still lie below the address. Then both stores must have a file there, which
stops the way to the place in both.
-/

namespace RowDecl.Store

/-- A file is at an address. -/
def HasFile (s : Store) (a : Address) : Prop := ∃ bytes, s.node? a = some (.file bytes)

/-- Off an address, two stores have the same nodes, and nothing may be made in the same directories.
-/
structure AgreeOff (a : Address) (s t : Store) : Prop where
  node? : ∀ b, b ≠ a → t.node? b = s.node? b
  unwritable : t.unwritable = s.unwritable

/-- If the way to a place leads through an address, a file is there in both stores. -/
def StopAlike (a : Address) (s t : Store) (place : Address) : Prop :=
  a <+: place → s.HasFile a ∧ t.HasFile a

section
variable {a : Address} {s t : Store}

theorem AgreeOff.put (h : AgreeOff a s t) {b : Address} (hb : b ≠ []) (n : Node) :
    AgreeOff a (s.put b n) (t.put b n) := by
  refine ⟨fun c hc => ?_, h.unwritable⟩
  rw [node?_put hb, node?_put hb, h.node? c hc]

theorem HasFile.put (h : s.HasFile a) {b : Address} (hb : b ≠ []) (hab : a ≠ b) (n : Node) :
    (s.put b n).HasFile a := by
  obtain ⟨bytes, hbytes⟩ := h
  exact ⟨bytes, by rw [node?_put hb, if_neg hab, hbytes]⟩

theorem StopAlike.put {place b : Address} (h : StopAlike a s t place) (hb : b ≠ []) (hab : a ≠ b)
    (n : Node) : StopAlike a (s.put b n) (t.put b n) place := fun hway =>
  ⟨(h hway).1.put hb hab n, (h hway).2.put hb hab n⟩

/-! ## Directories -/

/-- Steps from a directory make the same directories in both stores. The induction follows the
steps; a step to the address itself ends them in both stores. -/
theorem makeDirectories_agree {steps : List String} (hup : stepUp ∉ steps) :
    ∀ {s t : Store} {here : Address} (made : Bool), AgreeOff a s t →
      StopAlike a s t (here ++ steps) →
      (t.makeDirectories here made steps).2 = (s.makeDirectories here made steps).2 ∧
        AgreeOff a (s.makeDirectories here made steps).1
          (t.makeDirectories here made steps).1 := by
  induction steps with
  | nil => exact fun _ h _ => ⟨rfl, h⟩
  | cons step r ih =>
    intro s t here made h hstop
    simp only [List.mem_cons, not_or] at hup
    have hne : here ++ [step] ≠ [] := by simp
    have hway : here ++ step :: r = here ++ [step] ++ r := by simp
    unfold makeDirectories
    rw [if_neg (Ne.symm hup.1), if_neg (Ne.symm hup.1)]
    split
    · exact ⟨rfl, h⟩
    · by_cases ha : a = here ++ [step]
      · obtain ⟨⟨bytes, hs⟩, ⟨bytes', ht⟩⟩ := hstop (hway ▸ ha ▸ List.prefix_append _ _)
        rw [← ha, hs, ht]
        exact ⟨rfl, h⟩
      · rw [h.node? _ (Ne.symm ha), h.unwritable]
        split
        · exact ih hup.2 made h (hway ▸ hstop)
        · exact ⟨rfl, h⟩
        · split
          · exact ⟨rfl, h⟩
          · exact ih hup.2 true (h.put hne _) ((hway ▸ hstop).put hne ha _)

/-! ## Files -/

variable {dir : Address} {target : Route}

/-- Whether a file can be moved to its place depends on what is there. -/
theorem rename_congr {source source' : String} {content : ByteArray}
    (h : target.NamesFile → t.node? (dir ++ [target.name]) = s.node? (dir ++ [target.name])) :
    (t.rename dir source' target content).map (fun _ => ()) =
      (s.rename dir source target content).map fun _ => () := by
  unfold rename
  split
  · rfl
  · split
    · rfl
    · rename_i hname
      rw [h (not_or.1 hname)]
      split <;> rfl

/-- The result of a write into a directory is that of the check and then that of the move. -/
theorem writeIn_result (s : Store) (dir : Address) (target : Route) (content : String)
    (check : String → Except Error Unit) :
    (s.writeIn dir target content check).2 =
      match s.temporaryFault? dir target.name with
      | some e => .error e
      | none => check content >>= fun _ =>
        (((s.put (dir ++ [s.freshName target.name]) (.file content.toUTF8)).rename dir
          (s.freshName target.name) target content.toUTF8).map fun _ => ()).mapError .file := by
  unfold writeIn
  cases s.temporaryFault? dir target.name with
  | some e => rfl
  | none =>
    cases check content with
    | error e => rfl
    | ok =>
      dsimp only
      rw [ok_sequence]
      split
      · rename_i hmoved
        rw [hmoved]
        rfl
      · rename_i hmoved
        rw [hmoved]
        rfl

/-- The result depends on what is in the place of the file and on whether anything may be made
beside it. -/
theorem writeIn_result_congr (content : String) (check : String → Except Error Unit)
    (hmay : t.unwritable = s.unwritable)
    (h : target.NamesFile → t.node? (dir ++ [target.name]) = s.node? (dir ++ [target.name])) :
    (t.writeIn dir target content check).2 = (s.writeIn dir target content check).2 := by
  have htarget : ∀ s : Store,
      (s.put (dir ++ [s.freshName target.name]) (.file content.toUTF8)).node?
        (dir ++ [target.name]) = s.node? (dir ++ [target.name]) := by
    intro s
    rw [node?_put (by simp), if_neg (by simpa using (s.freshName_ne target.name).symm)]
  rw [writeIn_result, writeIn_result, temporaryFault?_congr hmay, rename_congr]
  intro hname
  rw [htarget, htarget, h hname]

variable {content : String} {check : String → Except Error Unit}

/-- A write into a directory does the same in both stores, unless it is to the address itself. -/
theorem writeIn_agree (h : AgreeOff a s t) (ha : target.NamesFile → dir ++ [target.name] ≠ a)
    {s' t' : Store} {r r' : Except Error Unit}
    (hs : s.writeIn dir target content check = (s', r))
    (ht : t.writeIn dir target content check = (t', r')) : r' = r ∧ AgreeOff a s' t' := by
  have hresult : r' = r := by
    have hsame := writeIn_result_congr content check h.unwritable fun hname => h.node? _ (ha hname)
    rwa [hs, ht] at hsame
  subst hresult
  have hmayS := unwritable_writeIn s dir target content check
  have hmayT := unwritable_writeIn t dir target content check
  rw [hs] at hmayS
  rw [ht] at hmayT
  refine ⟨rfl, fun b hb => ?_, hmayT.trans (h.unwritable.trans hmayS.symm)⟩
  rcases writeIn_cases hs with ⟨⟨e, he⟩, hs⟩ | ⟨hok, -, -, -, hs⟩ <;>
    rcases writeIn_cases ht with ⟨⟨e', he'⟩, ht⟩ | ⟨hok', -, -, -, ht⟩
  · rw [hs, ht, h.node? b hb]
  · cases he.symm.trans hok'
  · cases he'.symm.trans hok
  · rw [hs, ht, h.node? b hb]

/-- A write on a route that does not lead up does the same in both stores, unless it is to the
address itself. -/
theorem write_agree (h : AgreeOff a s t) {cwd : Address} (hup : stepUp ∉ target.steps)
    (ha : target.resolve cwd ≠ a) (hstop : StopAlike a s t (target.resolve cwd)) {s' t' : Store}
    {r r' : Except Error Unit} (hs : s.write cwd target content check = (s', r))
    (ht : t.write cwd target content check = (t', r')) : r' = r ∧ AgreeOff a s' t' := by
  have hparent : target.parent.steps <+: target.steps := List.dropLast_prefix _
  have hstop' : StopAlike a s t (target.start cwd ++ target.parent.steps) := by
    refine fun hway => hstop (hway.trans ?_)
    rw [Route.resolve, Route.foldl_step_of_not_mem hup]
    exact (List.prefix_append_right_inj _).2 hparent
  have hmade := makeDirectories_agree (fun hmem => hup (hparent.subset hmem)) false h hstop'
  unfold write at hs ht
  split at hs
  · rw [if_pos ‹_›] at ht
    cases hs
    cases ht
    exact ⟨rfl, h⟩
  · rw [if_neg ‹_›] at ht
    split at hs
    · rw [if_pos ‹_›] at ht
      cases hs
      cases ht
      exact ⟨rfl, h⟩
    · rw [if_neg ‹_›] at ht
      cases hmadeS : s.makeDirectories (target.start cwd) false target.parent.steps with
      | mk madeS outcome =>
      cases hmadeT : t.makeDirectories (target.start cwd) false target.parent.steps with
      | mk madeT outcome' =>
      rw [hmadeS, hmadeT] at hmade
      obtain ⟨rfl : outcome' = outcome, hagree⟩ := hmade
      rw [hmadeS] at hs
      rw [hmadeT] at ht
      cases outcome' with
      | error fault =>
        cases hs
        cases ht
        exact ⟨rfl, hagree⟩
      | ok dir =>
        refine writeIn_agree hagree (fun hname => ?_) hs ht
        rw [makeDirectories_resolve hmadeS]
        exact fun hplace => ha ((Route.resolve_of_namesFile hname cwd).trans hplace)

end

end RowDecl.Store
