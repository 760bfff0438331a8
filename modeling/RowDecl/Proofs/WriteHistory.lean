import RowDecl.Proofs.StoreWrite

/-!
# Writes in sequence

`history` carries out calls of the writer one after the other and keeps what each of them found and
left. `Written.IsAtomic` is what one call does to a store, whatever its path, its text and its
check: it is shown for a single call (`isAtomic_carryOut`) and holds of every call in a history.
`file?_carryOut` is the same for the files as one equation, from which `history_atomic` gets that
each file holds what was last written to it.
-/

namespace RowDecl

/-! ## Calls -/

/-- A call of the writer: the path as it is spelled, the text, and whether a check of the text is
asked for. -/
structure WriteCall where
  path : String
  content : String
  checked : Bool
  check : String → Except Error Unit

namespace WriteCall

/-- The route to the file. -/
def target (c : WriteCall) : Route := .parse c.path

/-- The check that the text goes through. -/
def effectiveCheck (c : WriteCall) (text : String) : Except Error Unit :=
  if c.checked then c.check text else .ok ()

/-- The address of the file. -/
def address (c : WriteCall) (cwd : Address) : Address := c.target.resolve cwd

/-- The place of a directory on the way to the file, as the path is spelled: behind a step up there
may be others than those above the address of the file. -/
def IsOnTheWay (c : WriteCall) (cwd a : Address) : Prop :=
  ∃ p, p ≠ [] ∧ p <+: c.target.parent.steps ∧ a = Route.resolve ⟨c.target.fromRoot, p⟩ cwd

/-- Without a step up, what is on the way to a file is above it. -/
theorem IsOnTheWay.above {c : WriteCall} {cwd a : Address} (h : c.IsOnTheWay cwd a)
    (hup : stepUp ∉ c.target.steps) : a <+: c.address cwd ∧ a ≠ c.address cwd := by
  obtain ⟨p, hne, hp, rfl⟩ := h
  have hsteps : p <+: c.target.steps := hp.trans (List.dropLast_prefix _)
  have hlength : p.length < c.target.steps.length := by
    have hle := hp.length_le
    have hpos := List.length_pos_iff.2 hne
    rw [Route.parent, List.length_dropLast] at hle
    omega
  have haddress : c.address cwd = c.target.start cwd ++ c.target.steps :=
    Route.foldl_step_of_not_mem hup _
  have hplace : Route.resolve ⟨c.target.fromRoot, p⟩ cwd = c.target.start cwd ++ p :=
    Route.foldl_step_of_not_mem (fun hm => hup (hsteps.subset hm)) _
  rw [haddress, hplace]
  refine ⟨(List.prefix_append_right_inj _).2 hsteps, fun heq => ?_⟩
  rw [List.append_cancel_left heq] at hlength
  exact Nat.lt_irrefl _ hlength

end WriteCall

/-- A call that was carried out: the stores before and after it, and how it ended. -/
structure Written where
  call : WriteCall
  before : Store
  after : Store
  result : Except Error Unit

/-- Carries a call out in a store. -/
def WriteCall.carryOut (c : WriteCall) (cwd : Address) (s : Store) : Written :=
  let (after, result) := s.write cwd c.target c.content c.effectiveCheck
  ⟨c, s, after, result⟩

namespace Written

/-- Whether a call has put its text at an address. -/
def wroteTo (w : Written) (cwd a : Address) : Bool := w.result.isOk && w.call.address cwd = a

theorem wroteTo_iff {w : Written} {cwd a : Address} :
    w.wroteTo cwd a = true ↔ w.result = .ok () ∧ w.call.address cwd = a := by
  rw [wroteTo, Bool.and_eq_true, decide_eq_true_eq]
  cases w.result <;> simp [Except.isOk, Except.toBool]

/-- After a success the file has the bytes of the text; every other file, and after a failure every
file, is as before. Nothing is removed, new directories are on the way to the file, and nothing is
where the temporary file was. -/
structure IsAtomic (cwd : Address) (w : Written) : Prop where
  written : w.result = .ok () → w.after.file? (w.call.address cwd) = some w.call.content.toUTF8
  kept : ∀ a, (w.result = .ok () → a ≠ w.call.address cwd) → w.after.file? a = w.before.file? a
  fileStays : ∀ a, (w.before.file? a).isSome = true → (w.after.file? a).isSome = true
  directoryStays : ∀ a, w.before.node? a = some .directory → w.after.node? a = some .directory
  newDirectory : ∀ a, w.before.node? a = none → w.after.node? a = some .directory →
    w.call.IsOnTheWay cwd a ∧
      (stepUp ∉ w.call.target.steps → a <+: w.call.address cwd ∧ a ≠ w.call.address cwd)
  temporaryGone : ∀ made dir,
    w.before.makeDirectories (w.call.target.start cwd) false w.call.target.parent.steps =
      (made, .ok dir) → w.after.node? (dir ++ [made.freshName w.call.target.name]) = none

end Written

/-! ## One call -/

section
variable (c : WriteCall) (cwd : Address) (s : Store)

/-- The files after a call: its own where it wrote, those before it elsewhere. -/
theorem file?_carryOut (a : Address) :
    (c.carryOut cwd s).after.file? a =
      if (c.carryOut cwd s).wroteTo cwd a then some c.content.toUTF8 else s.file? a := by
  have hwrote : (c.carryOut cwd s).wroteTo cwd a = true ↔
      (c.carryOut cwd s).result = .ok () ∧ c.address cwd = a := Written.wroteTo_iff
  have hwrite : s.write cwd c.target c.content c.effectiveCheck =
      ((c.carryOut cwd s).after, (c.carryOut cwd s).result) := rfl
  cases hr : (c.carryOut cwd s).result with
  | error e =>
    rw [hr] at hwrote hwrite
    rcases Store.write_cases hwrite with ⟨-, hgrown⟩ | ⟨hok, -⟩
    · rw [if_neg fun h => nomatch (hwrote.1 h).1]
      exact hgrown.file? a
    · cases hok
  | ok =>
    rw [hr] at hwrote hwrite
    have hfile : (c.carryOut cwd s).after.file? a =
        if a = c.address cwd then some c.content.toUTF8 else s.file? a := Store.file?_write hwrite a
    rw [hfile]
    by_cases ha : c.address cwd = a
    · rw [if_pos ha.symm, if_pos (hwrote.2 ⟨rfl, ha⟩)]
    · rw [if_neg (Ne.symm ha), if_neg fun h => ha (hwrote.1 h).2]

theorem directoryStays_carryOut {a : Address} (ha : s.node? a = some .directory) :
    (c.carryOut cwd s).after.node? a = some .directory := by
  have hwrite : s.write cwd c.target c.content c.effectiveCheck =
      ((c.carryOut cwd s).after, (c.carryOut cwd s).result) := rfl
  rcases Store.write_cases hwrite with ⟨-, hgrown⟩ | ⟨-, -, made, hgrown, hdir, hnodes⟩
  · exact hgrown.directory ha
  · rw [hnodes, if_neg, hgrown.directory ha]
    rintro rfl
    exact hdir (hgrown.directory ha)

/-- **A call is atomic.** -/
theorem isAtomic_carryOut : (c.carryOut cwd s).IsAtomic cwd where
  written hok := by
    rw [file?_carryOut, if_pos (Written.wroteTo_iff.2 ⟨hok, rfl⟩)]
    rfl
  kept a ha := by
    rw [file?_carryOut, if_neg]
    · rfl
    · intro hwrote
      obtain ⟨hok, haddress⟩ := Written.wroteTo_iff.1 hwrote
      exact ha hok haddress.symm
  fileStays a ha := by
    rw [file?_carryOut]
    split
    · rfl
    · exact ha
  directoryStays _ ha := directoryStays_carryOut c cwd s ha
  newDirectory a hbefore hafter := by
    have hway : c.IsOnTheWay cwd a := Store.write_new_directory rfl hbefore hafter
    exact ⟨hway, hway.above⟩
  temporaryGone _ _ hmade := Store.node?_write_fresh rfl hmade

end

/-! ## Sequences of calls -/

/-- The calls of a sequence as they are carried out, each in the store that the one before it has
left. -/
def history (cwd : Address) : Store → List WriteCall → List Written
  | _, [] => []
  | s, c :: r => c.carryOut cwd s :: history cwd (c.carryOut cwd s).after r

/-- The store that a sequence of calls leaves. -/
def lastStore (cwd : Address) (s : Store) (calls : List WriteCall) : Store :=
  calls.foldl (fun s c => (c.carryOut cwd s).after) s

/-- The last call of a history that has put its text at an address. -/
def lastWrite? (events : List Written) (cwd a : Address) : Option Written :=
  (events.filter (·.wroteTo cwd a)).getLast?

theorem isAtomic_of_mem_history {cwd : Address} {calls : List WriteCall} {s : Store} {w : Written}
    (hw : w ∈ history cwd s calls) : w.IsAtomic cwd := by
  induction calls generalizing s with
  | nil => cases hw
  | cons c r ih =>
    rcases List.mem_cons.1 hw with rfl | hw
    · exact isAtomic_carryOut c cwd s
    · exact ih hw

theorem lastWrite?_cons (w : Written) (events : List Written) (cwd a : Address) :
    lastWrite? (w :: events) cwd a =
      (lastWrite? events cwd a).or (if w.wroteTo cwd a then some w else none) := by
  unfold lastWrite?
  rw [List.filter_cons]
  split
  · rw [List.getLast?_cons]
    cases (events.filter (·.wroteTo cwd a)).getLast? <;> rfl
  · rw [Option.or_none]

theorem file?_lastStore (cwd : Address) (calls : List WriteCall) (s : Store) (a : Address) :
    (lastStore cwd s calls).file? a =
      match lastWrite? (history cwd s calls) cwd a with
      | some w => some w.call.content.toUTF8
      | none => s.file? a := by
  induction calls generalizing s with
  | nil => rfl
  | cons c r ih =>
    have hlast : lastStore cwd s (c :: r) = lastStore cwd (c.carryOut cwd s).after r := rfl
    rw [hlast, ih, history, lastWrite?_cons]
    cases lastWrite? (history cwd (c.carryOut cwd s).after r) cwd a with
    | some w => rfl
    | none =>
      dsimp only [Option.none_or]
      rw [file?_carryOut]
      split <;> rfl

/-- **Writes in sequence.** Every call of a sequence is atomic, whatever the stores, the paths, the
texts and the checks; in the end each file holds the text of the last call that has written to it,
or what it held at first. -/
theorem history_atomic (cwd : Address) (s : Store) (calls : List WriteCall) :
    (history cwd s calls).map (·.call) = calls ∧
      (∀ w ∈ history cwd s calls, w.IsAtomic cwd) ∧
      ∀ a, (lastStore cwd s calls).file? a =
        match lastWrite? (history cwd s calls) cwd a with
        | some w => some w.call.content.toUTF8
        | none => s.file? a := by
  refine ⟨?_, fun w hw => isAtomic_of_mem_history hw, file?_lastStore cwd calls s⟩
  induction calls generalizing s with
  | nil => rfl
  | cons c r ih => exact congrArg (c :: ·) (ih _)

/-- A write below a file fails, and one in its place succeeds. -/
example :
    let file (path : String) : WriteCall := ⟨path, "x", false, fun _ => .ok ()⟩
    (history ["home"] .empty [file "a/b", file "a/b/c", file "a/../a/b"]).map (·.result.isOk) =
      [true, false, true] := by
  decide +kernel

end RowDecl
