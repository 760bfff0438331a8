import RowDecl.Proofs.RunReports
import RowDecl.Proofs.SettingsOverlay
import RowDecl.Proofs.StoreAgreement

/-!
# Flags and settings

A flag of the command line can as well be written into the settings file: the run with the flag and
the run on the edited file do the same (`run_flags_as_settings`), if no comment tells the command
line. The flags come to the settings by two ways, which meet in `ofMembers_writeFlags`: the file
with the flags written into it gives the settings that the flags make of those of the file. From
there on the two runs only differ in what is at the address of the settings file
(`Invocation.run_agree`).

Two things can keep the edited file from doing what the flags do (`Invocation.Editable`): that the
output is to lie below it, and a member that replaces the table of all values and so takes back what
was written before it. `run_flags_otherwise` shows both.
-/

namespace RowDecl

open Json (HasDistinctMembers)

/-- Without the comment the command line does not come into the document. -/
theorem generate_eq_of_no_comment {s : Settings} (h : s.addGenerationComment.truthy = false)
    (m : TypeMap) (shapes : List RowShape) (commandLine commandLine' : String) :
    generate s m shapes commandLine = generate s m shapes commandLine' := by
  simp [generate, h]

namespace Command

/-! ## Flags in settings -/

/-- The invocation that gives no flags and names a settings file. -/
def Invocation.withoutFlags (inv : Invocation) (a : Address) : Invocation :=
  { inv with config := some a, nullablePolicy := none, exportNamespaces := false }

/-- The members of a settings object with the flags of an invocation written into it. -/
def Invocation.writeFlags (inv : Invocation) (members : List (String × Json)) :
    List (String × Json) :=
  let withPolicy := inv.nullablePolicy.elim members fun p =>
    Json.put members Setting.nullablePolicy.word (.str p.word)
  if inv.exportNamespaces then Json.put withPolicy Setting.exportNamespaces.word (.bool true)
  else withPolicy

section
variable {inv : Invocation} {members : List (String × Json)} {settings : Settings}

/-- What holds of members and stays when a setting is put among them holds with the flags written
into them. -/
theorem Invocation.writeFlags_keeps {P : List (String × Json) → Prop}
    (hput : ∀ {members : List (String × Json)}, P members → ∀ (key : Setting) (v : Json),
      P (Json.put members key.word v)) (inv : Invocation) (h : P members) :
    P (inv.writeFlags members) := by
  unfold writeFlags
  cases inv.nullablePolicy <;> cases inv.exportNamespaces
  · exact h
  · exact hput h _ _
  · exact hput h _ _
  · exact hput (hput h _ _) _ _

theorem Invocation.writeFlags_distinct (inv : Invocation) (h : HasDistinctMembers members) :
    HasDistinctMembers (inv.writeFlags members) :=
  inv.writeFlags_keeps (fun hmembers key => hmembers.put key.word) h

theorem Invocation.writeFlags_plain (inv : Invocation) (h : Settings.Plain members) :
    Settings.Plain (inv.writeFlags members) :=
  inv.writeFlags_keeps Settings.Plain.put h

theorem Invocation.overlaid_writeFlags (inv : Invocation) (members : List (String × Json))
    (s : Settings) :
    s.overlaid (inv.writeFlags members) =
      { s.overlaid members with
        nullablePolicy := inv.nullablePolicy.elim (s.overlaid members).nullablePolicy fun p =>
          .unchecked (.str p.word)
        exportNamespaces :=
          if inv.exportNamespaces then .bool true else (s.overlaid members).exportNamespaces } := by
  unfold writeFlags
  cases inv.nullablePolicy <;> cases inv.exportNamespaces <;>
    simp [Settings.overlaid_put, Settings.set]

/-- The flags do to the settings of an object what writing them into the object does. -/
theorem Invocation.ofMembers_writeFlags (hdistinct : HasDistinctMembers members)
    (hplain : Settings.Plain members) (hcomment : inv.generationComment = false)
    (h : Settings.ofMembers members = .ok settings) :
    Settings.ofMembers (inv.writeFlags members) = .ok (inv.overlay settings) := by
  obtain ⟨hcheck, hoverrides⟩ := (Settings.ofMembers_ok_iff hdistinct hplain).1 h
  refine (Settings.ofMembers_ok_iff (inv.writeFlags_distinct hdistinct)
    (inv.writeFlags_plain hplain)).2 ⟨?_, hoverrides⟩
  obtain ⟨p, hp, rfl⟩ := Settings.checkPolicy_ok_iff.1 hcheck
  rw [Settings.checkPolicy_ok_iff, inv.overlaid_writeFlags]
  cases hpolicy : inv.nullablePolicy with
  | none => exact ⟨p, hp, by simp [overlay, hpolicy, hcomment]⟩
  | some q =>
    have hq : (PolicySetting.unchecked (.str q.word)).check = .ok q := by
      simp [PolicySetting.check]
    exact ⟨q, hq, by simp [overlay, hpolicy, hcomment]⟩

end

/-! ## Runs -/

section
variable {host : Host} {inv : Invocation} {a : Address} {s t : Store}

theorem Invocation.loadCatalog_agree (hst : Store.AgreeOff a s t) (ha : inv.catalog ≠ a) :
    inv.loadCatalog host t = inv.loadCatalog host s := by
  unfold loadCatalog readFile
  rw [hst.node? _ ha]

/-- Two runs that come to the same settings, the same catalog and the same output do the same. -/
theorem Invocation.run_agree {inv' : Invocation} {file file' : Settings}
    (hst : Store.AgreeOff a s t) (hup : stepUp ∉ inv.output) (ha : inv.output ≠ a)
    (hstop : Store.StopAlike a s t inv.output) (houtput : inv'.output = inv.output)
    (hfile : inv.fileSettings host s = .ok file)
    (hfile' : inv'.fileSettings host t = .ok file')
    (hload : inv'.loadCatalog host t = inv.loadCatalog host s)
    (hdocument : ∀ shapes, inv'.document host (inv'.overlay file') shapes =
      inv.document host (inv.overlay file) shapes) :
    (inv'.run host t).ending = (inv.run host s).ending ∧
      (inv'.run host t).log = (inv.run host s).log ∧
      Store.AgreeOff a (inv.run host s).store (inv'.run host t).store := by
  unfold run
  rw [hfile, hfile', houtput, hload]
  cases inv.loadCatalog host s with
  | error e => exact ⟨rfl, rfl, hst⟩
  | ok shapes =>
    dsimp only
    rw [hdocument]
    cases inv.document host (inv.overlay file) shapes with
    | error e => exact ⟨rfl, rfl, hst⟩
    | ok content =>
      -- The write is the one stage that looks at more of the stores than has been told yet.
      have hsteps : stepUp ∉ (routeTo inv.output).steps := hup
      have hplace : (routeTo inv.output).resolve [] = inv.output :=
        Route.foldl_step_of_not_mem hup []
      cases hs : s.write [] (routeTo inv.output) content host.checkText with
      | mk s' r =>
      cases ht : t.write [] (routeTo inv.output) content host.checkText with
      | mk t' r' =>
      obtain ⟨rfl, hagree⟩ := Store.write_agree hst hsteps (by rwa [hplace]) (by rwa [hplace]) hs ht
      dsimp only
      rw [hs, ht]
      cases r' with
      | error e => exact ⟨rfl, rfl, hagree⟩
      | ok => exact ⟨rfl, rfl, hagree⟩

/-! ## Settings files -/

theorem Holds.distinct {members : List (String × Json)} (h : Holds host s a (.obj members)) :
    HasDistinctMembers members := by
  obtain ⟨_, _, -, -, hread⟩ := h
  exact Json.distinct_of_read hread

/-- The settings of a file that is read. -/
theorem Invocation.fileSettings_of_holds {members : List (String × Json)} {file : Settings}
    (ha : inv.config = some a) (h : Holds host s a (.obj members))
    (hfile : Settings.ofMembers members = .ok file) : inv.fileSettings host s = .ok file := by
  have hconfig : inv.HasConfig s := by
    intro c hc
    cases ha.symm.trans hc
    obtain ⟨bytes, _, hbytes, -, -⟩ := h
    rw [hbytes]
    rfl
  exact (fileSettings_ok_iff hconfig).2 (.inr ⟨a, _, ha, h, hfile⟩)

theorem Holds.hasFile {v : Json} (h : Holds host s a v) : s.HasFile a := by
  obtain ⟨bytes, _, hbytes, -, -⟩ := h
  exact ⟨bytes, hbytes⟩

/-- The settings object of an invocation: what its settings file holds, or the empty object. -/
def Invocation.HasMembers (inv : Invocation) (host : Host) (s : Store)
    (members : List (String × Json)) : Prop :=
  inv.config = none ∧ members = [] ∨ ∃ c, inv.config = some c ∧ Holds host s c (.obj members)

theorem Invocation.HasMembers.distinct {members : List (String × Json)}
    (h : inv.HasMembers host s members) : HasDistinctMembers members := by
  rcases h with ⟨-, rfl⟩ | ⟨c, -, hc⟩
  · exact List.nodup_nil
  · exact hc.distinct

theorem Invocation.HasMembers.readsSettings {members : List (String × Json)} {file : Settings}
    (h : inv.HasMembers host s members) (hfile : Settings.ofMembers members = .ok file) :
    inv.ReadsSettings host s file := by
  rcases h with ⟨hnone, rfl⟩ | ⟨c, hc, hholds⟩
  · exact .inl ⟨hnone, (Except.ok.inj hfile).symm⟩
  · exact .inr ⟨c, _, hc, hholds, hfile⟩

/-- In `t` the file at `a` holds the settings object that an invocation has in `s`, with its flags
written into it. The object is accepted, and neither it nor the flags ask for the comment. The
catalog and the output are in other places. -/
structure Invocation.FlagsWritten (inv : Invocation) (host : Host) (s t : Store) (a : Address) :
    Prop where
  noFlag : inv.generationComment = false
  catalog : inv.catalog ≠ a
  output : inv.output ≠ a
  edited : ∃ members file written, inv.HasMembers host s members ∧
    Settings.ofMembers members = .ok file ∧ file.addGenerationComment.truthy = false ∧
    Holds host t a (.obj written) ∧
    ∀ name, Json.member? written name = Json.member? (inv.writeFlags members) name

/-- The settings of an invocation may be edited at `a`. An output below `a` is refused with the
edited file, so a file has to be there before, the settings file of the invocation or another one.
No member of the settings object replaces the table of all values. -/
structure Invocation.Editable (inv : Invocation) (host : Host) (s : Store) (a : Address) :
    Prop where
  stop : inv.config ≠ some a → a <+: inv.output → s.HasFile a
  noTable : ∀ members, inv.HasMembers host s members →
    Json.member? members Internal.table.word = none

theorem Invocation.Editable.stopAlike {members : List (String × Json)} {v : Json}
    (h : inv.Editable host s a) (hmembers : inv.HasMembers host s members)
    (hholds : Holds host t a v) : Store.StopAlike a s t inv.output := by
  refine fun hway => ⟨?_, hholds.hasFile⟩
  by_cases hconfig : inv.config = some a
  · rcases hmembers with ⟨hnone, -⟩ | ⟨c, hc, hfile⟩
    · cases hconfig.symm.trans hnone
    · cases hconfig.symm.trans hc
      exact hfile.hasFile
  · exact h.stop hconfig hway

theorem Invocation.FlagsWritten.run_agree (h : inv.FlagsWritten host s t a)
    (hedit : inv.Editable host s a) (hst : Store.AgreeOff a s t) (hconfig : inv.HasConfig s)
    (hup : stepUp ∉ inv.output) :
    ((inv.withoutFlags a).run host t).ending = (inv.run host s).ending ∧
      ((inv.withoutFlags a).run host t).log = (inv.run host s).log ∧
      Store.AgreeOff a (inv.run host s).store ((inv.withoutFlags a).run host t).store := by
  obtain ⟨members, file, written, hmembers, hfile, hcomment, hholds, hwritten⟩ := h.edited
  have hplain : Settings.Plain members :=
    Settings.plain_of_ofMembers_ok (hedit.noTable members hmembers) hfile
  have hsame : Settings.ofMembers (inv.writeFlags members) = Settings.ofMembers written :=
    Settings.ofMembers_congr (inv.writeFlags_distinct hmembers.distinct) hholds.distinct
      (inv.writeFlags_plain hplain) fun name => (hwritten name).symm
  have hoverlay : Settings.ofMembers written = .ok (inv.overlay file) :=
    hsame.symm.trans (ofMembers_writeFlags hmembers.distinct hplain h.noFlag hfile)
  have hbare : (inv.withoutFlags a).overlay (inv.overlay file) = inv.overlay file := by
    simp [withoutFlags, overlay, h.noFlag]
  refine Invocation.run_agree hst hup h.output (hedit.stopAlike hmembers hholds) rfl
    ((fileSettings_ok_iff hconfig).2 (hmembers.readsSettings hfile))
    (fileSettings_of_holds rfl hholds hoverlay) (loadCatalog_agree hst h.catalog)
    fun shapes => ?_
  rw [hbare]
  unfold document
  have hquiet : (inv.overlay file).addGenerationComment.truthy = false := by
    simpa [overlay, h.noFlag] using hcomment
  cases TypeMap.ofSettings (inv.overlay file) with
  | error e => simp only [error_sequence]
  | ok types => simp only [ok_sequence, generate_eq_of_no_comment hquiet types shapes
      (inv.withoutFlags a).commandLine inv.commandLine]

end

/-- **Flags may be written into the settings file.** A run with flags and a run without them, on a
settings file with these flags written into it, end alike, show the same and leave the same store
off that file, if the settings may be edited there. The second arguments ask for what the first ask
for without the flags, and are refused if the first are. -/
theorem run_flags_as_settings (host : Host) {s t : Store} {cwd a : Address} (hcwd : stepUp ∉ cwd)
    (hst : Store.AgreeOff a s t) {args args' : List String}
    (hargs : Invocation.ofArguments t cwd args' =
      (Invocation.ofArguments s cwd args).map (·.withoutFlags a))
    (hflags : ∀ inv, Invocation.ofArguments s cwd args = .ok inv →
      inv.FlagsWritten host s t a ∧ inv.Editable host s a) :
    (run host t cwd args').ending = (run host s cwd args).ending ∧
      (run host t cwd args').output = (run host s cwd args).output ∧
      Store.AgreeOff a (run host s cwd args).store (run host t cwd args').store := by
  cases hinv : Invocation.ofArguments s cwd args with
  | error refusal =>
    rw [hinv] at hargs
    have hargs' : Invocation.ofArguments t cwd args' = .error refusal := hargs
    unfold run
    rw [hinv, hargs']
    cases refusal <;> exact ⟨rfl, rfl, hst⟩
  | ok inv =>
    rw [hinv] at hargs
    obtain ⟨hconfig, -, hup⟩ := Invocation.ofArguments_ok hcwd hinv
    obtain ⟨hwritten, hedit⟩ := hflags inv hinv
    obtain ⟨hending, hlog, hstore⟩ := hwritten.run_agree hedit hst hconfig hup
    rw [run_of_ok hinv, run_of_ok hargs]
    refine ⟨hending, ?_, hstore⟩
    show outputText host inv.verbose _ = outputText host inv.verbose _
    rw [outputText, outputText, hlog, hending]

/-- A directory with the catalog, and a settings file if there is one. -/
def fleetStore (settings : Option String) : Store where
  entries := [(["fleet"], .directory), (["fleet", "c.json"], .file rideCatalog.toUTF8)] ++
    settings.toList.map fun text => (["fleet", "s.json"], .file text.toUTF8)

theorem agreeOff_fleetStore (settings settings' : Option String) :
    Store.AgreeOff ["fleet", "s.json"] (fleetStore settings) (fleetStore settings') := by
  refine ⟨fun b hb => ?_, rfl⟩
  have hbeq : (b == ["fleet", "s.json"]) = false := beq_false_of_ne hb
  cases settings <;> cases settings' <;> simp [Store.node?, fleetStore, List.lookup_cons, hbeq]

/-- Settings without flags. -/
def plainSettings : String := "\x7b\"indent\": \"  \"\x7d"

/-- These settings with two flags written into them. -/
def flaggedSettings : String :=
  "\x7b\"export_namespaces\": true, \"indent\": \"  \", \"nullable_policy\": \"union\"\x7d"

/-- What `-c s.json --nullable-policy union --export-namespaces c.json out.ts` asks for. -/
def flagged : Invocation :=
  ⟨some ["fleet", "s.json"], some .union, true, false, false, ["fleet", "c.json"],
    ["fleet", "out.ts"]⟩

theorem holds_plain :
    Holds .standard (fleetStore (some plainSettings)) ["fleet", "s.json"]
      (.obj [("indent", .str "  ")]) :=
  .of_text plainSettings rfl (by cbv)

theorem holds_flagged :
    Holds .standard (fleetStore (some flaggedSettings)) ["fleet", "s.json"]
      (.obj [("export_namespaces", .bool true), ("indent", .str "  "),
        ("nullable_policy", .str "union")]) :=
  .of_text flaggedSettings rfl (by cbv)

theorem flagsWritten_flagged :
    flagged.FlagsWritten .standard (fleetStore (some plainSettings))
      (fleetStore (some flaggedSettings)) ["fleet", "s.json"] where
  noFlag := rfl
  catalog := by decide
  output := by decide
  edited := by
    refine ⟨_, _, _, .inr ⟨_, rfl, holds_plain⟩, rfl, rfl, holds_flagged, fun name => ?_⟩
    show Json.member? _ name = Json.member? (Json.put (Json.put [("indent", .str "  ")]
      "nullable_policy" (.str "union")) "export_namespaces" (.bool true)) name
    rw [Json.member?_put, Json.member?_put]
    simp only [Json.member?_cons]
    by_cases hindent : "indent" = name
    · subst hindent
      rfl
    · rw [if_neg hindent, if_neg hindent]

theorem editable_flagged :
    flagged.Editable .standard (fleetStore (some plainSettings)) ["fleet", "s.json"] where
  stop := fun hconfig => absurd rfl hconfig
  noTable := by
    rintro members (⟨hnone, -⟩ | ⟨c, hc, hmembers⟩)
    · cases hnone
    · cases hc
      cases hmembers.unique holds_plain
      decide

theorem run_flags_as_settings_ride :
    let r := run .standard (fleetStore (some plainSettings)) ["fleet"]
      ["-c", "s.json", "--nullable-policy", "union", "--export-namespaces", "c.json", "out.ts"]
    let r' := run .standard (fleetStore (some flaggedSettings)) ["fleet"]
      ["-c", "s.json", "c.json", "out.ts"]
    stepUp ∉ ["fleet"] ∧ r.ending = .success ∧ r'.ending = r.ending ∧ r'.output = r.output ∧
      Store.AgreeOff ["fleet", "s.json"] r.store r'.store := by
  intro r r'
  have hinv : Invocation.ofArguments (fleetStore (some plainSettings)) ["fleet"]
      ["-c", "s.json", "--nullable-policy", "union", "--export-namespaces", "c.json", "out.ts"] =
        .ok flagged := by decide +kernel
  have hbare : Invocation.ofArguments (fleetStore (some flaggedSettings)) ["fleet"]
      ["-c", "s.json", "c.json", "out.ts"] = .ok (flagged.withoutFlags ["fleet", "s.json"]) := by
    decide +kernel
  have hending : r.ending = .success := by
    have hsettings : flagged.fileSettings .standard (fleetStore (some plainSettings)) =
        .ok { Settings.default with indent := .str "  " } :=
      Invocation.fileSettings_of_holds rfl holds_plain rfl
    show (run .standard (fleetStore (some plainSettings)) _ _).ending = _
    rw [run_of_ok hinv, Invocation.run, hsettings, Invocation.loadCatalog_ride rfl]
    decide +kernel
  refine ⟨by decide, hending, run_flags_as_settings .standard (by decide)
    (agreeOff_fleetStore _ _) (by rw [hinv, hbare]; rfl) fun inv h => ?_⟩
  cases Except.ok.inj (hinv.symm.trans h)
  exact ⟨flagsWritten_flagged, editable_flagged⟩

/-- Settings with one flag and nothing else. -/
def exportSettings : String := "\x7b\"export_namespaces\": true\x7d"

theorem holds_export :
    Holds .standard (fleetStore (some exportSettings)) ["fleet", "s.json"]
      (.obj [("export_namespaces", .bool true)]) :=
  .of_text exportSettings rfl (by cbv)

/-- What `--export-namespaces c.json s.json/out.ts` asks for. -/
def belowSettings : Invocation :=
  ⟨none, none, true, false, false, ["fleet", "c.json"], ["fleet", "s.json", "out.ts"]⟩

theorem flagsWritten_belowSettings :
    belowSettings.FlagsWritten .standard (fleetStore none) (fleetStore (some exportSettings))
      ["fleet", "s.json"] where
  noFlag := rfl
  catalog := by decide
  output := by decide
  edited := ⟨_, _, _, .inl ⟨rfl, rfl⟩, rfl, rfl, holds_export, fun _ => rfl⟩

theorem run_belowSettings :
    (belowSettings.run .standard (fleetStore none)).ending = .success ∧
      ((belowSettings.withoutFlags ["fleet", "s.json"]).run .standard
        (fleetStore (some exportSettings))).ending = .escaped (.file .alreadyExists) := by
  have hsettings : (belowSettings.withoutFlags ["fleet", "s.json"]).fileSettings .standard
      (fleetStore (some exportSettings)) = .ok _ :=
    Invocation.fileSettings_of_holds rfl holds_export rfl
  rw [Invocation.run, Invocation.run, hsettings, Invocation.loadCatalog_ride rfl,
    Invocation.loadCatalog_ride rfl]
  decide +kernel

/-- Settings with a flag, which a table of values behind it takes back. -/
def tableSettings : Bool → String
  | false =>
    "\x7b\"export_namespaces\": false, \"__dict__\": \x7b\"type_overrides\": \x7b\x7d\x7d\x7d"
  | true =>
    "\x7b\"export_namespaces\": true, \"__dict__\": \x7b\"type_overrides\": \x7b\x7d\x7d\x7d"

theorem holds_table (flag : Bool) :
    Holds .standard (fleetStore (some (tableSettings flag))) ["fleet", "s.json"]
      (.obj [("export_namespaces", .bool flag),
        ("__dict__", .obj [("type_overrides", .obj [])])]) := by
  cases flag
  · exact .of_text (tableSettings false) rfl (by cbv)
  · exact .of_text (tableSettings true) rfl (by cbv)

/-- What `-c s.json --export-namespaces c.json out.ts` asks for. -/
def exporting : Invocation :=
  ⟨some ["fleet", "s.json"], none, true, false, false, ["fleet", "c.json"], ["fleet", "out.ts"]⟩

theorem flagsWritten_exporting :
    exporting.FlagsWritten .standard (fleetStore (some (tableSettings false)))
      (fleetStore (some (tableSettings true))) ["fleet", "s.json"] where
  noFlag := rfl
  catalog := by decide
  output := by decide
  edited := ⟨_, .default, _, .inr ⟨_, rfl, holds_table false⟩, by decide +kernel, by decide,
    holds_table true, fun _ => rfl⟩

theorem run_exporting :
    (exporting.run .standard (fleetStore (some (tableSettings false)))).store.file?
        ["fleet", "out.ts"] = some
          ("export namespace fleet \x7b\n    export interface Ride \x7b\n" ++
            "        endTime: string;\n    \x7d\n\x7d\n").toUTF8 ∧
      ((exporting.withoutFlags ["fleet", "s.json"]).run .standard
        (fleetStore (some (tableSettings true)))).store.file? ["fleet", "out.ts"] = some
          ("namespace fleet \x7b\n    export interface Ride \x7b\n" ++
            "        endTime: string;\n    \x7d\n\x7d\n").toUTF8 := by
  have hsettings (flag : Bool) : Settings.ofMembers [("export_namespaces", .bool flag),
      ("__dict__", .obj [("type_overrides", .obj [])])] = .ok .default := by
    cases flag <;> decide +kernel
  have hfile : exporting.fileSettings .standard (fleetStore (some (tableSettings false))) =
      .ok .default :=
    Invocation.fileSettings_of_holds rfl (holds_table false) (hsettings false)
  have hfile' : (exporting.withoutFlags ["fleet", "s.json"]).fileSettings .standard
      (fleetStore (some (tableSettings true))) = .ok .default :=
    Invocation.fileSettings_of_holds rfl (holds_table true) (hsettings true)
  rw [Invocation.run, Invocation.run, hfile, hfile', Invocation.loadCatalog_ride rfl,
    Invocation.loadCatalog_ride rfl]
  decide +kernel

/-- Two ways in which an edited settings file does not do what the flags do. An output below it is
written with the flags, where no file is in the way. A flag that is written before a table of values
is taken back by the table, and what is written has no sign of it. -/
theorem run_flags_otherwise :
    (let s := fleetStore none
      let t := fleetStore (some exportSettings)
      let args := ["--export-namespaces", "c.json", "s.json/out.ts"]
      let args' := ["-c", "s.json", "c.json", "s.json/out.ts"]
      Store.AgreeOff ["fleet", "s.json"] s t ∧
        Invocation.ofArguments s ["fleet"] args = .ok belowSettings ∧
        Invocation.ofArguments t ["fleet"] args' =
          .ok (belowSettings.withoutFlags ["fleet", "s.json"]) ∧
        belowSettings.FlagsWritten .standard s t ["fleet", "s.json"] ∧
        (run .standard s ["fleet"] args).ending = .success ∧
        (run .standard t ["fleet"] args').ending = .escaped (.file .alreadyExists)) ∧
    (let s := fleetStore (some (tableSettings false))
      let t := fleetStore (some (tableSettings true))
      let args := ["-c", "s.json", "--export-namespaces", "c.json", "out.ts"]
      let args' := ["-c", "s.json", "c.json", "out.ts"]
      Store.AgreeOff ["fleet", "s.json"] s t ∧
        Invocation.ofArguments s ["fleet"] args = .ok exporting ∧
        Invocation.ofArguments t ["fleet"] args' =
          .ok (exporting.withoutFlags ["fleet", "s.json"]) ∧
        exporting.FlagsWritten .standard s t ["fleet", "s.json"] ∧
        (run .standard t ["fleet"] args').store.file? ["fleet", "out.ts"] ≠
          (run .standard s ["fleet"] args).store.file? ["fleet", "out.ts"]) := by
  have hbelow : Invocation.ofArguments (fleetStore none) ["fleet"]
      ["--export-namespaces", "c.json", "s.json/out.ts"] = .ok belowSettings := by decide +kernel
  have hbelow' : Invocation.ofArguments (fleetStore (some exportSettings)) ["fleet"]
      ["-c", "s.json", "c.json", "s.json/out.ts"] =
        .ok (belowSettings.withoutFlags ["fleet", "s.json"]) := by decide +kernel
  have htable : Invocation.ofArguments (fleetStore (some (tableSettings false))) ["fleet"]
      ["-c", "s.json", "--export-namespaces", "c.json", "out.ts"] = .ok exporting := by
    decide +kernel
  have htable' : Invocation.ofArguments (fleetStore (some (tableSettings true))) ["fleet"]
      ["-c", "s.json", "c.json", "out.ts"] = .ok (exporting.withoutFlags ["fleet", "s.json"]) := by
    decide +kernel
  refine ⟨⟨agreeOff_fleetStore _ _, hbelow, hbelow', flagsWritten_belowSettings, ?_, ?_⟩,
    agreeOff_fleetStore _ _, htable, htable', flagsWritten_exporting, ?_⟩
  · rw [run_of_ok hbelow, run_belowSettings.1]
  · rw [run_of_ok hbelow', run_belowSettings.2]
  · rw [run_of_ok htable, run_of_ok htable']
    dsimp only
    rw [run_exporting.1, run_exporting.2]
    decide +kernel

end Command

end RowDecl
