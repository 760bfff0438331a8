import RowDecl.Command.Run
import RowDecl.Proofs.Encoding
import RowDecl.Proofs.Invocations
import RowDecl.Proofs.StoreWrite

/-!
# A run is all or nothing

`run_all_or_nothing`: a run of the command that ends well has put the bytes of its document at the
output and left every other file as it was; any other run leaves all files as they were, and the
whole store if it ended before there was a document to write. A run that is asked for help also
ends well, and leaves the whole store as it was.

`Invocation.Generates` says what the document of an invocation is, stage by stage. What the options
make of the settings is told setting by setting (`Invocation.Overlays`). `Invocation.run_cases` is
the case analysis over the stages of a run, with `Store.write_cases` for the last of them.
-/

namespace RowDecl.Command

/-! ## Documents of invocations -/

/-- The document that a file holds, as a value. -/
def Holds (host : Host) (s : Store) (a : Address) (v : Json) : Prop :=
  ∃ bytes content, s.node? a = some (.file bytes) ∧ Text.ofBytes bytes = .ok content ∧
    Json.read host.reader content = .ok v

/-- The settings of an invocation before its options count. -/
def Invocation.ReadsSettings (inv : Invocation) (host : Host) (s : Store) (file : Settings) :
    Prop :=
  (inv.config = none ∧ file = .default) ∨
    ∃ a v, inv.config = some a ∧ Holds host s a v ∧ Settings.ofJson v = .ok file

/-- Settings are those of the file with the options of an invocation: a policy that is given takes
the place of the one in the file, a flag that is given sets its setting, and all else is as it is in
the file. -/
structure Invocation.Overlays (inv : Invocation) (file settings : Settings) : Prop where
  policyGiven : ∀ p, inv.nullablePolicy = some p → settings.nullablePolicy = .policy p
  policyKept : inv.nullablePolicy = none → settings.nullablePolicy = file.nullablePolicy
  exportGiven : inv.exportNamespaces = true → settings.exportNamespaces = .bool true
  exportKept : inv.exportNamespaces = false → settings.exportNamespaces = file.exportNamespaces
  commentGiven : inv.generationComment = true → settings.addGenerationComment = .bool true
  commentKept :
    inv.generationComment = false → settings.addGenerationComment = file.addGenerationComment
  indent : settings.indent = file.indent
  namespaceSeparator : settings.namespaceSeparator = file.namespaceSeparator
  typeOverrides : settings.typeOverrides = file.typeOverrides
  listing : settings.listing = file.listing

/-- `text` is the document that an invocation asks for: the row shapes of its catalog under the
settings of its file and its options. -/
def Invocation.Generates (inv : Invocation) (host : Host) (s : Store) (text : String) : Prop :=
  ∃ file settings v shapes types, inv.ReadsSettings host s file ∧ inv.Overlays file settings ∧
    Holds host s inv.catalog v ∧ Catalog.load v = .ok shapes ∧
    host.exhausts (.document settings shapes) = false ∧ TypeMap.ofSettings settings = .ok types ∧
    generate settings types shapes inv.commandLine = .ok text

/-- A text has bytes: no half of a surrogate pair stands in it. -/
def Host.HasBytes (host : Host) (text : String) : Prop :=
  ∀ c ∈ text.toList, host.halves.half? c = none

section
variable {host : Host} {inv : Invocation} {s : Store}

theorem Invocation.overlays_iff {file settings : Settings} :
    inv.Overlays file settings ↔ settings = inv.overlay file := by
  constructor
  · intro h
    obtain ⟨policy, exported, comment, indent, separator, overrides, listing⟩ := settings
    obtain ⟨hpolicy, hpolicy', hexport, hexport', hcomment, hcomment', rfl, rfl, rfl, rfl⟩ := h
    simp only [overlay, Settings.mk.injEq, and_true]
    refine ⟨?_, ?_, ?_⟩
    · cases hgiven : inv.nullablePolicy with
      | none => exact hpolicy' hgiven
      | some p => exact hpolicy p hgiven
    · cases hgiven : inv.exportNamespaces with
      | false => exact hexport' hgiven
      | true => exact hexport hgiven
    · cases hgiven : inv.generationComment with
      | false => exact hcomment' hgiven
      | true => exact hcomment hgiven
  · rintro rfl
    refine ⟨?_, ?_, ?_, ?_, ?_, ?_, rfl, rfl, rfl, rfl⟩
    all_goals simp +contextual [overlay]

/-! ## What is read -/

theorem readFile_ok {a : Address} {bytes : ByteArray} (ha : (s.node? a).isSome = true)
    (h : readFile s a = .ok bytes) : s.node? a = some (.file bytes) := by
  unfold readFile at h
  split at h
  · rename_i hfile
    rw [hfile, Except.ok.inj h]
  · cases h
  · rename_i hnone
    rw [hnone] at ha
    cases ha

theorem parseSettings_ok_iff {path : String} {bytes : ByteArray} {file : Settings} :
    parseSettings host path bytes = .ok file ↔
      ∃ content, Text.ofBytes bytes = .ok content ∧
        ∃ v, Json.read host.reader content = .ok v ∧ Settings.ofJson v = .ok file := by
  simp only [parseSettings, sequence_ok_iff, mapError_ok_iff]

theorem Invocation.fileSettings_ok {file : Settings} (hinv : inv.HasConfig s)
    (h : inv.fileSettings host s = .ok file) : inv.ReadsSettings host s file := by
  unfold Invocation.fileSettings at h
  split at h
  · rename_i hconfig
    exact .inl ⟨hconfig, (Except.ok.inj h).symm⟩
  · rename_i a hconfig
    split at h
    · cases h
    · rename_i bytes hbytes
      obtain ⟨content, hcontent, v, hv, hfile⟩ := parseSettings_ok_iff.1 h
      have hread := readFile_ok (hinv a hconfig) hbytes
      exact .inr ⟨a, v, hconfig, ⟨bytes, content, hread, hcontent, hv⟩, hfile⟩

theorem Invocation.loadCatalog_ok {shapes : List RowShape}
    (hinv : (s.node? inv.catalog).isSome = true) (h : inv.loadCatalog host s = .ok shapes) :
    ∃ v, Holds host s inv.catalog v ∧ Catalog.load v = .ok shapes := by
  simp only [Invocation.loadCatalog, Catalog.loadFile, sequence_ok_iff, mapError_ok_iff] at h
  obtain ⟨bytes, hbytes, content, hcontent, v, hv, hshapes⟩ := h
  exact ⟨v, ⟨bytes, content, readFile_ok hinv hbytes, hcontent, hv⟩, hshapes⟩

theorem Invocation.document_ok_iff {settings : Settings} {shapes : List RowShape} {text : String} :
    inv.document host settings shapes = .ok text ↔
      host.exhausts (.document settings shapes) = false ∧
        ∃ types, TypeMap.ofSettings settings = .ok types ∧
          generate settings types shapes inv.commandLine = .ok text := by
  unfold document
  cases host.exhausts (.document settings shapes) <;> simp

/-! ## What is asked for is one -/

theorem Holds.unique {a : Address} {v v' : Json} (h : Holds host s a v) (h' : Holds host s a v') :
    v = v' := by
  obtain ⟨_, _, hbytes, hcontent, hv⟩ := h
  obtain ⟨_, _, hbytes', hcontent', hv'⟩ := h'
  cases hbytes.symm.trans hbytes'
  cases hcontent.symm.trans hcontent'
  exact Except.ok.inj (hv.symm.trans hv')

theorem Invocation.ReadsSettings.unique {file file' : Settings}
    (h : inv.ReadsSettings host s file) (h' : inv.ReadsSettings host s file') : file = file' := by
  rcases h with ⟨hnone, rfl⟩ | ⟨a, v, ha, hv, hfile⟩ <;>
    rcases h' with ⟨hnone', rfl⟩ | ⟨a', v', ha', hv', hfile'⟩
  · rfl
  · cases hnone.symm.trans ha'
  · cases ha.symm.trans hnone'
  · cases ha.symm.trans ha'
    cases hv.unique hv'
    exact Except.ok.inj (hfile.symm.trans hfile')

/-- An invocation asks for one document at most. -/
theorem Invocation.Generates.unique {text text' : String} (h : inv.Generates host s text)
    (h' : inv.Generates host s text') : text = text' := by
  obtain ⟨file, settings, v, shapes, types, hreads, hover, hv, hload, -, htypes, htext⟩ := h
  obtain ⟨file', settings', v', shapes', types', hreads', hover', hv', hload', -, htypes', htext'⟩
    := h'
  cases hreads.unique hreads'
  cases (overlays_iff.1 hover).trans (overlays_iff.1 hover').symm
  cases hv.unique hv'
  cases hload.symm.trans hload'
  cases htypes.symm.trans htypes'
  exact Except.ok.inj (htext.symm.trans htext')

/-! ## Runs -/

theorem Ending.exitCode_ofError (e : Error) : (Ending.ofError e).exitCode = 1 := by
  unfold Ending.ofError
  split <;> rfl

theorem exitCode_unreadSettings (path : String) (f : Json.Failure) :
    (unreadSettings path f).exitCode = 1 := by
  unfold unreadSettings
  split <;> rfl

theorem Host.exitCode_refusedSettings (host : Host) (path : String) (e : Error) :
    (host.refusedSettings path e).exitCode = 1 := by
  unfold refusedSettings
  split
  · split <;> rfl
  · rfl

theorem Invocation.fileSettings_error {ending : Ending}
    (h : inv.fileSettings host s = .error ending) : ending.exitCode = 1 := by
  unfold Invocation.fileSettings at h
  split at h
  · cases h
  · split at h
    · cases h
      rfl
    · simp only [parseSettings, sequence_error_iff, mapError_error_iff] at h
      obtain ⟨fault, -, rfl⟩ | ⟨content, -, ⟨f, -, rfl⟩ | ⟨v, -, e, -, rfl⟩⟩ := h
      · rfl
      · exact exitCode_unreadSettings _ f
      · exact host.exitCode_refusedSettings _ e

theorem Host.checkText_ok {text : String} (h : host.checkText text = .ok ()) :
    host.HasBytes text := by
  unfold checkText at h
  split at h
  · cases h
  · rename_i hnone
    exact host.halves.fault?_eq_none_iff.1 hnone

/-- A write to an address without a step up puts a text that has bytes there, or changes no file at
all. -/
theorem write_routeTo_cases {t : Store} {output : Address} (hup : stepUp ∉ output)
    {content : String} {r : Except Error Unit}
    (h : s.write [] (routeTo output) content host.checkText = (t, r)) :
    ((∃ e, r = .error e) ∧ Store.Grown s t) ∨
      (r = .ok () ∧ host.HasBytes content ∧
        ∀ a, t.file? a = if a = output then some content.toUTF8 else s.file? a) := by
  have houtput : (routeTo output).resolve [] = output := Route.foldl_step_of_not_mem hup []
  rcases Store.write_cases h with hfailed | ⟨rfl, hcheck, -⟩
  · exact .inl hfailed
  · refine .inr ⟨rfl, Host.checkText_ok hcheck, fun a => ?_⟩
    rw [Store.file?_write h, houtput]

variable (host) in
/-- A run that ends well has written its document; another has at most made directories, and none
before there was a document. -/
theorem Invocation.run_cases (hconfig : inv.HasConfig s)
    (hcatalog : (s.node? inv.catalog).isSome = true) (hup : stepUp ∉ inv.output) :
    ((inv.run host s).ending.exitCode = 1 ∧ (inv.run host s).store = s) ∨
      ∃ text, inv.Generates host s text ∧
        (((inv.run host s).ending.exitCode = 1 ∧ Store.Grown s (inv.run host s).store) ∨
          ((inv.run host s).ending = .success ∧ host.HasBytes text ∧
            ∀ a, (inv.run host s).store.file? a =
              if a = inv.output then some text.toUTF8 else s.file? a)) := by
  unfold Invocation.run
  split
  · rename_i ending hsettings
    exact .inl ⟨Invocation.fileSettings_error hsettings, rfl⟩
  · rename_i file hsettings
    split
    · rename_i e _
      exact .inl ⟨Ending.exitCode_ofError e, rfl⟩
    · rename_i shapes hshapes
      dsimp only
      split
      · rename_i e _
        exact .inl ⟨Ending.exitCode_ofError e, rfl⟩
      · rename_i text hdocument
        have hgenerates : inv.Generates host s text := by
          obtain ⟨v, hv, hload⟩ := Invocation.loadCatalog_ok hcatalog hshapes
          obtain ⟨hroom, types, htypes, htext⟩ := Invocation.document_ok_iff.1 hdocument
          have hreads := Invocation.fileSettings_ok hconfig hsettings
          have hover : inv.Overlays file (inv.overlay file) := Invocation.overlays_iff.2 rfl
          exact ⟨file, _, v, shapes, types, hreads, hover, hv, hload, hroom, htypes, htext⟩
        refine .inr ⟨text, hgenerates, ?_⟩
        split
        · rename_i after e hwrite
          rcases write_routeTo_cases hup hwrite with ⟨-, hgrown⟩ | ⟨hok, -⟩
          · exact .inl ⟨Ending.exitCode_ofError e, hgrown⟩
          · cases hok
        · rename_i after hwrite
          rcases write_routeTo_cases hup hwrite with ⟨⟨e, he⟩, -⟩ | ⟨-, hbytes, hfiles⟩
          · cases he
          · exact .inr ⟨rfl, hbytes, hfiles⟩

theorem run_of_ok {cwd : Address} {args : List String}
    (h : Invocation.ofArguments s cwd args = .ok inv) :
    run host s cwd args =
      ⟨(inv.run host s).store, outputText host inv.verbose (inv.run host s),
        (inv.run host s).ending⟩ := by
  rw [run, h]

/-- A run with exit code zero on an invocation has written the document of the invocation. -/
theorem file?_of_run {cwd : Address} (hcwd : stepUp ∉ cwd) {args : List String}
    (hinv : Invocation.ofArguments s cwd args = .ok inv)
    (hexit : (run host s cwd args).ending.exitCode = 0) :
    ∃ text, inv.Generates host s text ∧ host.HasBytes text ∧
      ∀ a, (run host s cwd args).store.file? a =
        if a = inv.output then some text.toUTF8 else s.file? a := by
  obtain ⟨hconfig, hcatalog, hup⟩ := Invocation.ofArguments_ok hcwd hinv
  rw [run_of_ok hinv] at hexit ⊢
  rcases Invocation.run_cases host hconfig hcatalog hup with
    ⟨hfailed, -⟩ | ⟨text, htext, ⟨hfailed, -⟩ | ⟨-, hbytes, hfiles⟩⟩
  · cases hexit.symm.trans hfailed
  · cases hexit.symm.trans hfailed
  · exact ⟨text, htext, hbytes, hfiles⟩

end

/-- A file that encodes a text holds what is read from its lines. -/
theorem Holds.of_text {host : Host} {s : Store} {a : Address} {v : Json} (text : String)
    (h : s.node? a = some (.file text.toUTF8))
    (hread : Json.read host.reader (String.ofList (Text.unifyNewlines text.toList)) = .ok v) :
    Holds host s a v :=
  ⟨_, _, h, Text.ofBytes_toUTF8 text, hread⟩

/-- A catalog of one shape with one column, which is nullable. -/
def rideCatalog : String :=
  "\x7b\"row_shapes\": [\x7b\"namespace\": \"fleet\", \"name\": \"Ride\", \"columns\":"
    ++ " [\x7b\"name\": \"end_time\", \"type\": \"text\", \"nullable\": true\x7d]\x7d]\x7d"

/-- The shape in it. -/
def ride : RowShape where
  path := ⟨⟨"fleet", by decide⟩, []⟩
  name := .str "Ride"
  columns := [⟨.str "end_time", .str "text", .bool true, by decide⟩]
  named := by decide
  distinct := ⟨by decide, List.pairwise_singleton _ _⟩

/-- A file with this catalog holds a document with this shape. -/
theorem holds_ride {s : Store} {a : Address}
    (h : s.node? a = some (.file rideCatalog.toUTF8)) :
    ∃ v, Holds .standard s a v ∧ Catalog.load v = .ok [ride] := by
  have hvalue : Json.read .standard (String.ofList (Text.unifyNewlines rideCatalog.toList)) =
      .ok (.obj [("row_shapes", .arr [.obj
        [("namespace", .str "fleet"), ("name", .str "Ride"), ("columns", .arr [.obj
          [("name", .str "end_time"), ("type", .str "text"), ("nullable", .bool true)]])]])]) := by
    cbv
  exact ⟨_, .of_text _ h hvalue, by decide +kernel⟩

theorem Invocation.loadCatalog_ride {inv : Invocation} {s : Store}
    (h : s.node? inv.catalog = some (.file rideCatalog.toUTF8)) :
    inv.loadCatalog .standard s = .ok [ride] := by
  obtain ⟨v, ⟨bytes, content, hbytes, hcontent, hv⟩, hload⟩ := holds_ride h
  simp only [loadCatalog, Catalog.loadFile, sequence_ok_iff, mapError_ok_iff]
  exact ⟨bytes, by rw [readFile, hbytes], content, hcontent, v, hv, hload⟩

/-- A directory with the catalog and an older output. -/
def rideStore : Store where
  entries := [(["home"], .directory), (["home", "c.json"], .file rideCatalog.toUTF8),
    (["home", "out.ts"], .file ⟨#[0x6F]⟩)]

/-- Arguments that have the output written over, with flags. -/
def overwritingArguments : List String :=
  ["c.json", "new/../out.ts", "--export-namespaces", "--nullable-policy", "union",
    "--generation-comment"]

/-- What they ask for there. -/
def overwriting : Invocation :=
  ⟨none, some .union, true, true, false, ["home", "c.json"], ["home", "out.ts"]⟩

theorem ofArguments_overwriting :
    Invocation.ofArguments rideStore ["home"] overwritingArguments = .ok overwriting := by
  decide +kernel

theorem ending_overwriting : (overwriting.run .standard rideStore).ending = .success := by
  rw [Invocation.run, Invocation.loadCatalog_ride rfl]
  decide +kernel

end RowDecl.Command
