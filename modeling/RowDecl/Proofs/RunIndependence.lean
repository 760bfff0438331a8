import RowDecl.Proofs.RunAtomicity

/-!
# What the document does not depend on

Two invocations ask alike (`Invocation.AsksAlike`) if their catalogs and their settings files have
the same bytes and the same last names, their outputs have the same last name and their options are
the same, but for the one that shows the log. Directories, the spelling of paths and whatever else
the stores hold are free. Then they ask for the same document (`Invocation.AsksAlike.generates`),
and two runs that end well write the same bytes (`run_output_alike`).
-/

namespace RowDecl.Command

/-- What a file holds depends on its bytes. -/
theorem Holds.of_file?_eq {host : Host} {s s' : Store} {a a' : Address} {v : Json}
    (h : Holds host s a v) (hsame : s'.file? a' = s.file? a) : Holds host s' a' v := by
  obtain ⟨bytes, content, hbytes, hcontent, hv⟩ := h
  refine ⟨bytes, content, ?_, hcontent, hv⟩
  rw [← Store.file?_eq_some_iff, hsame]
  exact Store.file?_eq_some_iff.2 hbytes

/-- Two invocations that read the same bytes from files of the same names, write to files of the
same name and have the same options. -/
structure Invocation.AsksAlike (inv : Invocation) (s : Store) (inv' : Invocation) (s' : Store) :
    Prop where
  catalogBytes : s'.file? inv'.catalog = s.file? inv.catalog
  catalogName : nameOf inv'.catalog = nameOf inv.catalog
  outputName : nameOf inv'.output = nameOf inv.output
  configBytes : inv'.config.map s'.file? = inv.config.map s.file?
  configName : inv'.config.map nameOf = inv.config.map nameOf
  nullablePolicy : inv'.nullablePolicy = inv.nullablePolicy
  exportNamespaces : inv'.exportNamespaces = inv.exportNamespaces
  generationComment : inv'.generationComment = inv.generationComment

namespace Invocation.AsksAlike

variable {host : Host} {inv inv' : Invocation} {s s' : Store} (h : inv.AsksAlike s inv' s')
include h

theorem readsSettings {file : Settings} (hreads : inv.ReadsSettings host s file) :
    inv'.ReadsSettings host s' file := by
  have hbytes := h.configBytes
  rcases hreads with ⟨hnone, rfl⟩ | ⟨a, v, ha, hv, hfile⟩
  · rw [hnone] at hbytes
    exact .inl ⟨Option.map_eq_none_iff.1 hbytes, rfl⟩
  · rw [ha] at hbytes
    obtain ⟨a', ha', hsame⟩ := Option.map_eq_some_iff.1 hbytes
    exact .inr ⟨a', v, ha', hv.of_file?_eq hsame, hfile⟩

theorem overlays {file settings : Settings} (hover : inv.Overlays file settings) :
    inv'.Overlays file settings := by
  have hsame : inv'.overlay file = inv.overlay file := by
    simp only [Invocation.overlay, h.nullablePolicy, h.exportNamespaces, h.generationComment]
  rw [Invocation.overlays_iff, hsame]
  exact Invocation.overlays_iff.1 hover

/-- The comment tells paths by their last names. -/
theorem commandLine : inv'.commandLine = inv.commandLine := by
  have hconfig : ∀ inv : Invocation,
      (inv.config.elim [] fun a => [OptionName.config.word, nameOf a]) =
        (inv.config.map nameOf).elim [] fun name => [OptionName.config.word, name] := by
    intro inv
    cases inv.config <;> rfl
  simp only [Invocation.commandLine, hconfig, h.configName, h.catalogName, h.outputName,
    h.nullablePolicy, h.exportNamespaces, h.generationComment]

/-- The same document is asked for. -/
theorem generates {text : String} (hgenerates : inv.Generates host s text) :
    inv'.Generates host s' text := by
  obtain ⟨file, settings, v, shapes, types, hreads, hover, hv, hload, hroom, htypes, htext⟩ :=
    hgenerates
  refine ⟨file, settings, v, shapes, types, h.readsSettings hreads, h.overlays hover,
    hv.of_file?_eq h.catalogBytes, hload, hroom, htypes, ?_⟩
  rw [h.commandLine, htext]

end Invocation.AsksAlike

/-- **The document does not depend on where things are.** Two runs with exit code zero whose
invocations ask alike have written the same bytes, whatever their working directories, the spelling
of their arguments and the rest of their stores are, with the log shown or not. The addresses of the
working directories have no step up in them, as those of any directories. -/
theorem run_output_alike (host : Host) {s s' : Store} {cwd cwd' : Address} (hcwd : stepUp ∉ cwd)
    (hcwd' : stepUp ∉ cwd') {args args' : List String} {inv inv' : Invocation}
    (hinv : Invocation.ofArguments s cwd args = .ok inv)
    (hinv' : Invocation.ofArguments s' cwd' args' = .ok inv')
    (hexit : (run host s cwd args).ending.exitCode = 0)
    (hexit' : (run host s' cwd' args').ending.exitCode = 0) (h : inv.AsksAlike s inv' s') :
    ∃ bytes, (run host s cwd args).store.file? inv.output = some bytes ∧
      (run host s' cwd' args').store.file? inv'.output = some bytes := by
  obtain ⟨text, htext, -, hfiles⟩ := file?_of_run hcwd hinv hexit
  obtain ⟨text', htext', -, hfiles'⟩ := file?_of_run hcwd' hinv' hexit'
  obtain rfl := (h.generates htext).unique htext'
  exact ⟨text.toUTF8, by rw [hfiles, if_pos rfl], by rw [hfiles', if_pos rfl]⟩

/-- Another directory with the same catalog. -/
def otherStore : Store where
  entries := [(["data"], .directory), (["data", "in"], .directory),
    (["data", "in", "c.json"], .file rideCatalog.toUTF8)]

/-- Arguments that ask there, in other words, for what `overwritingArguments` ask for. -/
def writingArguments : List String :=
  ["-v", "--nullable-policy=union", "--generation-comment", "./in/c.json", "../out.ts",
    "--export-namespaces"]

/-- What they ask for there. -/
def writingAbove : Invocation :=
  ⟨none, some .union, true, true, true, ["data", "in", "c.json"], ["out.ts"]⟩

theorem run_output_alike_elsewhere :
    let r := run .standard rideStore ["home"] overwritingArguments
    let r' := run .standard otherStore ["data"] writingArguments
    r.ending.exitCode = 0 ∧ r'.ending.exitCode = 0 ∧ overwriting.AsksAlike rideStore writingAbove
      otherStore ∧ ∃ bytes, r.store.file? ["home", "out.ts"] = some bytes ∧
        r'.store.file? ["out.ts"] = some bytes := by
  intro r r'
  have hinv : Invocation.ofArguments otherStore ["data"] writingArguments = .ok writingAbove := by
    decide +kernel
  have hexit : r.ending.exitCode = 0 := by
    show (run .standard rideStore _ _).ending.exitCode = 0
    rw [run_of_ok ofArguments_overwriting, ending_overwriting]
    rfl
  have hexit' : r'.ending.exitCode = 0 := by
    show (run .standard otherStore _ _).ending.exitCode = 0
    rw [run_of_ok hinv, Invocation.run, Invocation.loadCatalog_ride rfl]
    decide +kernel
  have halike : overwriting.AsksAlike rideStore writingAbove otherStore :=
    ⟨by decide +kernel, rfl, rfl, rfl, rfl, rfl, rfl, rfl⟩
  obtain ⟨bytes, hbytes, hbytes'⟩ := run_output_alike .standard (by decide) (by decide)
    ofArguments_overwriting hinv hexit hexit' halike
  exact ⟨hexit, hexit', halike, bytes, hbytes, hbytes'⟩

end RowDecl.Command
