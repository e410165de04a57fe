import ForeignMatrix.Proofs.Encoding
import ForeignMatrix.Proofs.FileTree
import ForeignMatrix.Proofs.Settings.Json
import ForeignMatrix.Proofs.Settings.Toml
import ForeignMatrix.Proofs.Settings.Yaml
import ForeignMatrix.Settings.Loader
import Mathlib

/-!
# Saved settings are loaded again

What is read at the path of saved settings is the document that was written, and a
document is read in the format in which it was written: the first one that is tried
where the name of the file tells none. The path may begin at the root or not.
-/

namespace ForeignMatrix

namespace Settings

/-! ### Documents -/

/-- A document is read in the format in which it was written. -/
theorem read?_write (format : SettingsFormat) (settings : Settings) :
    format.read? (format.write settings) = some settings := by
  cases format with
  | toml => exact settings.ofToml?_toToml
  | yaml => exact settings.ofYaml?_toYaml
  | json => exact settings.ofJson?_toJson

/-- A document that was written for a path is read as the settings at that path. -/
theorem ofDocument_toDocument (path : HostPath) (settings : Settings) :
    ofDocument path (settings.toDocument path) = .ok settings := by
  rw [ofDocument, toDocument]
  cases SettingsFormat.ofPath path with
  | some format =>
    simp only [Option.getD_some, read?_write]
  | none =>
    have hfirst : SettingsFormat.all.findSome? (fun format =>
        format.read? (SettingsFormat.toml.write settings)) = some settings := by
      rw [SettingsFormat.all, List.findSome?_cons_of_isSome, read?_write]
      rw [read?_write]
      rfl
    simp only [Option.getD_none, hfirst]

/-! ### Files -/

/-- Where a path leads to a place that is no directory, settings are saved there. -/
theorem save_of_place (settings : Settings) {path : HostPath} {files : FileTree (List UInt8)}
    {place : Place} (hpath : files.place? path = some place)
    (hplace : files.isDirectoryAt place = false) :
    (settings.save path files).1 =
      .ok (files.put place (.file (settings.toDocument path).toUTF8.toList)) := by
  rw [save, FileTree.write?, hpath]
  simp [hplace]

/-- What was saved is the document that is written for the path. -/
theorem read?_save {settings : Settings} {path : HostPath} {files saved : FileTree (List UInt8)}
    (hsave : (settings.save path files).1 = .ok saved) :
    saved.read? path = some (settings.toDocument path).toUTF8.toList := by
  rw [save] at hsave
  cases hfiles : files.write? path (settings.toDocument path).toUTF8.toList with
  | none =>
    rw [hfiles] at hsave
    contradiction
  | some tree =>
    rw [hfiles] at hsave
    obtain rfl : tree = saved := Except.ok.inj hsave
    exact FileTree.read?_write hfiles

/-- Saved settings are loaded again. -/
theorem loadFile_save {settings : Settings} {path : HostPath}
    {files saved : FileTree (List UInt8)} (hsave : (settings.save path files).1 = .ok saved) :
    loadFile saved path = .ok settings := by
  rw [loadFile, read?_save hsave, Option.bind_some, Text.Utf8.decode?_encoded]
  exact ofDocument_toDocument path settings

/-- Settings that were saved to a file are loaded again. Where the name of the file tells no
format, TOML was written, and TOML is the first format that reads it. -/
theorem saved_settings_load (settings : Settings) {path : HostPath}
    {files saved : FileTree (List UInt8)} (hsave : (settings.save path files).1 = .ok saved) :
    loadFile saved path = .ok settings ∧
      (SettingsFormat.ofPath path = none →
        saved.read? path = some settings.toToml.toUTF8.toList ∧
        SettingsFormat.all.findSome? (fun format =>
          (format.read? settings.toToml).map fun loaded => (format, loaded)) =
            some (.toml, settings)) := by
  refine ⟨loadFile_save hsave, fun hformat => ⟨?_, ?_⟩⟩
  · rw [read?_save hsave, toDocument, hformat]
    rfl
  · have hread : SettingsFormat.toml.read? settings.toToml = some settings :=
      read?_write .toml settings
    rw [SettingsFormat.all, List.findSome?_cons, hread]
    rfl

/-- A host with a working directory below the root. -/
def desk : FileTree (List UInt8) := .inDirectory [(HostPath.ofText "desk").bytes]

/-- An empty path is not taken for none, and quotes and breaks come back as they were, in a file
that is named from the root. -/
theorem saved_settings_load_quotes :
    ∃ saved, (Settings.save ⟨⟨some "", "'\"\n"⟩, {}, .info⟩ (.ofText "/desk/s.cfg") desk).1 =
        .ok saved ∧
      loadFile saved (.ofText "/desk/s.cfg") = .ok ⟨⟨some "", "'\"\n"⟩, {}, .info⟩ := by
  have hplace : desk.place? (.ofText "/desk/s.cfg") =
      some [(HostPath.ofText "desk").bytes, (HostPath.ofText "s.cfg").bytes] := by decide +kernel
  have hfree : desk.isDirectoryAt
      [(HostPath.ofText "desk").bytes, (HostPath.ofText "s.cfg").bytes] = false := by
    decide +kernel
  have hsave := save_of_place ⟨⟨some "", "'\"\n"⟩, {}, .info⟩ hplace hfree
  exact ⟨_, hsave, (saved_settings_load _ hsave).1⟩

/-- Settings saved to a file whose name tells YAML are written as YAML and loaded again, whatever
their texts are: a path that reads like an absent one is still a path. -/
theorem loadFile_save_yaml (settings : Settings) {path : HostPath}
    (hextension : path.extension?.bind Text.Utf8.decode? = some "yaml" ∨
      path.extension?.bind Text.Utf8.decode? = some "yml")
    {files saved : FileTree (List UInt8)} (hsave : (settings.save path files).1 = .ok saved) :
    saved.read? path = some settings.toYaml.toUTF8.toList ∧
      ofYaml? settings.toYaml = some settings ∧ loadFile saved path = .ok settings := by
  have hformat : SettingsFormat.ofPath path = some .yaml := by
    rw [SettingsFormat.ofPath]
    rcases hextension with hextension | hextension <;> rw [hextension] <;> rfl
  refine ⟨?_, settings.ofYaml?_toYaml, loadFile_save hsave⟩
  rw [read?_save hsave, toDocument, hformat]
  rfl

theorem loadFile_save_yaml_null :
    ∃ saved, (HostPath.ofText "/desk/s.yaml").extension?.bind Text.Utf8.decode? = some "yaml" ∧
      (Settings.save ⟨⟨some "~", "null"⟩, {}, .info⟩ (.ofText "/desk/s.yaml") desk).1 =
        .ok saved ∧
      loadFile saved (.ofText "/desk/s.yaml") = .ok ⟨⟨some "~", "null"⟩, {}, .info⟩ := by
  have hextension : (HostPath.ofText "/desk/s.yaml").extension?.bind Text.Utf8.decode? =
      some "yaml" := by
    have hbytes : (HostPath.ofText "/desk/s.yaml").extension? = some "yaml".toUTF8.toList := by
      decide +kernel
    rw [hbytes, Option.bind_some, Text.Utf8.decode?_encoded]
  have hplace : desk.place? (.ofText "/desk/s.yaml") =
      some [(HostPath.ofText "desk").bytes, (HostPath.ofText "s.yaml").bytes] := by
    decide +kernel
  have hfree : desk.isDirectoryAt
      [(HostPath.ofText "desk").bytes, (HostPath.ofText "s.yaml").bytes] = false := by
    decide +kernel
  have hsave := save_of_place ⟨⟨some "~", "null"⟩, {}, .info⟩ hplace hfree
  exact ⟨_, hextension, hsave, (loadFile_save_yaml _ (.inl hextension) hsave).2.2⟩

end Settings

end ForeignMatrix
