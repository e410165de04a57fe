import ForeignMatrix.Proofs.Document.Toml.Lines
import ForeignMatrix.Proofs.Settings.Records
import ForeignMatrix.Settings.Toml
import Mathlib

/-!
# Settings written as TOML are read back

The document is a sequence of three tables. Each line of it shows the setting it
was written for, whatever characters the texts hold; a path that is not set has
no line, and its absence is read back.
-/

namespace ForeignMatrix

namespace Toml

/-! ### Parts of the document -/

/-- A text as it is written. -/
def textEntry (key content : String) : Entry :=
  ⟨key, (quoted content).toList, .text content⟩

/-- A flag as it is written. -/
def flagEntry (key : String) (value : Bool) : Entry :=
  ⟨key, (toString value).toList, .flag value⟩

/-- Where the library is. -/
def librarySection (library : LibrarySettings) : Section where
  name := "library"
  entries := (library.path.map (textEntry "path")).toList ++ [textEntry "name" library.name]

/-- What is assumed about views. -/
def viewSection (views : ViewDefaults) : Section where
  name := "views"
  entries :=
    [textEntry "default_dtype" views.kind.shortName,
      flagEntry "default_owns_wrapped" views.ownsAdopted]

/-- How much goes to the journal. -/
def loggingSection (level : Level) : Section := ⟨"logging", [textEntry "level" level.name]⟩

/-- The three tables. -/
def settingsSections (settings : Settings) : List Section :=
  [librarySection settings.library, viewSection settings.views, loggingSection settings.level]

/-- The document is the sequence of the three tables. -/
theorem toList_toToml (settings : Settings) :
    settings.toToml.toList = sectionLines (settingsSections settings) := by
  obtain ⟨⟨path, name⟩, views, level⟩ := settings
  cases path <;>
    simp [Settings.toToml, settingsSections, librarySection, viewSection, loggingSection,
      textEntry, flagEntry, sectionLines, Section.lines, Entry.line, entryLine, headerLine]

/-! ### Reading the parts -/

theorem valid_textEntry {key : String} (hkey : IsBare key) (content : String) :
    (textEntry key content).Valid where
  bare := hkey
  shows := shows_quoted content
  plain := by
    rw [textEntry, quoted, String.toList_ofList]
    exact return_not_mem_quotedChars content.toList

theorem valid_flagEntry {key : String} (hkey : IsBare key) (value : Bool) :
    (flagEntry key value).Valid where
  bare := hkey
  shows := shows_flag value
  plain := by
    change '\r' ∉ (toString value).toList
    cases value <;> decide

/-- No key of settings needs quotes. -/
theorem isBare_keys : ∀ key ∈ ["library", "path", "name", "views", "default_dtype",
    "default_owns_wrapped", "logging", "level"], IsBare key := by
  simp [IsBare, isBareKey]

theorem valid_librarySection (library : LibrarySettings) : (librarySection library).Valid where
  bare := isBare_keys "library" (by simp)
  entries := by
    intro entry hentry
    rw [librarySection, List.mem_append, Option.mem_toList, Option.map_eq_some_iff,
      List.mem_singleton] at hentry
    obtain ⟨path, -, rfl⟩ | rfl := hentry
    · exact valid_textEntry (isBare_keys "path" (by simp)) path
    · exact valid_textEntry (isBare_keys "name" (by simp)) library.name
  distinct := by
    obtain ⟨path, name⟩ := library
    cases path with
    | none => exact List.nodup_singleton _
    | some path =>
      change ["path", "name"].Nodup
      decide

theorem valid_viewSection (views : ViewDefaults) : (viewSection views).Valid where
  bare := isBare_keys "views" (by simp)
  entries := by
    simp only [viewSection, List.forall_mem_cons, List.not_mem_nil]
    exact ⟨valid_textEntry (isBare_keys "default_dtype" (by simp)) _,
      valid_flagEntry (isBare_keys "default_owns_wrapped" (by simp)) _, nofun⟩
  distinct := by
    change ["default_dtype", "default_owns_wrapped"].Nodup
    decide

theorem valid_loggingSection (level : Level) : (loggingSection level).Valid where
  bare := isBare_keys "logging" (by simp)
  entries := by
    simp only [loggingSection, List.forall_mem_cons, List.not_mem_nil]
    exact ⟨valid_textEntry (isBare_keys "level" (by simp)) _, nofun⟩
  distinct := List.nodup_singleton _

/-- The document is read as the table of the three tables. -/
theorem parse?_toToml (settings : Settings) :
    parse? settings.toToml =
      some (.table .defined ((settingsSections settings).map Section.pair)) := by
  refine parse?_sections (toList_toToml settings) ?_ ?_
  · simp only [settingsSections, List.forall_mem_cons, List.not_mem_nil]
    exact ⟨valid_librarySection _, valid_viewSection _, valid_loggingSection _, nofun⟩
  · change ["library", "views", "logging"].Nodup
    decide

end Toml

/-- Settings written as TOML are read back. -/
theorem Settings.ofToml?_toToml (settings : Settings) :
    ofToml? settings.toToml = some settings := by
  rw [ofToml?, Toml.parse?_toToml, Option.bind_eq_bind, Option.bind_some]
  refine Reading.settings_of_records rfl ?_ ?_ ?_
  · obtain ⟨⟨path, name⟩, views, level⟩ := settings
    cases path with
    | none => exact Reading.library_of_name rfl rfl
    | some path => exact Reading.library_of_both rfl rfl rfl
  · exact Reading.views_of_both rfl rfl rfl
  · exact Reading.level_of_word rfl rfl

end ForeignMatrix
