import ForeignMatrix.Proofs.Document.Yaml.Nodes
import ForeignMatrix.Proofs.Settings.Records
import ForeignMatrix.Settings.Yaml
import Mathlib

/-!
# Settings written as YAML are read back

The document is a sequence of three sections. A text is written in a style in
which it cannot be taken for nothing, so a path that reads like an absent one is
told apart from it, whatever characters the texts hold.
-/

namespace ForeignMatrix

namespace Yaml

/-! ### Parts of the document -/

/-- A text as it is written. -/
def textEntry (key content : String) : Entry :=
  ⟨key, (written 4 content).toList, styleOf content.toList, content⟩

/-- A word that stands for itself. -/
def wordEntry (key word : String) : Entry := ⟨key, word.toList ++ ['\n'], .plain, word⟩

/-- Where the library is. -/
def librarySection (library : LibrarySettings) : Section where
  name := "library"
  entries := [library.path.elim (wordEntry "path" "null") (textEntry "path"),
    textEntry "name" library.name]

/-- What is assumed about views. -/
def viewSection (views : ViewDefaults) : Section where
  name := "views"
  entries := [textEntry "default_dtype" views.kind.shortName,
    wordEntry "default_owns_wrapped" (toString views.ownsAdopted)]

/-- How much goes to the journal. -/
def loggingSection (level : Level) : Section := ⟨"logging", [textEntry "level" level.name]⟩

/-- The three sections. -/
def settingsSections (settings : Settings) : List Section :=
  [librarySection settings.library, viewSection settings.views, loggingSection settings.level]

/-- The document is the sequence of the three sections. -/
theorem toList_toYaml (settings : Settings) :
    settings.toYaml.toList = (settingsSections settings).flatMap Section.lines := by
  obtain ⟨⟨path, name⟩, views, level⟩ := settings
  delta Settings.toYaml
  cases path <;>
    simp [settingsSections, librarySection, viewSection, loggingSection, textEntry, wordEntry,
      Section.lines, Entry.line, Entry.body, List.replicate]

/-! ### Reading the parts -/

/-- No key of settings needs quotes. -/
theorem isWord_keys : ∀ key ∈ ["library", "path", "name", "views", "default_dtype",
    "default_owns_wrapped", "logging", "level"], IsWord key := by
  have hword (key : String) (hkey : key.toList ≠ [] ∧ (∀ c ∈ key.toList, isWordChar c = true) ∧
      key.toList.length ≤ 1024) : IsWord key := ⟨hkey.1, hkey.2.1, hkey.2.2⟩
  intro key hkey
  apply hword
  revert key
  simp [isWordChar]

theorem valid_textEntry {key : String} (hkey : IsWord key) (content : String) :
    (textEntry key content).Valid where
  word := hkey
  spells := spells_written 2 content

/-- A word that no part of a plain text speaks against stands for itself. -/
theorem valid_wordEntry {key : String} (hkey : IsWord key) {word : String}
    (hplain : canBePlain word.toList = true) (hne : word.toList ≠ []) :
    (wordEntry key word).Valid where
  word := hkey
  spells := by
    have hspells := spells_plain (isPlain_of_canBePlain hplain) hne 2
    rwa [String.ofList_toList] at hspells

theorem valid_librarySection (library : LibrarySettings) : (librarySection library).Valid where
  word := isWord_keys "library" (by simp)
  nonempty := List.cons_ne_nil _ _
  entries := by
    simp only [librarySection, List.forall_mem_cons, List.not_mem_nil]
    refine ⟨?_, valid_textEntry (isWord_keys "name" (by simp)) _, nofun⟩
    cases library.path with
    | none => exact valid_wordEntry (isWord_keys "path" (by simp)) (by decide) (by decide)
    | some path => exact valid_textEntry (isWord_keys "path" (by simp)) path

theorem valid_viewSection (views : ViewDefaults) : (viewSection views).Valid where
  word := isWord_keys "views" (by simp)
  nonempty := List.cons_ne_nil _ _
  entries := by
    simp only [viewSection, List.forall_mem_cons, List.not_mem_nil]
    refine ⟨valid_textEntry (isWord_keys "default_dtype" (by simp)) _, ?_, nofun⟩
    have hkey := isWord_keys "default_owns_wrapped" (by simp)
    cases views.ownsAdopted with
    | false => exact valid_wordEntry hkey (by decide) (by decide)
    | true => exact valid_wordEntry hkey (by decide) (by decide)

theorem valid_loggingSection (level : Level) : (loggingSection level).Valid where
  word := isWord_keys "logging" (by simp)
  nonempty := List.cons_ne_nil _ _
  entries := by
    simp only [loggingSection, List.forall_mem_cons, List.not_mem_nil]
    exact ⟨valid_textEntry (isWord_keys "level" (by simp)) _, nofun⟩

/-- The document is read as the mapping of the three mappings. -/
theorem parse?_toYaml (settings : Settings) :
    parse? settings.toYaml =
      some ⟨some (.mapping ((settingsSections settings).map Section.pair)), []⟩ := by
  refine parse?_sections (List.cons_ne_nil _ _) ?_ (toList_toYaml settings)
  exact List.forall_mem_cons.mpr ⟨valid_librarySection _, List.forall_mem_cons.mpr
    ⟨valid_viewSection _, List.forall_mem_singleton.mpr (valid_loggingSection _)⟩⟩

/-- A text is written without quotes only if it means nothing else. -/
theorem styleOf_plain {text : List Char} (hplain : styleOf text = .plain) :
    isAmbiguous (String.ofList text) = false := by
  unfold styleOf at hplain
  split_ifs at hplain with hline hliteral hclear
  rw [Bool.and_eq_true, Bool.not_eq_true'] at hclear
  exact hclear.1

/-- A written text is never taken for an absent one. -/
theorem optionalText_written (document : Document) (text : String) :
    document.optionalText (.scalar none (styleOf text.toList) text) = some (some text) := by
  by_cases hplain : styleOf text.toList = .plain
  · have hclear := styleOf_plain hplain
    rw [String.ofList_toList] at hclear
    simp only [isAmbiguous, Bool.or_eq_false_iff] at hclear
    obtain ⟨⟨⟨⟨⟨hne, hnull⟩, -⟩, -⟩, -⟩, -⟩ := hclear
    have hempty : text.isEmpty = false := by
      rw [String.isEmpty_eq_false_iff]
      rintro rfl
      contradiction
    simp [Document.optionalText, Document.resolve, hplain, hempty, hnull]
  · simp [Document.optionalText, Document.resolve, hplain]

end Yaml

/-- Settings written as YAML are read back. -/
theorem Settings.ofYaml?_toYaml (settings : Settings) :
    ofYaml? settings.toYaml = some settings := by
  let document : Yaml.Document :=
    ⟨some (.mapping ((Yaml.settingsSections settings).map Yaml.Section.pair)), []⟩
  have hparse : Yaml.parse? settings.toYaml = some document := Yaml.parse?_toYaml settings
  have hpath (text : String) := Yaml.optionalText_written document text
  rw [ofYaml?, hparse, Option.bind_eq_bind, Option.bind_some]
  refine Reading.settings_of_records rfl ?_ ?_ ?_
  · obtain ⟨⟨path, name⟩, views, level⟩ := settings
    cases path with
    | none => exact Reading.library_of_both rfl rfl rfl
    | some path => exact Reading.library_of_both rfl (hpath path) rfl
  · refine Reading.views_of_both rfl rfl ?_
    cases settings.views.ownsAdopted <;> rfl
  · exact Reading.level_of_word rfl rfl

end ForeignMatrix
