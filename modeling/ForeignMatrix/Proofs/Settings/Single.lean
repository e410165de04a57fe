import ForeignMatrix.Settings.Document
import Mathlib

/-!
# Single settings

Settings are five single ones. Each has one entry of its own in a document, under
a key of one of the three records, and documents that load have in them what
their own entries mean, or the usual value where there is no entry.
-/

namespace ForeignMatrix

/-- One of the settings. -/
inductive Setting where
  /-- Path of the library. -/
  | path
  /-- Base name of the library. -/
  | name
  /-- Kind of the elements. -/
  | kind
  /-- Whether an adopted matrix is owned. -/
  | ownership
  /-- Finest level that goes to the journal. -/
  | level
  deriving DecidableEq, Repr

namespace Setting

/-- What the setting can be set to. -/
def Value : Setting → Type
  | path => Option String
  | name => String
  | kind => ElementKind
  | ownership => Bool
  | level => Level

/-- What it is set to. -/
def value (settings : Settings) : (setting : Setting) → setting.Value
  | path => settings.library.path
  | name => settings.library.name
  | kind => settings.views.kind
  | ownership => settings.views.ownsAdopted
  | level => settings.level

/-- What it is where nothing is said. -/
def usual (setting : Setting) : setting.Value := setting.value {}

/-- Settings are the same if each of them is. -/
theorem ext {settings other : Settings}
    (h : ∀ setting : Setting, setting.value settings = setting.value other) : settings = other := by
  obtain ⟨⟨path, name⟩, ⟨kind, owns⟩, level⟩ := settings
  obtain rfl : path = _ := h .path
  obtain rfl : name = _ := h .name
  obtain rfl : kind = _ := h .kind
  obtain rfl : owns = _ := h .ownership
  obtain rfl : level = _ := h .level
  rfl

/-- Name of the record that the setting is in. -/
def record : Setting → String
  | path => "library"
  | name => "library"
  | kind => "views"
  | ownership => "views"
  | level => "logging"

/-- Keys of the record, in order. -/
def keys : Setting → List String
  | path => ["path", "name"]
  | name => ["path", "name"]
  | kind => ["default_dtype", "default_owns_wrapped"]
  | ownership => ["default_dtype", "default_owns_wrapped"]
  | level => ["level"]

/-- Key of the setting itself. -/
def key : Setting → String
  | path => "path"
  | name => "name"
  | kind => "default_dtype"
  | ownership => "default_owns_wrapped"
  | level => "level"

end Setting

namespace Reading

variable {ν : Type} {reading : Reading ν} {value : ν}

/-- What an entry sets a setting to. -/
def meaning? (reading : Reading ν) : (setting : Setting) → ν → Option setting.Value
  | .path => reading.optionalText
  | .name => reading.text
  | .kind => reading.choice ElementKind.shortName ElementKind.all
  | .ownership => reading.flag
  | .level => reading.choice Level.name Level.all

/-- What a record says about a setting under the key of the setting. -/
def saidIn? (reading : Reading ν) (setting : Setting) (record : ν) : Option setting.Value := do
  let parts ← reading.fields setting.keys record
  reading.meaning? setting (← parts setting.key)

/-- What a document says about a setting in the record of the setting. -/
def said? (reading : Reading ν) (setting : Setting) (value : ν) : Option setting.Value := do
  let records ← reading.fields ["library", "views", "logging"] value
  reading.saidIn? setting (← records setting.record)

/-- If a part that is read has in it what it says, so has a part that may be missing. -/
theorem part_said {α β : Type} {read : ν → Option α} {usual result : α} {field : Option ν}
    (h : part read usual field = some result) {said? : ν → Option β} {content : α → β}
    (hread : ∀ value result, read value = some result →
      content result = (said? value).getD (content usual)) :
    content result = (field.bind said?).getD (content usual) := by
  cases field with
  | none => exact congrArg content (Option.some.inj h).symm
  | some value => exact hread value result h

/-- A single value that is read is what is said, or else the usual one. -/
theorem part_value {α : Type} {read : ν → Option α} {usual result : α} {field : Option ν}
    (h : part read usual field = some result) : result = (field.bind read).getD usual := by
  refine @part_said ν α α read usual result field h read id fun value result hresult => ?_
  rw [hresult, Option.getD_some, id]

/-- A record says about a setting what the part under its key means. -/
theorem saidIn?_of_fields (setting : Setting) {record : ν} {parts : String → Option ν}
    (hparts : reading.fields setting.keys record = some parts) :
    reading.saidIn? setting record = (parts setting.key).bind (reading.meaning? setting) := by
  rw [saidIn?, hparts, Option.bind_eq_bind, Option.bind_some, Option.bind_eq_bind]

/-- What is read of the library is what its record says. -/
theorem library_said {record : ν} {library : LibrarySettings}
    (h : reading.library record = some library) :
    library.path = (reading.saidIn? .path record).getD none ∧
      library.name = (reading.saidIn? .name record).getD defaultLibraryName := by
  rw [Reading.library] at h
  split_ifs at h
  · contradiction
  · obtain ⟨parts, hparts, h⟩ := Option.bind_eq_some_iff.mp h
    obtain ⟨path, hpath, h⟩ := Option.bind_eq_some_iff.mp h
    obtain ⟨name, hname, h⟩ := Option.bind_eq_some_iff.mp h
    obtain rfl := Option.some.inj h
    rw [saidIn?_of_fields .path hparts, saidIn?_of_fields .name hparts]
    exact ⟨part_value hpath, part_value hname⟩

/-- What is read of views is what their record says. -/
theorem views_said {record : ν} {views : ViewDefaults} (h : reading.views record = some views) :
    views.kind = (reading.saidIn? .kind record).getD .double ∧
      views.ownsAdopted = (reading.saidIn? .ownership record).getD false := by
  obtain ⟨parts, hparts, h⟩ := Option.bind_eq_some_iff.mp h
  obtain ⟨kind, hkind, h⟩ := Option.bind_eq_some_iff.mp h
  obtain ⟨owns, howns, h⟩ := Option.bind_eq_some_iff.mp h
  obtain rfl := Option.some.inj h
  rw [saidIn?_of_fields .kind hparts, saidIn?_of_fields .ownership hparts]
  exact ⟨part_value hkind, part_value howns⟩

/-- What is read of the journal is what its record says. -/
theorem level_said {record : ν} {level : Level} (h : reading.level record = some level) :
    level = (reading.saidIn? .level record).getD .info := by
  obtain ⟨parts, hparts, h⟩ := Option.bind_eq_some_iff.mp h
  rw [saidIn?_of_fields .level hparts]
  exact part_value h

/-- Each setting that is read is what the document says about it, or else the usual. -/
theorem value_eq_said {value : ν} {settings : Settings}
    (h : reading.settings value = some settings) (setting : Setting) :
    setting.value settings = (reading.said? setting value).getD setting.usual := by
  obtain ⟨records, hrecords, h⟩ := Option.bind_eq_some_iff.mp h
  obtain ⟨library, hlibrary, h⟩ := Option.bind_eq_some_iff.mp h
  obtain ⟨views, hviews, h⟩ := Option.bind_eq_some_iff.mp h
  obtain ⟨level, hlevel, h⟩ := Option.bind_eq_some_iff.mp h
  obtain rfl := Option.some.inj h
  rw [said?, hrecords]
  cases setting with
  | path => exact part_said hlibrary fun _ _ hread => (library_said hread).1
  | name => exact part_said hlibrary fun _ _ hread => (library_said hread).2
  | kind => exact part_said hviews fun _ _ hread => (views_said hread).1
  | ownership => exact part_said hviews fun _ _ hread => (views_said hread).2
  | level => exact part_said hlevel fun _ _ hread => level_said hread

end Reading

namespace SettingsFormat

/-- What a document of the format says about a setting. -/
def said? (setting : Setting) (document : String) : SettingsFormat → Option setting.Value
  | toml => (Toml.parse? document).bind (Toml.reading.said? setting)
  | yaml => (Yaml.parse? document).bind fun parsed =>
    parsed.reading.said? setting (parsed.root.getD .empty)
  | json => (JsonValue.parse? document).bind (JsonValue.reading.said? setting)

/-- Each setting of a document that is read is what the document says, or else the usual. -/
theorem value_eq_said {format : SettingsFormat} {document : String} {settings : Settings}
    (h : format.read? document = some settings) (setting : Setting) :
    setting.value settings = (format.said? setting document).getD setting.usual := by
  cases format with
  | toml =>
    obtain ⟨parsed, hparsed, h⟩ := Option.bind_eq_some_iff.mp h
    rw [said?, hparsed]
    exact Reading.value_eq_said h setting
  | yaml =>
    obtain ⟨parsed, hparsed, h⟩ := Option.bind_eq_some_iff.mp h
    rw [said?, hparsed]
    exact Reading.value_eq_said h setting
  | json =>
    obtain ⟨parsed, hparsed, h⟩ := Option.bind_eq_some_iff.mp h
    rw [said?, hparsed]
    exact Reading.value_eq_said h setting

end SettingsFormat

end ForeignMatrix
