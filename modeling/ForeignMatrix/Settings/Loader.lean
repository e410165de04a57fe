import ForeignMatrix.FileTree
import ForeignMatrix.Settings.Document
import ForeignMatrix.Settings.Environment

/-!
# Loading and saving settings

Settings come from at most one file: the one that the environment names, else
the first of a few names that is a regular file in the working directory. The
environment then overrides single settings.
-/

namespace ForeignMatrix

/-- Where settings are loaded from. -/
structure Surroundings where
  /-- Files of the host, byte by byte. -/
  files : FileTree (List UInt8)
  /-- Variables that are set to texts. -/
  environment : Environment

namespace Settings

/-- Line about settings in the journal. -/
def journalLine (level : Level) (message : String) : JournalLine :=
  ⟨level, "matbind_view::config", message⟩

/-- Loads settings from a file. -/
def loadFile (files : FileTree (List UInt8)) (path : HostPath) : Except SettingsFault Settings :=
  match (files.read? path).bind Text.Utf8.decode? with
  | none => .error (.unreadable path.shown)
  | some document => ofDocument path document

/-- Names under which a settings file is looked for in the working directory. -/
def fileNames : List String := [".matbind.toml", ".matbind.yaml", ".matbind.yml", ".matbind.json"]

/-- Paths of these names in the working directory, unless that has been removed. -/
def nearbyFiles (files : FileTree (List UInt8)) : List HostPath :=
  match files.workingPath? with
  | some directory => fileNames.map fun name => directory.join (HostPath.ofText name).bytes
  | none => []

/-- The file that settings come from, if there is one. -/
def chosenFile (surroundings : Surroundings) : Option HostPath :=
  match surroundings.environment "MATBIND_CONFIG" with
  | some path => some (.ofText path)
  | none => (nearbyFiles surroundings.files).find? surroundings.files.isFile

/-- Loads settings from the surroundings. Answers also what goes to the journal. -/
def load (surroundings : Surroundings) : Except SettingsFault Settings × List JournalLine :=
  match chosenFile surroundings with
  | some path =>
    (do (← loadFile surroundings.files path).override surroundings.environment,
      [journalLine .info ("Loading configuration from: " ++ path.shown)])
  | none =>
    (override surroundings.environment {},
      [journalLine .debug "No configuration file found, using defaults"])

/-- Saves settings to a file. Answers also what goes to the journal. -/
def save (settings : Settings) (path : HostPath) (files : FileTree (List UInt8)) :
    Except SettingsFault (FileTree (List UInt8)) × List JournalLine :=
  match files.write? path (toDocument path settings).toUTF8.toList with
  | some files => (.ok files, [journalLine .info ("Configuration saved to: " ++ path.shown)])
  | none => (.error (.unwritable path.shown), [])

end Settings

end ForeignMatrix
