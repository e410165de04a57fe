import ForeignMatrix.Settings.Format
import ForeignMatrix.Settings.Json
import ForeignMatrix.Settings.Toml
import ForeignMatrix.Settings.Yaml

/-!
# Settings documents

Reading and writing settings in each format. A document whose format is not
known is read in the first format that it fits, and is written as TOML.
-/

namespace ForeignMatrix

namespace SettingsFormat

/-- All formats, in the order in which an unknown document is tried. -/
def all : List SettingsFormat := [toml, yaml, json]

/-- Settings of a document of the format. -/
def read? : SettingsFormat → String → Option Settings
  | toml => Settings.ofToml?
  | yaml => Settings.ofYaml?
  | json => Settings.ofJson?

/-- Settings as a document of the format. -/
def write : SettingsFormat → Settings → String
  | toml => Settings.toToml
  | yaml => Settings.toYaml
  | json => Settings.toJson

end SettingsFormat

namespace Settings

/-- Settings of a document that came from a path. -/
def ofDocument (path : HostPath) (document : String) : Except SettingsFault Settings :=
  match SettingsFormat.ofPath path with
  | some format =>
    match format.read? document with
    | some settings => .ok settings
    | none => .error (.malformed format path.shown)
  | none =>
    match SettingsFormat.all.findSome? fun format => format.read? document with
    | some settings => .ok settings
    | none => .error (.unrecognized path.shown)

/-- The settings as a document that goes to a path. -/
def toDocument (path : HostPath) (settings : Settings) : String :=
  ((SettingsFormat.ofPath path).getD .toml).write settings

end Settings

end ForeignMatrix
