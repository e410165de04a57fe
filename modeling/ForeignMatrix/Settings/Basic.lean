import ForeignMatrix.Journal.Line
import ForeignMatrix.ViewDefaults

/-!
# Settings

The settings of a binder: where its native library is, what it assumes about
views and how much goes to the journal. Settings are kept in documents of one
of three formats, and every way in which loading or saving them can fail has a
text of its own.
-/

namespace ForeignMatrix

/-- Base name of the library where nothing else is said. -/
def defaultLibraryName : String := "vital_c"

/-- Where the native library is. -/
structure LibrarySettings where
  /-- Path of the library; it goes before the name. -/
  path : Option String := none
  /-- Base name of the library. -/
  name : String := defaultLibraryName
  deriving DecidableEq, Repr

/-- Settings of a binder. -/
structure Settings where
  /-- Where the native library is. -/
  library : LibrarySettings := {}
  /-- What is assumed about views. -/
  views : ViewDefaults := {}
  /-- Finest level that goes to the journal. -/
  level : Level := .info
  deriving DecidableEq, Repr

/-- Format of a settings document. -/
inductive SettingsFormat where
  /-- Tables of keys and values, one line for each key. -/
  | toml
  /-- Mappings nested by indentation. -/
  | yaml
  /-- Objects nested by braces. -/
  | json
  deriving DecidableEq, Repr

/-- Name of a format in error texts. -/
def SettingsFormat.name : SettingsFormat → String
  | .toml => "TOML"
  | .yaml => "YAML"
  | .json => "JSON"

/-- Why settings could not be loaded, saved or put to use. -/
inductive SettingsFault where
  /-- The file cannot be read as text. -/
  | unreadable (path : String)
  /-- The file is no settings document of its format. -/
  | malformed (format : SettingsFormat) (path : String)
  /-- The file is a settings document of no format. -/
  | unrecognized (path : String)
  /-- The environment names an element kind that does not exist. -/
  | badKind (name : String) (cause : Fault)
  /-- The file cannot be written. -/
  | unwritable (path : String)
  /-- The library at the given path cannot be loaded. -/
  | badPath (path : String) (cause : Fault)
  /-- The library of the given name cannot be loaded. -/
  | badName (name : String) (cause : Fault)
  deriving DecidableEq, Repr

namespace SettingsFault

/-- Text that reports the failure. -/
def message : SettingsFault → String
  | unreadable path => "Failed to read config file: " ++ path
  | malformed format path => "Failed to parse " ++ format.name ++ " config: " ++ path
  | unrecognized path => "Could not parse config file " ++ path ++ " (tried TOML, YAML, JSON)"
  | badKind name _ => "Invalid MATBIND_DEFAULT_DTYPE '" ++ name ++ "'"
  | unwritable path => "Failed to write config file: " ++ path
  | badPath path _ => "Failed to load native library " ++ path
  | badName name _ => "Failed to load native library '" ++ name ++ "'"

/-- Fault that the failure goes back to, if there is one. -/
def cause : SettingsFault → Option Fault
  | badKind _ cause => some cause
  | badPath _ cause => some cause
  | badName _ cause => some cause
  | _ => none

end SettingsFault

end ForeignMatrix
