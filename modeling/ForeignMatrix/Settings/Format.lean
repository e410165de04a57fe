import ForeignMatrix.HostPath
import ForeignMatrix.Settings.Basic

/-!
# Formats by file name

The extension of a file name tells the format of a settings document. Extensions
are compared exactly; a name without a known one tells nothing.
-/

namespace ForeignMatrix.SettingsFormat

/-- Format that an extension tells. -/
def ofExtension : String → Option SettingsFormat
  | "toml" => some toml
  | "yaml" => some yaml
  | "yml" => some yaml
  | "json" => some json
  | _ => none

/-- Format that the name at the end of a path tells, if its extension is a text. -/
def ofPath (path : HostPath) : Option SettingsFormat :=
  (path.extension?.bind Text.Utf8.decode?).bind ofExtension

end ForeignMatrix.SettingsFormat
