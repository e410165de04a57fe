import ForeignMatrix.Document.Json
import ForeignMatrix.Settings.Reading

/-!
# Settings as JSON

Records are objects or arrays, and a choice is a string or an object with that
string as its one key and nothing under it. Settings are written as nested
objects, each level two blanks further in.
-/

namespace ForeignMatrix

namespace JsonValue

/-- Parts of an object or array. -/
def recordParts : JsonValue → Option (RecordParts JsonValue)
  | record entries => some (.named entries)
  | list items => some (.listed items)
  | _ => none

/-- Text of a string. -/
def textContent : JsonValue → Option String
  | text content => content
  | _ => none

/-- Word of a choice. -/
def word : JsonValue → Option String
  | text content => content
  | record [(key, null)] => key
  | _ => none

/-- What values mean in a settings document. -/
def reading : Reading JsonValue where
  record := recordParts
  allowsSurplus := false
  text := textContent
  optionalText
    | null => some none
    | value => value.textContent.map some
  flag
    | .flag value => some value
    | _ => none
  word := word

end JsonValue

namespace Settings

/-- Settings of a JSON document. -/
def ofJson? (document : String) : Option Settings := do
  JsonValue.reading.settings (← JsonValue.parse? document)

/-- The settings as a JSON document. -/
def toJson (settings : Settings) : String :=
  let path := match settings.library.path with
    | some path => JsonValue.quoted path
    | none => "null"
  "\n".intercalate [
    "\x7b",
    "  \"library\": \x7b",
    "    \"path\": " ++ path ++ ",",
    "    \"name\": " ++ JsonValue.quoted settings.library.name,
    "  \x7d,",
    "  \"views\": \x7b",
    "    \"default_dtype\": " ++ JsonValue.quoted settings.views.kind.shortName ++ ",",
    "    \"default_owns_wrapped\": " ++ toString settings.views.ownsAdopted,
    "  \x7d,",
    "  \"logging\": \x7b",
    "    \"level\": " ++ JsonValue.quoted settings.level.name,
    "  \x7d",
    "\x7d"]

end Settings

end ForeignMatrix
