import ForeignMatrix.Document.Toml.Document
import ForeignMatrix.Settings.Reading

/-!
# Settings as TOML

Records are tables or arrays, and a choice is a string or a table with that
string as its key and nothing under it. Settings are written as one table for
each record, under a header of its own; a path that is not set is left out.
-/

namespace ForeignMatrix

namespace Toml

/-- Parts of a table or array. A moment is a record too, of one part that no
record of settings has. -/
def recordParts : Value → Option (RecordParts Value)
  | .table _ entries => some (.named (entries.map fun (key, value) => (some key, value)))
  | .tables elements => some (.listed (elements.map (Value.table .defined)))
  | .list items => some (.listed items)
  | .moment => some (.named [])
  | _ => none

/-- Text of a string. -/
def textContent : Value → Option String
  | .text content => some content
  | _ => none

/-- Whether nothing is under the key that names a choice. -/
def isHollow : Value → Bool
  | .table _ [] => true
  | .list [] => true
  | _ => false

/-- Word of a choice. A table must have the one key alone. -/
def word : Value → Option String
  | .text content => some content
  | .table _ [(key, value)] => if isHollow value then some key else none
  | _ => none

/-- What values mean in a settings document. -/
def reading : Reading Value where
  record := recordParts
  allowsSurplus := true
  text := textContent
  optionalText value := (textContent value).map some
  flag
    | .flag value => some value
    | _ => none
  word := word

end Toml

namespace Settings

/-- Settings of a TOML document. -/
def ofToml? (document : String) : Option Settings := do
  Toml.reading.settings (← Toml.parse? document)

/-- The settings as a TOML document. -/
def toToml (settings : Settings) : String :=
  let line (key value : String) := key ++ " = " ++ value ++ "\n"
  let path := match settings.library.path with
    | some path => line "path" (Toml.quoted path)
    | none => ""
  "[library]\n" ++ path ++ line "name" (Toml.quoted settings.library.name)
    ++ "\n[views]\n"
    ++ line "default_dtype" (Toml.quoted settings.views.kind.shortName)
    ++ line "default_owns_wrapped" (toString settings.views.ownsAdopted)
    ++ "\n[logging]\n"
    ++ line "level" (Toml.quoted settings.level.name)

end Settings

end ForeignMatrix
