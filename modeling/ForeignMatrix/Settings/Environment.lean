import ForeignMatrix.Settings.Basic

/-!
# Settings from the environment

Variables that override single settings. Each has its own idea of what it
accepts: an empty path clears the path, an empty name says nothing, flags and
levels that are not understood say nothing, and an unknown element kind is a
failure. A variable that holds no text counts as unset.
-/

namespace ForeignMatrix

/-- Texts of the variables that are set to one. -/
abbrev Environment := String → Option String

namespace Settings

/-- Truth that a text spells, in either case. -/
def flagOf? (text : String) : Option Bool :=
  let word := Text.lowerLetters text
  if word ∈ ["1", "true", "yes", "on", "enable", "enabled"] then some true
  else if word ∈ ["0", "false", "no", "off", "disable", "disabled", ""] then some false
  else none

/-- Level that a text spells, in either case and with blanks around it. -/
def levelOf? (text : String) : Option Level :=
  match Text.lowerLetters (Text.trim text) with
  | "warning" => some .warn
  | word => Level.all.find? (·.name == word)

/-- Path of the library, as the environment leaves it. -/
def overridePath (environment : Environment) (path : Option String) : Option String :=
  match environment "MATBIND_LIBRARY_PATH" with
  | some "" => none
  | some text => some text
  | none => path

/-- Base name of the library, as the environment leaves it. -/
def overrideName (environment : Environment) (name : String) : String :=
  match environment "MATBIND_LIBRARY_NAME" with
  | some "" => name
  | some text => text
  | none => name

/-- Element kind, as the environment leaves it. -/
def overrideKind (environment : Environment) (kind : ElementKind) :
    Except SettingsFault ElementKind :=
  match environment "MATBIND_DEFAULT_DTYPE" with
  | some text => (ElementKind.ofName text).mapError (.badKind text)
  | none => .ok kind

/-- Ownership of adopted matrices, as the environment leaves it. -/
def overrideOwnership (environment : Environment) (ownsAdopted : Bool) : Bool :=
  ((environment "MATBIND_OWNS_WRAPPED").bind flagOf?).getD ownsAdopted

/-- Level of the journal, as the environment leaves it. -/
def overrideLevel (environment : Environment) (level : Level) : Level :=
  ((environment "MATBIND_LOG_LEVEL").bind levelOf?).getD level

/-- The settings, as the environment leaves them. -/
def override (environment : Environment) (settings : Settings) : Except SettingsFault Settings := do
  let kind ← overrideKind environment settings.views.kind
  pure {
    library :=
      { path := overridePath environment settings.library.path
        name := overrideName environment settings.library.name }
    views := { kind, ownsAdopted := overrideOwnership environment settings.views.ownsAdopted }
    level := overrideLevel environment settings.level }

end Settings

end ForeignMatrix
