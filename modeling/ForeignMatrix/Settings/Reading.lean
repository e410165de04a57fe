import ForeignMatrix.Settings.Basic

/-!
# Reading settings from a document

A settings document is a record of three records. What counts as a record, a
text or a flag differs from format to format; how records make up settings does
not. Parts that a document leaves out take their usual values, and names that
settings do not know are passed over.
-/

namespace ForeignMatrix

/-- Parts of a record. -/
inductive RecordParts (ν : Type) where
  /-- Parts under names; a name that spells no text is none. -/
  | named (entries : List (Option String × ν))
  /-- Parts in order, without names. -/
  | listed (items : List ν)

/-- The part under each name that has one, if the parts make up a record of
the given names. No name may occur twice, and a list may be longer than the
record only if surplus parts are allowed. -/
def RecordParts.fields? {ν : Type} (allowsSurplus : Bool) (names : List String) :
    RecordParts ν → Option (String → Option ν)
  | named entries =>
    if entries.all (·.1.isSome)
        && names.all (fun name => (entries.filter (·.1 == some name)).length ≤ 1) then
      some fun name => entries.lookup (some name)
    else none
  | listed items =>
    if allowsSurplus || items.length ≤ names.length then
      some fun name => (names.zip items).lookup name
    else none

/-- What the values of a document mean. -/
structure Reading (ν : Type) where
  /-- Parts of a value that is a record. -/
  record : ν → Option (RecordParts ν)
  /-- Whether a record given as a list may have surplus parts. -/
  allowsSurplus : Bool
  /-- Text of a value that is one. -/
  text : ν → Option String
  /-- Text of a value that is one, or its absence if the value says so. -/
  optionalText : ν → Option (Option String)
  /-- Truth of a value that is a flag. -/
  flag : ν → Option Bool
  /-- Word of a value that names one of several choices. -/
  word : ν → Option String

namespace Reading

variable {ν : Type} (reading : Reading ν)

/-- Reads a part, or takes the usual value in its absence. -/
def part {α : Type} (read : ν → Option α) (usual : α) : Option ν → Option α
  | none => some usual
  | some value => read value

/-- Reads one of several choices by its name. -/
def choice {α : Type} (name : α → String) (choices : List α) (value : ν) : Option α := do
  let word ← reading.word value
  choices.find? (name · == word)

/-- Reads a record with parts of the given names. -/
def fields (names : List String) (value : ν) : Option (String → Option ν) := do
  (← reading.record value).fields? reading.allowsSurplus names

/-- Whether a value is a record given as an empty list. -/
def isEmptyList (value : ν) : Bool :=
  match reading.record value with
  | some (.listed []) => true
  | _ => false

/-- Reads where the native library is. In a list the path cannot be left out. -/
def library (value : ν) : Option LibrarySettings := do
  if reading.isEmptyList value then none
  let field ← reading.fields ["path", "name"] value
  let path ← part reading.optionalText none (field "path")
  let name ← part reading.text defaultLibraryName (field "name")
  pure { path, name }

/-- Reads what is assumed about views. -/
def views (value : ν) : Option ViewDefaults := do
  let field ← reading.fields ["default_dtype", "default_owns_wrapped"] value
  let kind ← part (reading.choice ElementKind.shortName ElementKind.all) .double
    (field "default_dtype")
  let ownsAdopted ← part reading.flag false (field "default_owns_wrapped")
  pure { kind, ownsAdopted }

/-- Reads the finest level that goes to the journal. -/
def level (value : ν) : Option Level := do
  let field ← reading.fields ["level"] value
  part (reading.choice Level.name Level.all) .info (field "level")

/-- Reads settings. -/
def settings (value : ν) : Option Settings := do
  let field ← reading.fields ["library", "views", "logging"] value
  let library ← part reading.library {} (field "library")
  let views ← part reading.views {} (field "views")
  let level ← part reading.level .info (field "logging")
  pure { library, views, level }

end Reading

end ForeignMatrix
