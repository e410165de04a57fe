import ForeignMatrix.Document.Yaml.Node
import ForeignMatrix.Document.Yaml.Written
import ForeignMatrix.Settings.Reading
import ForeignMatrix.Text.Utf8

/-!
# Settings as YAML

Records are mappings; a record that is missing or empty has its usual parts.
Any scalar is a text, whatever it would mean otherwise. Settings are written as
mappings, each level indented by two columns.
-/

namespace ForeignMatrix

namespace Yaml

/-- Nodes of a document, an alias being the node of its anchor. -/
def Document.resolve (document : Document) : Node → Option Node
  | .alias anchor => document.nodes.lookup anchor
  | node => some node

/-- Text of a scalar. -/
def Document.textOf (document : Document) (node : Node) : Option String :=
  match document.resolve node with
  | some (.scalar _ _ text) => some text
  | _ => none

/-- Parts of a mapping. -/
def Document.recordParts (document : Document) (node : Node) : Option (RecordParts Node) :=
  match document.resolve node with
  | some (.mapping entries) =>
    some (.named (entries.map fun (key, value) => (document.textOf key, value)))
  | some (.scalar _ .plain "") => some (.named [])
  | _ => none

/-- Tag of a scalar that means nothing. -/
def nullTag : Tag := "tag:yaml.org,2002:null".toUTF8.toList

/-- Tag of a flag. -/
def flagTag : Tag := "tag:yaml.org,2002:bool".toUTF8.toList

/-- Text of a scalar, or its absence. A plain scalar without a tag may mean
nothing; one that is tagged as meaning nothing has to. -/
def Document.optionalText (document : Document) (node : Node) : Option (Option String) :=
  match document.resolve node with
  | some (.scalar tag style text) =>
    if style ≠ .plain then some (some text)
    else if tag.isNone then some (if text.isEmpty || isNull text then none else some text)
    else if tag ≠ some nullTag then some (some text)
    else if isNull text then some none
    else none
  | _ => none

/-- Truth of a plain scalar, or of a literal block that is tagged as a flag. -/
def Document.flag (document : Document) (node : Node) : Option Bool :=
  match document.resolve node with
  | some (.scalar tag style text) =>
    if style = .plain || (style = .literal && tag = some flagTag) then flagOf? text else none
  | _ => none

/-- Word that a tag of the document's own spells. -/
def Tag.word? : Tag → Option String
  | 0x21 :: word => Text.Utf8.decode? word
  | _ => none

/-- Word of a choice: the text of a scalar, or a tag of the document's own on
a scalar that means nothing. -/
def Document.word (document : Document) (node : Node) : Option String :=
  match document.resolve node with
  | some (.scalar tag style text) =>
    match tag.bind Tag.word? with
    | some word => if style = .plain && (text.isEmpty || isNull text) then some word else none
    | none => some text
  | _ => none

/-- What nodes mean in a settings document. -/
def Document.reading (document : Document) : Reading Node where
  record := document.recordParts
  allowsSurplus := false
  text := document.textOf
  optionalText := document.optionalText
  flag := document.flag
  word := document.word

end Yaml

namespace Settings

/-- Settings of a YAML document. -/
def ofYaml? (text : String) : Option Settings := do
  let document ← Yaml.parse? text
  document.reading.settings (document.root.getD .empty)

/-- The settings as a YAML document. -/
def toYaml (settings : Settings) : String :=
  let path := match settings.library.path with
    | some path => Yaml.written 4 path
    | none => "null\n"
  "library:\n  path: " ++ path
    ++ "  name: " ++ Yaml.written 4 settings.library.name
    ++ "views:\n  default_dtype: " ++ Yaml.written 4 settings.views.kind.shortName
    ++ "  default_owns_wrapped: " ++ toString settings.views.ownsAdopted ++ "\n"
    ++ "logging:\n  level: " ++ Yaml.written 4 settings.level.name

end Settings

end ForeignMatrix
