import ForeignMatrix.Element.Shortest
import ForeignMatrix.Journal.Filter

/-!
# Journal records

An event carries named fields of several types. Its record shows the fields as
a map, after three of them have been given a place of their own: the message,
the target that a bridged line brings along, and the other fields of the
bridge, which are left out.
-/

namespace ForeignMatrix

/-- Value of an event's field. -/
inductive FieldValue where
  /-- A text. -/
  | text (value : String)
  /-- A value of which only the debug text is known. -/
  | debug (value : String)
  /-- An integer. -/
  | int (value : Int)
  /-- A floating-point number. -/
  | float (value : Element.Binary .double)
  /-- A truth value. -/
  | flag (value : Bool)
  deriving DecidableEq, Repr

/-- Value of a field in a record. -/
inductive RecordValue where
  /-- A text. -/
  | text (value : String)
  /-- An integer. -/
  | int (value : Int)
  /-- A finite floating-point number. -/
  | float (value : Element.Binary .double)
  /-- A truth value. -/
  | flag (value : Bool)
  /-- A number that is not finite. -/
  | null
  deriving DecidableEq, Repr

namespace RecordValue

/-- Record value of a field. -/
def ofField : FieldValue → RecordValue
  | .text value => text value
  | .debug value => text value
  | .int value => int value
  | .float value => if value.isNaN || value.isInfinite then null else float value
  | .flag value => flag value

/-- A text itself; any other value as a document would write it. -/
def plain : RecordValue → String
  | text value => value
  | int value => toString value
  | float value => Element.shortest value
  | flag value => toString value
  | null => "null"

end RecordValue

/-- Fields of a record in the order of their names, each name once. -/
abbrev FieldMap := List (String × RecordValue)

/-- Enters a field; an earlier value of the name is replaced. -/
def FieldMap.insert (name : String) (value : RecordValue) : FieldMap → FieldMap
  | [] => [(name, value)]
  | (other, old) :: rest =>
    if name = other then (name, value) :: rest
    else if name < other then (name, value) :: (other, old) :: rest
    else (other, old) :: FieldMap.insert name value rest

/-- What has been gathered from the fields of an event. -/
structure Gathering where
  /-- Text of the last message field. -/
  message : Option String := none
  /-- Text of the last target field. -/
  target : Option String := none
  /-- The other fields. -/
  fields : FieldMap := []
  deriving DecidableEq, Repr

namespace Gathering

/-- Takes in one field. -/
def push (gathering : Gathering) (name : String) (value : FieldValue) : Gathering :=
  let value := RecordValue.ofField value
  if name = "message" then { gathering with message := some value.plain }
  else if name = "log.target" then { gathering with target := some value.plain }
  else if "log.".toList.isPrefixOf name.toList then gathering
  else { gathering with fields := gathering.fields.insert name value }

/-- Takes in fields in order. -/
def ofFields (fields : List (String × FieldValue)) : Gathering :=
  fields.foldl (fun gathering field => gathering.push field.1 field.2) {}

end Gathering

/-- Where in a program a line was written, as far as that is known. -/
structure LineOrigin where
  /-- Module. -/
  modulePath : Option String := none
  /-- Source file. -/
  file : Option String := none
  /-- Number of the line in that file. -/
  line : Option Nat := none
  deriving Repr

/-- Fields of the bridge that tell where a line was written. -/
def LineOrigin.fields (origin : LineOrigin) : List (String × FieldValue) :=
  (origin.modulePath.map fun path => ("log.module_path", FieldValue.text path)).toList
    ++ (origin.file.map fun file => ("log.file", FieldValue.text file)).toList
    ++ (origin.line.map fun line => ("log.line", FieldValue.int line)).toList

/-- Something that happened, before any filter. -/
inductive Event where
  /-- An event with fields of its own, inside some spans. -/
  | direct (level : Level) (target name : String) (fields : List (String × FieldValue))
      (spans : List Span)
  /-- A line of the journal, brought in over the bridge. -/
  | bridged (line : JournalLine) (origin : LineOrigin)
  deriving Repr

namespace Event

/-- Severity. -/
def level : Event → Level
  | direct level .. => level
  | bridged line _ => line.level

/-- What the filter decides on. -/
def subject : Event → Subject
  | direct level target _ fields spans => ⟨target, level, fields.map (·.1), spans⟩
  | bridged line _ => line.subject

/-- Target that the event itself states; bridged lines share one. -/
def statedTarget : Event → String
  | direct _ target .. => target
  | bridged .. => "log"

/-- Name of the event, for records without a message. -/
def name : Event → String
  | direct _ _ name .. => name
  | bridged .. => "log event"

/-- Fields, those of the bridge included. -/
def fields : Event → List (String × FieldValue)
  | direct _ _ _ fields _ => fields
  | bridged line origin =>
    ("message", .debug line.message) :: ("log.target", .text line.target) :: origin.fields

end Event

/-- One record as a hook receives it. -/
structure Record where
  /-- Severity. -/
  level : Level
  /-- Target that the record reports. -/
  target : String
  /-- Text of the record. -/
  message : String
  /-- Fields, if there are any. -/
  fields : Option FieldMap
  deriving DecidableEq, Repr

/-- Record of an event. -/
def Record.ofEvent (event : Event) : Record :=
  let gathering := Gathering.ofFields event.fields
  { level := event.level
    target := gathering.target.getD event.statedTarget
    message := gathering.message.getD event.name
    fields := if gathering.fields.isEmpty then none else some gathering.fields }

/-- Records that reach the hook, in order. -/
def Filter.records (filter : Filter) (events : List Event) : List Record :=
  (events.filter fun event => filter.enables event.subject).map Record.ofEvent

end ForeignMatrix
