import ForeignMatrix.Journal.Directive

/-!
# Journal filters

A filter is a list of directives, which its text separates by commas. A
directive on a span lets everything inside that span pass up to its bound. Of
the directives that need no span, the one with the narrowest condition that an
event meets decides on it: the longest target goes first. A later directive
takes the place of an earlier one with the same condition.
-/

namespace ForeignMatrix

/-- A stretch of work around events. Spans carry no fields. -/
structure Span where
  /-- Part of the program that opened it. -/
  target : String
  /-- What is being done. -/
  name : String
  deriving DecidableEq, Repr

/-- What a filter looks at in an event. -/
structure Subject where
  /-- Part of the program that reports. -/
  target : String
  /-- Severity. -/
  level : Level
  /-- Names of the fields. -/
  fields : List String
  /-- Spans around the event. -/
  spans : List Span
  deriving DecidableEq, Repr

/-- A line of the journal has the fields of the bridge that carries it. -/
def JournalLine.subject (line : JournalLine) : Subject where
  target := line.target
  level := line.level
  fields := ["message", "log.target", "log.module_path", "log.file", "log.line"]
  spans := []

namespace Directive

/-- Whether two directives have the same condition. -/
def sameCondition (a b : Directive) : Bool :=
  a.target = b.target ∧ a.span = b.span ∧ a.field = b.field

/-- Whether the directive is about this span. One that asks for a field is about
none, since spans carry no fields. -/
def governs (directive : Directive) (span : Span) : Bool :=
  directive.span = some span.name ∧ directive.field = none ∧ directive.coversTarget span.target

/-- Whether an event has the field that the directive asks for. Values of fields
are not known when a filter decides, so a condition on one is never met. -/
def meetsField (directive : Directive) (subject : Subject) : Bool :=
  match directive.field with
  | none => true
  | some demand => demand.value.isNone && demand.name ∈ subject.fields

/-- Whether the directive can decide on an event without any span. -/
def applies (directive : Directive) (subject : Subject) : Bool :=
  directive.span.isNone && directive.coversTarget subject.target && directive.meetsField subject

/-- Name of the field asked for, before which no name goes. -/
def fieldName (directive : Directive) : Option String := directive.field.map (·.name)

/-- Whether the first of two directives that apply to one event has the narrower
condition: a longer target, then a field where the other has none, then a field
whose name comes later. -/
def narrower (a b : Directive) : Bool :=
  if a.target.length = b.target.length then
    match a.fieldName, b.fieldName with
    | some a, some b => b < a
    | some _, none => true
    | none, _ => false
  else b.target.length < a.target.length

end Directive

/-- Directives in the order in which they were given. -/
abbrev Filter := List Directive

namespace Filter

/-- Parts of a text between commas, without the empty ones. -/
def parts (text : String) : List String :=
  ((text.toList.splitOn ',').filter (!·.isEmpty)).map String.ofList

/-- Filter that a text spells, if each of its directives is well formed. -/
def parse? (text : String) : Option Filter := (parts text).mapM Directive.parse?

/-- The directives without those whose condition a later one has too. -/
def settled : Filter → Filter
  | [] => []
  | directive :: rest =>
    if rest.any directive.sameCondition then settled rest else directive :: settled rest

/-- Directives that can decide on an event without any span. -/
def applicable (filter : Filter) (subject : Subject) : List Directive :=
  filter.settled.filter (·.applies subject)

/-- The narrower directive. -/
def stronger (earlier : Option Directive) (later : Directive) : Option Directive :=
  match earlier with
  | none => some later
  | some earlier => if later.narrower earlier then some later else some earlier

/-- Directive that decides on an event. -/
def deciding (filter : Filter) (subject : Subject) : Option Directive :=
  (filter.applicable subject).foldl stronger none

/-- Levels that pass inside a span, whatever the targets. -/
def spanBound (filter : Filter) (span : Span) : Verbosity :=
  ((filter.settled.filter (·.governs span)).map (·.bound)).foldl max 0

/-- Whether an event passes. -/
def enables (filter : Filter) (subject : Subject) : Bool :=
  subject.spans.any (fun span => (filter.spanBound span).admits subject.level)
    || match filter.deciding subject with
      | none => false
      | some directive => directive.bound.admits subject.level

/-- The first of the texts that is there and well formed, else the filter that
lets errors, warnings and informations pass. -/
def choose (sources : List (Option String)) : Filter :=
  (sources.findSome? fun source => source.bind parse?).getD [⟨"", none, none, Level.info.rank⟩]

/-- Variable that sets the filter of this library alone. -/
def ownVariable : String := "MATBIND_LOG"

/-- Filter that an environment asks for: the variable that programs share goes
before that of this library, and the given text comes last. -/
def ofEnvironment (environment : String → Option String) (fallback : String) : Filter :=
  choose [environment "RUST_LOG", environment ownVariable, some fallback]

end Filter

end ForeignMatrix
