import ForeignMatrix.Journal.Line
import ForeignMatrix.Journal.Pattern
import ForeignMatrix.Text.Blank
import ForeignMatrix.Text.Decimal
import ForeignMatrix.Text.Utf8

/-!
# Journal directives

One part of a filter: a condition and a bound on the levels that pass under it.
The condition is on the beginning of the target, and if there are brackets, on
the name of a span around the event and on a field of it. A directive is spelled
as a level for everything, a target alone, which lets every level pass, or a
target, brackets, or both, with a level after an equals sign.
-/

namespace ForeignMatrix

/-- Bound on the levels that pass, as the rank of the finest one; zero lets
nothing pass. -/
abbrev Verbosity := Nat

/-- Whether a level lies within a bound. -/
def Verbosity.admits (bound : Verbosity) (level : Level) : Bool := level.rank ≤ bound

/-- Condition on a field. -/
structure FieldDemand where
  /-- Name that a field must have. -/
  name : String
  /-- Pattern or number that its value must fit, if any. -/
  value : Option String
  deriving DecidableEq, Repr

/-- One part of a filter. -/
structure Directive where
  /-- Text with which targets begin; the empty text stands for everything. -/
  target : String
  /-- Name of a span, if one is asked for. -/
  span : Option String
  /-- Condition on a field, if there is one. -/
  field : Option FieldDemand
  /-- Levels that pass. -/
  bound : Verbosity
  deriving DecidableEq, Repr

namespace FieldDemand

/-- Whether the characters spell a number, its sign left out: digits with a
point among them and an exponent, an infinity, or none at all. -/
def isNumber (text : List Char) : Bool :=
  let words := ["inf", "infinity", "nan"]
  let whole := text.takeWhile Char.isDigit
  let rest := text.dropWhile Char.isDigit
  let (fraction, rest) := match rest with
    | '.' :: rest => (rest.takeWhile Char.isDigit, rest.dropWhile Char.isDigit)
    | _ => ([], rest)
  let exponent (digits : List Char) : Bool := !digits.isEmpty && digits.all Char.isDigit
  let tail := match rest with
    | [] => true
    | mark :: sign :: digits =>
      (mark == 'e' || mark == 'E')
        && exponent (if sign = '+' ∨ sign = '-' then digits else sign :: digits)
    | [_] => false
  words.contains (String.ofList (text.map Char.toLower))
    || (!(whole ++ fraction).isEmpty && tail)

/-- Whether the characters can be asked of a value: a number or a pattern. Only
a leading plus sign keeps a number from being a pattern too. -/
def isValue : List Char → Bool
  | '+' :: rest => isNumber rest
  | text => Pattern.isWellFormed text

/-- Condition that the text between braces spells: a name, and what stands
between its first equals sign and the next. -/
def parse? (text : String) : Option FieldDemand :=
  let chars := text.toList
  let name := String.ofList (chars.takeWhile (· != '='))
  match chars.dropWhile (· != '=') with
  | [] => if text.isEmpty then none else some ⟨name, none⟩
  | _ :: rest =>
    let value := rest.takeWhile (· != '=')
    if isValue value then some ⟨name, some (String.ofList value)⟩ else none

end FieldDemand

namespace Directive

/-- Bound that a word names: a number up to five, or the name of a level in any
case. -/
def bound? (word : String) : Option Verbosity :=
  match Text.natural? word with
  | some n => if n ≤ 5 then some n else none
  | none =>
    let lower := word.map Char.toLower
    if lower = "off" then some 0
    else (Level.all.find? (·.name = lower)).map Level.rank

/-- Bound behind an equals sign. Nothing lets every level pass. -/
def writtenBound? (word : String) : Option Verbosity :=
  if word.isEmpty then some Level.trace.rank else bound? word

/-- Whether a target may begin with this character. -/
def mayBegin (c : Char) : Bool := c ∈ ['-', ':', '_'] || Text.isAlphanumeric c

/-- A text whose parts are told by their places. The places are found in the
text without the blanks around it, and the parts are cut at the same places out
of the text itself. -/
structure Spelling where
  /-- Bytes of the text. -/
  bytes : List UInt8
  /-- Bytes of the text without the blanks around it. -/
  scanned : List UInt8

namespace Spelling

/-- Spelling of a text. -/
def ofText (text : String) : Spelling :=
  ⟨text.toUTF8.toList, (Text.trim text).toUTF8.toList⟩

/-- The text between two places. -/
def cut (spelling : Spelling) (start stop : Nat) : Option String :=
  Text.Utf8.decode? ((spelling.bytes.take stop).drop start)

/-- The text from a place to the end. -/
def tail (spelling : Spelling) (start : Nat) : Option String :=
  spelling.cut start spelling.bytes.length

/-- The sign at a place. -/
def sign? (spelling : Spelling) (place : Nat) : Option Char :=
  spelling.scanned[place]?.map fun byte => Char.ofNat byte.toNat

/-- The first place, from one on, at which one of the signs stands. -/
def seek (spelling : Spelling) (signs : List Char) (start : Nat) : Option Nat :=
  ((spelling.scanned.drop start).findIdx? fun byte => signs.any (·.toNat == byte.toNat)).map
    (start + ·)

/-- Directive that ends at a place after its brackets: with a level, or without
one, which lets every level pass. -/
def finish? (spelling : Spelling) (condition : Verbosity → Directive) (place : Nat) :
    Option Directive :=
  match spelling.sign? place with
  | none => some (condition Level.trace.rank)
  | some '=' => do
    return condition (← writtenBound? (← spelling.tail (place + 1)))
  | some _ => none

/-- Directive whose brackets were opened just before a place. -/
def bracketed? (spelling : Spelling) (target : String) (start : Nat) : Option Directive := do
  let stop ← spelling.seek [']', '\x7b'] start
  let span ← spelling.cut start stop
  if spelling.sign? stop = some ']' then
    spelling.finish? (⟨target, some span, none, ·⟩) (stop + 1)
  else
    let close ← spelling.seek ['\x7d'] (stop + 1)
    let field ← FieldDemand.parse? (← spelling.cut (stop + 1) close)
    if spelling.sign? (close + 1) = some ']' then
      let span := if span.isEmpty then none else some span
      spelling.finish? (⟨target, span, some field, ·⟩) (close + 2)
    else none

/-- Directive without brackets at its beginning: a level, a target, or a target
with a level or with brackets behind it. -/
def plain? (spelling : Spelling) : Option Directive := do
  match spelling.seek ['=', '['] 0 with
  | none =>
    let text ← spelling.tail 0
    match bound? text with
    | some bound => some ⟨"", none, none, bound⟩
    | none => some ⟨text, none, none, Level.trace.rank⟩
  | some place =>
    let target ← spelling.cut 0 place
    if spelling.sign? place = some '=' then
      spelling.finish? (⟨target, none, none, ·⟩) place
    else spelling.bracketed? target (place + 1)

end Spelling

/-- Directive that a text without commas spells. -/
def parse? (text : String) : Option Directive :=
  let spelling := Spelling.ofText text
  match (Text.trim text).toList with
  | '[' :: _ => spelling.bracketed? "" 1
  | first :: _ => if mayBegin first then spelling.plain? else none
  | [] => none

/-- Whether a target begins as the directive asks. -/
def coversTarget (directive : Directive) (target : String) : Bool :=
  directive.target.toList.isPrefixOf target.toList

end Directive

end ForeignMatrix
