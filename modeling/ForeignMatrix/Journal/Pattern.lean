import ForeignMatrix.Text.Alphanumeric

/-!
# Patterns of field values

Whether a text is a pattern that a filter may ask of a field's value: groups,
alternatives, bracketed classes, escapes and repetitions. A closing brace ends
the field before the pattern is read, so braces that need one are never well
formed here. Conditions on the border of a word are refused: nothing that reads
byte by byte can decide them.

What a pattern matches is not covered, because no record hangs on it.
-/

namespace ForeignMatrix.Pattern

/-- What one atom of a pattern stands for. -/
inductive Atom where
  /-- One character. -/
  | char (c : Char)
  /-- A class of characters. -/
  | oneOf
  /-- A place between characters. -/
  | place
  deriving DecidableEq, Repr

/-- Value of a hexadecimal digit. -/
def hexDigit? (c : Char) : Option Nat :=
  if c.isDigit then some (c.toNat - '0'.toNat)
  else if 'a' ≤ c ∧ c ≤ 'f' then some (c.toNat - 'a'.toNat + 10)
  else if 'A' ≤ c ∧ c ≤ 'F' then some (c.toNat - 'A'.toNat + 10)
  else none

/-- The character that a number of hexadecimal digits spells, and the rest. -/
def coded? (count : Nat) (text : List Char) : Option (Atom × List Char) := do
  let digits ← (text.take count).mapM hexDigit?
  if digits.length < count then none
  else
    let code := digits.foldl (fun n d => 16 * n + d) 0
    if h : code.isValidChar then some (.char (Char.ofNatAux code h), text.drop count) else none

/-- Letters that name a category of characters. -/
def categories : List Char := "clmnpsz".toList

/-- Atom that an escape spells, read after the backslash, and the rest. -/
def escape? : List Char → Option (Atom × List Char)
  | [] => none
  | c :: rest =>
    if c = 'x' then coded? 2 rest
    else if c = 'u' then coded? 4 rest
    else if c = 'U' then coded? 8 rest
    else if c = 'p' ∨ c = 'P' then
      match rest with
      | name :: rest => if name.toLower ∈ categories then some (.oneOf, rest) else none
      | [] => none
    else if c ∈ "dswDSW".toList then some (.oneOf, rest)
    else if c ∈ "aftnrv".toList then
      let code := match c with
        | 'a' => '\x07'
        | 'f' => '\x0c'
        | 't' => '\t'
        | 'n' => '\n'
        | 'r' => '\r'
        | _ => '\x0b'
      some (.char code, rest)
    else if c = 'A' ∨ c = 'z' then some (.place, rest)
    else if 0x80 ≤ c.toNat ∨ c.isAlphanum ∨ c = '<' ∨ c = '>' then none
    else some (.char c, rest)

/-- One member of a class and the rest; a place is none. -/
def member? : List Char → Option (Atom × List Char)
  | [] => none
  | '\\' :: rest => (escape? rest).filter (·.1 ≠ .place)
  | c :: rest => some (.char c, rest)

/-- What follows the opening of a class: a negation, hyphens, and a bracket that
closes nothing because it comes first. -/
def classStart (text : List Char) : List Char :=
  let text := if text.head? = some '^' then text.tail else text
  match text with
  | ']' :: rest => rest
  | _ => text.dropWhile (· == '-')

/-- Whether the text goes on with the end of a range: a hyphen that neither
closes the class nor begins a difference. -/
def isRange : List Char → Bool
  | '-' :: ']' :: _ => false
  | '-' :: '-' :: _ => false
  | '-' :: _ => true
  | _ => false

/-- What follows a class, read inside so many open brackets. -/
def classEnd? : Nat → Nat → List Char → Option (List Char)
  | 0, _, _ => none
  | _ + 1, _, [] => none
  | fuel + 1, depth, '[' :: rest => classEnd? fuel (depth + 1) (classStart rest)
  | fuel + 1, depth, ']' :: rest => if depth ≤ 1 then some rest else classEnd? fuel (depth - 1) rest
  | fuel + 1, depth, text => do
    let (first, rest) ← member? text
    if isRange rest then
      let (last, rest) ← member? rest.tail
      match first, last with
      | .char low, .char high => if low ≤ high then classEnd? fuel depth rest else none
      | _, _ => none
    else classEnd? fuel depth rest

/-- What an opening parenthesis begins. -/
inductive GroupStart where
  /-- A group, which may have a name. -/
  | group (name : Option (List Char))
  /-- A setting of flags, which is closed already. -/
  | flags
  deriving DecidableEq, Repr

/-- Flags up to a colon or a closing parenthesis, each at most once, a hyphen
with some flag behind it; answers whether a parenthesis closed them and whether
there were any. -/
def flags? : List Char → List Char → Option ((Bool × Bool) × List Char)
  | _, [] => none
  | seen, c :: rest =>
    if c = ':' ∨ c = ')' then
      if seen.head? = some '-' then none else some ((c = ')', !seen.isEmpty), rest)
    else if c ∉ "imsUuRx-".toList ∨ c ∈ seen then none
    else flags? (c :: seen) rest

/-- Whether the characters name a group. -/
def isGroupName : List Char → Bool
  | [] => false
  | c :: rest =>
    (c == '_' || (Text.isAlphanumeric c && !c.isDigit))
      && rest.all fun c => c ∈ "_.[]".toList || Text.isAlphanumeric c

/-- Name of a group up to its closing bracket, and the rest. -/
def groupName? (text : List Char) : Option (GroupStart × List Char) :=
  match text.dropWhile (· != '>') with
  | _ :: rest =>
    let name := text.takeWhile (· != '>')
    if isGroupName name then some (.group (some name), rest) else none
  | [] => none

/-- What stands after an opening parenthesis; looking around is not supported. -/
def groupStart? : List Char → Option (GroupStart × List Char)
  | '?' :: 'P' :: '<' :: rest => groupName? rest
  | '?' :: '<' :: rest => groupName? rest
  | '?' :: rest =>
    match flags? [] rest with
    | some ((true, true), rest) => some (.flags, rest)
    | some ((true, false), _) => none
    | some ((false, _), rest) => some (.group none, rest)
    | none => none
  | rest => some (.group none, rest)

/-- Whether the rest of a pattern is well formed, inside so many open groups,
after the names given so far; a repetition needs something to repeat. -/
def restWellFormed : Nat → Nat → List (List Char) → Bool → List Char → Bool
  | 0, _, _, _, _ => false
  | _ + 1, depth, _, _, [] => depth == 0
  | fuel + 1, depth, names, repeatable, c :: rest =>
    if c = '(' then
      match groupStart? rest with
      | some (.group (some name), rest) =>
        name ∉ names && restWellFormed fuel (depth + 1) (name :: names) false rest
      | some (.group none, rest) => restWellFormed fuel (depth + 1) names false rest
      | some (.flags, rest) => restWellFormed fuel depth names false rest
      | none => false
    else if c = ')' then depth != 0 && restWellFormed fuel (depth - 1) names true rest
    else if c = '|' then restWellFormed fuel depth names false rest
    else if c = '?' ∨ c = '*' ∨ c = '+' then
      repeatable && restWellFormed fuel depth names true rest
    else if c = '\x7b' then false
    else if c = '[' then
      match classEnd? (rest.length + 1) 1 (classStart rest) with
      | some rest => restWellFormed fuel depth names true rest
      | none => false
    else if c = '\\' then
      match escape? rest with
      | some (_, rest) => restWellFormed fuel depth names true rest
      | none => false
    else restWellFormed fuel depth names true rest

/-- Whether a text is a well-formed pattern. -/
def isWellFormed (text : List Char) : Bool := restWellFormed (text.length + 1) 0 [] false text

end ForeignMatrix.Pattern
