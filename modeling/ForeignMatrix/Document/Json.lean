import ForeignMatrix.Text.Hex

/-!
# JSON documents

Reading a document of nested objects and arrays, and writing a text as one of
its strings. Numbers are checked and kept as they are spelled. A string may
name half of a surrogate pair, in which case it spells no text; whether that
matters is for the reader of the value to say.
-/

namespace ForeignMatrix

/-- A value of a JSON document. -/
inductive JsonValue where
  /-- The word `null`. -/
  | null
  /-- The word `true` or `false`. -/
  | flag (value : Bool)
  /-- A number as it is spelled. -/
  | number (spelling : String)
  /-- A string; none if it spells no text. -/
  | text (content : Option String)
  /-- An array. -/
  | list (items : List JsonValue)
  /-- An object with its keys, repeated ones included. -/
  | record (entries : List (Option String × JsonValue))

namespace JsonValue

/-- Characters that may stand between the parts of a document. -/
def isBlank (c : Char) : Bool := c = ' ' || c = '\t' || c = '\n' || c = '\r'

/-- What follows any blanks. -/
def skipBlanks (input : List Char) : List Char := input.dropWhile isBlank

/-- What one piece of a string stands for. -/
inductive Piece where
  /-- A character. -/
  | char (value : Char)
  /-- A unit of sixteen bits, given by its number. -/
  | unit (value : Nat)

namespace Piece

/-- Whether a unit begins a surrogate pair. -/
def isLead (unit : Nat) : Bool := 0xd800 ≤ unit && unit < 0xdc00

/-- Whether a unit ends a surrogate pair. -/
def isTrail (unit : Nat) : Bool := 0xdc00 ≤ unit && unit < 0xe000

/-- Character of a surrogate pair. -/
def pairChar (lead trail : Nat) : Char :=
  Char.ofNat (0x10000 + (lead - 0xd800) * 0x400 + (trail - 0xdc00))

/-- Text of pieces, if every surrogate belongs to a pair. -/
def text? : List Piece → Option (List Char)
  | [] => some []
  | char c :: rest => (text? rest).map (c :: ·)
  | unit a :: unit b :: rest =>
    if isLead a then
      if isTrail b then (text? rest).map (pairChar a b :: ·) else none
    else if isTrail a then none
    else (text? (unit b :: rest)).map (Char.ofNat a :: ·)
  | unit a :: rest =>
    if isLead a || isTrail a then none else (text? rest).map (Char.ofNat a :: ·)

end Piece

/-- Character that a short escape stands for. -/
def escaped? : Char → Option Char
  | '"' => some '"'
  | '\\' => some '\\'
  | '/' => some '/'
  | 'b' => some '\x08'
  | 'f' => some '\x0c'
  | 'n' => some '\n'
  | 'r' => some '\r'
  | 't' => some '\t'
  | _ => none

/-- Reads the rest of a string whose opening quote is past. Answers its pieces
and what follows the closing quote. -/
def readString : List Char → Option (List Piece × List Char)
  | '"' :: rest => some ([], rest)
  | '\\' :: 'u' :: a :: b :: c :: d :: rest => do
    let unit ← Text.ofHex? [a, b, c, d]
    let (pieces, rest) ← readString rest
    pure (.unit unit :: pieces, rest)
  | '\\' :: c :: rest => do
    let char ← escaped? c
    let (pieces, rest) ← readString rest
    pure (.char char :: pieces, rest)
  | c :: rest =>
    if c.toNat < 0x20 then none
    else do
      let (pieces, rest) ← readString rest
      pure (.char c :: pieces, rest)
  | [] => none

/-- Reads a run of at least one digit. -/
def readDigits (input : List Char) : Option (List Char × List Char) :=
  match input.takeWhile Char.isDigit with
  | [] => none
  | digits => some (digits, input.dropWhile Char.isDigit)

/-- Reads an optional fraction. -/
def readFraction : List Char → Option (List Char × List Char)
  | '.' :: rest => (readDigits rest).map fun (digits, rest) => ('.' :: digits, rest)
  | rest => some ([], rest)

/-- Reads an optional exponent. -/
def readExponent : List Char → Option (List Char × List Char)
  | mark :: rest =>
    if mark = 'e' ∨ mark = 'E' then
      match rest with
      | sign :: digits =>
        if sign = '+' ∨ sign = '-' then
          (readDigits digits).map fun (digits, rest) => (mark :: sign :: digits, rest)
        else (readDigits rest).map fun (digits, rest) => (mark :: digits, rest)
      | [] => none
    else some ([], mark :: rest)
  | [] => some ([], [])

/-- Reads the digits before a fraction. A zero stands alone. -/
def readWhole : List Char → Option (List Char × List Char)
  | '0' :: rest => if rest.head?.any Char.isDigit then none else some (['0'], rest)
  | rest => readDigits rest

/-- Reads a number. -/
def readNumber (input : List Char) : Option (JsonValue × List Char) := do
  let (sign, rest) := match input with
    | '-' :: rest => (['-'], rest)
    | rest => ([], rest)
  let (whole, rest) ← readWhole rest
  let (fraction, rest) ← readFraction rest
  let (exponent, rest) ← readExponent rest
  pure (.number (String.ofList (sign ++ whole ++ fraction ++ exponent)), rest)

/-- Text of the pieces of a string, if they spell one. -/
def textOf (pieces : List Piece) : Option String := (Piece.text? pieces).map String.ofList

mutual

/-- Reads a value. The first argument bounds the number of steps. -/
def readValue : Nat → List Char → Option (JsonValue × List Char)
  | 0, _ => none
  | steps + 1, input =>
    match skipBlanks input with
    | '"' :: rest => do
      let (pieces, rest) ← readString rest
      pure (.text (textOf pieces), rest)
    | '[' :: rest =>
      match skipBlanks rest with
      | ']' :: rest => some (.list [], rest)
      | rest => do
        let (items, rest) ← readItems steps rest
        pure (.list items, rest)
    | '\x7b' :: rest =>
      match skipBlanks rest with
      | '\x7d' :: rest => some (.record [], rest)
      | rest => do
        let (entries, rest) ← readEntries steps rest
        pure (.record entries, rest)
    | 'n' :: 'u' :: 'l' :: 'l' :: rest => some (.null, rest)
    | 't' :: 'r' :: 'u' :: 'e' :: rest => some (.flag true, rest)
    | 'f' :: 'a' :: 'l' :: 's' :: 'e' :: rest => some (.flag false, rest)
    | rest => readNumber rest

/-- Reads the items of an array that is not empty, and its end. -/
def readItems : Nat → List Char → Option (List JsonValue × List Char)
  | 0, _ => none
  | steps + 1, input => do
    let (item, rest) ← readValue steps input
    match skipBlanks rest with
    | ',' :: rest =>
      let (items, rest) ← readItems steps rest
      pure (item :: items, rest)
    | ']' :: rest => pure ([item], rest)
    | _ => none

/-- Reads the entries of an object that is not empty, and its end. -/
def readEntries : Nat → List Char → Option (List (Option String × JsonValue) × List Char)
  | 0, _ => none
  | steps + 1, input =>
    match skipBlanks input with
    | '"' :: rest => do
      let (pieces, rest) ← readString rest
      match skipBlanks rest with
      | ':' :: rest =>
        let (value, rest) ← readValue steps rest
        let entry := (textOf pieces, value)
        match skipBlanks rest with
        | ',' :: rest =>
          let (entries, rest) ← readEntries steps rest
          pure (entry :: entries, rest)
        | '\x7d' :: rest => pure ([entry], rest)
        | _ => none
      | _ => none
    | _ => none

end

/-- Value of a document. Nothing but blanks may follow it. -/
def parse? (document : String) : Option JsonValue := do
  let input := document.toList
  let (value, rest) ← readValue (2 * input.length + 2) input
  if (skipBlanks rest).isEmpty then some value else none

/-- Form of a character within a string. -/
def quotedChar (c : Char) : List Char :=
  if c = '"' then ['\\', '"']
  else if c = '\\' then ['\\', '\\']
  else if c = '\x08' then ['\\', 'b']
  else if c = '\t' then ['\\', 't']
  else if c = '\n' then ['\\', 'n']
  else if c = '\x0c' then ['\\', 'f']
  else if c = '\r' then ['\\', 'r']
  else if c.toNat < 0x20 then '\\' :: 'u' :: Text.toHex 4 c.toNat
  else [c]

/-- A text as a string of a document. -/
def quoted (text : String) : String :=
  String.ofList ('"' :: text.toList.flatMap quotedChar ++ ['"'])

end JsonValue

end ForeignMatrix
