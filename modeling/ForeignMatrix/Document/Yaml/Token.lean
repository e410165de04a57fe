import ForeignMatrix.Document.Yaml.Text

/-!
# Tokens of YAML documents

The tokens that a document consists of, and readers for those that are neither
punctuation nor scalars: directives, anchors, aliases and tags.
-/

namespace ForeignMatrix.Yaml

/-- How a scalar is spelled. -/
inductive ScalarStyle where
  /-- Without quotes. -/
  | plain
  /-- Between single quotes. -/
  | single
  /-- Between double quotes. -/
  | double
  /-- As a block with its line breaks. -/
  | literal
  /-- As a block whose lines are joined. -/
  | folded
  deriving DecidableEq, Repr

/-- A tag, or a part of one. Its bytes need not encode a text, and there is no
zero among them. -/
abbrev Tag := List UInt8

/-- A token. -/
inductive Token where
  /-- States the version of the language. -/
  | version (major minor : Nat)
  /-- Gives a handle of tags a meaning. -/
  | tagHandle (handle : String) (meaning : Tag)
  /-- Starts a document. -/
  | documentStart
  /-- Ends a document. -/
  | documentEnd
  /-- Starts an indented sequence. -/
  | sequenceStart
  /-- Starts an indented mapping. -/
  | mappingStart
  /-- Ends an indented sequence or mapping. -/
  | blockEnd
  /-- Opens a sequence in brackets. -/
  | bracketOpen
  /-- Closes a sequence in brackets. -/
  | bracketClose
  /-- Opens a mapping in braces. -/
  | braceOpen
  /-- Closes a mapping in braces. -/
  | braceClose
  /-- Comes before an item of an indented sequence. -/
  | entry
  /-- Stands between items in brackets or braces. -/
  | comma
  /-- Comes before a key. -/
  | key
  /-- Comes before a value. -/
  | value
  /-- Stands for the node of an anchor. -/
  | alias (name : String)
  /-- Anchors the next node. -/
  | anchor (name : String)
  /-- Tags the next node. -/
  | tag (handle : String) (suffix : Tag)
  /-- A text. -/
  | scalar (style : ScalarStyle) (text : String)
  deriving DecidableEq, Repr

/-- Whether a character may stand in the name of a directive or an anchor. -/
def isNameChar (c : Char) : Bool := c.isAlphanum || c = '-' || c = '_'

/-- Reads a name, which may be empty. -/
def readName (input : List Char) : List Char × List Char :=
  (input.takeWhile isNameChar, input.dropWhile isNameChar)

/-- Reads a number of at most nine digits. -/
def readVersionNumber (input : List Char) : Option (Nat × List Char) :=
  let digits := input.takeWhile Char.isDigit
  if digits.isEmpty || 9 < digits.length then none
  else
    some (digits.foldl (fun n c => n * 10 + (c.toNat - '0'.toNat)) 0,
      input.dropWhile Char.isDigit)

/-- Reads a version. -/
def readVersion (input : List Char) : Option (Token × List Char) := do
  let (major, rest) ← readVersionNumber (skipBlanks input)
  match rest with
  | '.' :: rest =>
    let (minor, rest) ← readVersionNumber rest
    pure (.version major minor, rest)
  | _ => none

/-- Reads a handle of tags, or what looks like the start of one. The handle of
a directive has an exclamation mark at both ends, or is a single one. -/
def readHandle (directive : Bool) : List Char → Option (List Char × List Char)
  | '!' :: rest =>
    let (name, rest) := readName rest
    match rest with
    | '!' :: rest => some ('!' :: name ++ ['!'], rest)
    | rest => if directive && !name.isEmpty then none else some ('!' :: name, rest)
  | _ => none

/-- Whether a character may stand in a tag; commas and brackets only in a tag
that is written out in full. -/
def isTagChar (full : Bool) (c : Char) : Bool :=
  isNameChar c || ";/?:@&=+$.!~*'()".toList.contains c || (full && ",[]".toList.contains c)

/-- Number of bytes of the character whose encoding begins with a byte. -/
def encodedLength (byte : Nat) : Nat :=
  if byte < 0x80 then 1
  else if 0xc0 ≤ byte && byte < 0xe0 then 2
  else if 0xe0 ≤ byte && byte < 0xf0 then 3
  else if 0xf0 ≤ byte && byte < 0xf8 then 4
  else 0

/-- Reads the bytes of a tag, of which those after percent signs are given by
two digits each. `missing` is the number of bytes that the current character
still lacks. -/
def readTagBytes (full : Bool) (missing : Nat) : List Char → Option (Tag × List Char)
  | '%' :: a :: b :: rest => do
    let byte := (← Text.hexValue? a) * 16 + (← Text.hexValue? b)
    let length := if missing = 0 then encodedLength byte
      else if 0x80 ≤ byte && byte < 0xc0 then missing
      else 0
    if length = 0 then none
    else
      let (bytes, rest) ← readTagBytes full (length - 1) rest
      pure (byte.toUInt8 :: bytes, rest)
  | c :: rest =>
    if missing ≠ 0 || c = '%' then none
    else if isTagChar full c then do
      let (bytes, rest) ← readTagBytes full 0 rest
      pure (c.toNat.toUInt8 :: bytes, rest)
    else some ([], c :: rest)
  | [] => if missing = 0 then some ([], []) else none

/-- Reads the part of a tag that follows its handle, which `required` forbids to
be missing. A zero byte ends the tag, but not its spelling. -/
def readTagText (full required : Bool) (input : List Char) : Option (Tag × List Char) := do
  let (bytes, rest) ← readTagBytes full 0 input
  if required && bytes.isEmpty then none else some (bytes.takeWhile (· != 0), rest)

/-- Reads what a handle of tags means. -/
def readTagHandle (input : List Char) : Option (Token × List Char) := do
  let (handle, rest) ← readHandle true (skipBlanks input)
  match rest with
  | c :: _ =>
    if !isBlank c then none
    else
      let (meaning, rest) ← readTagText true true (skipBlanks rest)
      if !endsWord rest then none
      else pure (.tagHandle (String.ofList handle) meaning, rest)
  | [] => none

/-- Reads a directive after its percent sign, up to the start of the next line. -/
def readDirective (input : List Char) : Option (Token × List Char) := do
  let (name, rest) := readName input
  if name.isEmpty || !endsWord rest then none
  let (token, rest) ← match String.ofList name with
    | "YAML" => readVersion rest
    | "TAG" => readTagHandle rest
    | _ => none
  match skipComment rest with
  | [] => some (token, [])
  | c :: rest => if isBreak c then some (token, rest) else none

/-- Reads the name of an anchor or alias after its mark. -/
def readAnchor (input : List Char) : Option (String × List Char) :=
  let (name, rest) := readName input
  if name.isEmpty then none
  else if endsWord rest || rest.head?.any "?:,]\x7d%@`".toList.contains then
    some (String.ofList name, rest)
  else none

/-- Tag that is a single exclamation mark. -/
def plainTag : Tag := [0x21]

/-- Reads a tag without the check of what follows it. A tag in angle brackets
is written out in full and has an empty handle, as has the tag that is a single
exclamation mark. -/
def readTagBody : List Char → Option (Token × List Char)
  | '!' :: '<' :: rest => do
    let (meaning, rest) ← readTagText true true rest
    match rest with
    | '>' :: rest => some (.tag "" meaning, rest)
    | _ => none
  | input => do
    let (handle, rest) ← readHandle false input
    if handle.length ≠ 1 && handle.getLast? = some '!' then
      let (suffix, rest) ← readTagText false true rest
      some (.tag (String.ofList handle) suffix, rest)
    else
      let (suffix, rest) ← readTagText false false rest
      let suffix := (handle.drop 1).map (·.toNat.toUInt8) ++ suffix
      some (if suffix.isEmpty then .tag "" plainTag else .tag "!" suffix, rest)

/-- Reads a tag. A blank, a line break or, in brackets or braces, a comma must
follow. -/
def readTag (flow : Bool) (input : List Char) : Option (Token × List Char) := do
  let (token, rest) ← readTagBody input
  if endsWord rest || (flow && rest.head? = some ',') then some (token, rest) else none

end ForeignMatrix.Yaml
