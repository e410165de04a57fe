import ForeignMatrix.Text.Hex

/-!
# Strings of TOML documents

A string stands between double quotes, with escapes, or between single quotes,
without any. Either kind may span lines when it is opened and closed by three
quotes; a line break right after the opening is no part of it. Line breaks are
single line feeds here.
-/

namespace ForeignMatrix.Toml

/-- Whether a character may stand in a string or comment as it is. -/
def isPlain (c : Char) : Bool := c = '\t' || (0x20 ≤ c.toNat && c.toNat ≠ 0x7f)

/-- Whether a character is a blank within a line. -/
def isBlank (c : Char) : Bool := c = ' ' || c = '\t'

/-- What follows any blanks. -/
def skipBlanks (input : List Char) : List Char := input.dropWhile isBlank

/-- Character that a short escape stands for. -/
def escaped? : Char → Option Char
  | 'b' => some '\x08'
  | 't' => some '\t'
  | 'n' => some '\n'
  | 'f' => some '\x0c'
  | 'r' => some '\r'
  | '"' => some '"'
  | '\\' => some '\\'
  | _ => none

/-- Number of quotes of one kind at the front of a text. -/
def quoteRun (quote : Char) (input : List Char) : Nat := (input.takeWhile (· == quote)).length

/-- Where a reader stands within a string with escapes. -/
inductive Stance where
  /-- Between characters. -/
  | plain
  /-- After a backslash. -/
  | escape
  /-- Within a numbered escape, with so many digits missing. -/
  | code (missing value : Nat)
  /-- Between a backslash and the end of its line. -/
  | lineEnd
  /-- After a line that ended in a backslash, before the next text. -/
  | lineStart
  deriving DecidableEq, Repr

/-- The end of a string over several lines at the front of a run of quotes:
three quotes close the string, and up to two before them belong to it. Answers
nothing if the run does not close the string. -/
def closing? (quote : Char) (input : List Char) : Option (Option (List Char × List Char)) :=
  let run := quoteRun quote input
  if run < 3 then none
  else if run ≤ 5 then some (some (List.replicate (run - 3) quote, input.drop run))
  else some none

/-- Reads the rest of a string with escapes, whose opening is past. -/
def readBasic (multiline : Bool) : Stance → List Char → Option (List Char × List Char)
  | _, [] => none
  | .escape, c :: rest =>
    if c = 'u' then readBasic multiline (.code 4 0) rest
    else if c = 'U' then readBasic multiline (.code 8 0) rest
    else if multiline && c = '\n' then readBasic multiline .lineStart rest
    else if multiline && isBlank c then readBasic multiline .lineEnd rest
    else do
      let char ← escaped? c
      let (text, rest) ← readBasic multiline .plain rest
      pure (char :: text, rest)
  | .code missing value, c :: rest => do
    let digit ← Text.hexValue? c
    if missing ≤ 1 then
      let char ← Text.charOfCode? (value * 16 + digit)
      let (text, rest) ← readBasic multiline .plain rest
      pure (char :: text, rest)
    else readBasic multiline (.code (missing - 1) (value * 16 + digit)) rest
  | .lineEnd, c :: rest =>
    if c = '\n' then readBasic multiline .lineStart rest
    else if isBlank c then readBasic multiline .lineEnd rest
    else none
  | stance, c :: rest =>
    if stance = .lineStart && (c = '\n' || isBlank c) then readBasic multiline .lineStart rest
    else if c = '\\' then readBasic multiline .escape rest
    else if c = '"' then
      if !multiline then some ([], rest)
      else
        match closing? '"' (c :: rest) with
        | some ending => ending
        | none => do
          let (text, rest) ← readBasic multiline .plain rest
          pure (c :: text, rest)
    else if isPlain c || (multiline && c = '\n') then do
      let (text, rest) ← readBasic multiline .plain rest
      pure (c :: text, rest)
    else none

/-- Reads the rest of a string without escapes, whose opening is past. -/
def readLiteral (multiline : Bool) : List Char → Option (List Char × List Char)
  | [] => none
  | c :: rest =>
    if c = '\'' then
      if !multiline then some ([], rest)
      else
        match closing? '\'' (c :: rest) with
        | some ending => ending
        | none => do
          let (text, rest) ← readLiteral multiline rest
          pure (c :: text, rest)
    else if isPlain c || (multiline && c = '\n') then do
      let (text, rest) ← readLiteral multiline rest
      pure (c :: text, rest)
    else none

/-- What follows a line break at the front, if there is one. -/
def skipBreak : List Char → List Char
  | '\n' :: rest => rest
  | rest => rest

/-- Reads a string of any kind. -/
def readString : List Char → Option (List Char × List Char)
  | '"' :: '"' :: '"' :: rest => readBasic true .plain (skipBreak rest)
  | '"' :: rest => readBasic false .plain rest
  | '\'' :: '\'' :: '\'' :: rest => readLiteral true (skipBreak rest)
  | '\'' :: rest => readLiteral false rest
  | _ => none

/-- Whether a character cannot stand in a string without an escape; line
breaks and tabs are not counted. -/
def isControl (c : Char) : Bool := !isPlain c && c != '\n'

/-- Length of the longest run of a quote in a text. -/
def longestRun (quote : Char) : List Char → Nat
  | [] => 0
  | c :: rest => max (quoteRun quote (c :: rest)) (longestRun quote rest)

/-- Escape of a character that cannot stand as it is. -/
def escapeOf (c : Char) : List Char :=
  if c = '\x08' then ['\\', 'b']
  else if c = '\t' then ['\\', 't']
  else if c = '\n' then ['\\', 'n']
  else if c = '\x0c' then ['\\', 'f']
  else if c = '\r' then ['\\', 'r']
  else if c = '"' then ['\\', '"']
  else if c = '\\' then ['\\', '\\']
  else '\\' :: 'u' :: Text.toUpperHex 4 c.toNat

/-- Whether a character of a string with escapes is written by one. Quotes
are counted elsewhere, and line breaks may stand in strings over several lines. -/
def needsEscape (multiline : Bool) (c : Char) : Bool :=
  c = '\t' || c = '\\' || isControl c || (c = '\n' && !multiline)

/-- Body of a string with escapes. No more than `allowed` quotes stand in a
row; `run` of them are right before. -/
def basicBody (multiline : Bool) (allowed run : Nat) : List Char → List Char
  | [] => []
  | c :: rest =>
    if c = '"' then
      if run < allowed then c :: basicBody multiline allowed (run + 1) rest
      else escapeOf c ++ basicBody multiline allowed 0 rest
    else if needsEscape multiline c then escapeOf c ++ basicBody multiline allowed 0 rest
    else c :: basicBody multiline allowed 0 rest

/-- How a string is written. -/
inductive StringForm where
  /-- With escapes. -/
  | basic (multiline : Bool)
  /-- Without escapes. -/
  | literal (multiline : Bool)
  deriving DecidableEq, Repr

/-- Form in which a text is written: the first one that can show it without an
escape other than for tabs; failing that, one with escapes. -/
def StringForm.ofText (text : List Char) : StringForm :=
  let controls := text.any isControl
  let backslashes := text.contains '\\'
  let breaks := text.contains '\n'
  let doubles := longestRun '"' text
  let singles := longestRun '\'' text
  if !controls && !backslashes && doubles = 0 && !breaks then .basic false
  else if !controls && singles = 0 && !breaks then .literal false
  else if !controls && !backslashes && doubles < 3 then .basic true
  else if !controls && singles < 3 then .literal true
  else .basic breaks

/-- Opening of a string over several lines. A text with line breaks starts on
a line of its own. -/
def opening (quotes text : List Char) : List Char :=
  if text.contains '\n' then quotes ++ ['\n'] else quotes

/-- A text as a string of a document. -/
def quotedChars (text : List Char) : List Char :=
  match StringForm.ofText text with
  | .basic false => ['"'] ++ basicBody false 0 0 text ++ ['"']
  | .basic true =>
    opening ['"', '"', '"'] text ++ basicBody true 2 0 text ++ ['"', '"', '"']
  | .literal false => ['\''] ++ text ++ ['\'']
  | .literal true => opening ['\'', '\'', '\''] text ++ text ++ ['\'', '\'', '\'']

/-- A text as a string of a document. -/
def quoted (text : String) : String := String.ofList (quotedChars text.toList)

end ForeignMatrix.Toml
