import ForeignMatrix.Text.Hex

/-!
# Scalars of YAML documents

Readers for the five ways in which a document spells a text: plain, between
single or double quotes, and as a literal or folded block. Where a text runs
over several lines outside of a block, a run of blanks and line breaks is
folded: blanks at either side of a break are dropped, a lone break becomes a
blank, and of several breaks the first is dropped.
-/

namespace ForeignMatrix.Yaml

/-- Whether a character ends a line. Other breaks have become line feeds. -/
def isBreak (c : Char) : Bool := c = '\n' || c = '\u2028' || c = '\u2029'

/-- Whether a character is a blank within a line. -/
def isBlank (c : Char) : Bool := c = ' ' || c = '\t'

/-- Whether a character separates words. -/
def isSpace (c : Char) : Bool := isBlank c || isBreak c

/-- The characters with line feeds for carriage returns, for pairs of return
and feed, and for next-line characters. -/
def joinBreaks : List Char → List Char
  | '\r' :: '\n' :: rest => '\n' :: joinBreaks rest
  | c :: rest => (if c = '\r' || c = '\u0085' then '\n' else c) :: joinBreaks rest
  | [] => []

/-- Whether a character may occur in a document. -/
def isAllowed (c : Char) : Bool :=
  let n := c.toNat
  n = 0x9 || n = 0xa || n = 0xd || (0x20 ≤ n && n ≤ 0x7e) || n = 0x85
    || (0xa0 ≤ n && n ≤ 0xfffd) || 0x10000 ≤ n

/-- Whether a word ends before the given text. -/
def endsWord (input : List Char) : Bool := input.head?.all isSpace

/-- What follows any blanks. -/
def skipBlanks (input : List Char) : List Char := input.dropWhile isBlank

/-- What follows blanks and a comment, up to the end of the line. -/
def skipComment (input : List Char) : List Char :=
  match skipBlanks input with
  | '#' :: rest => rest.dropWhile (!isBreak ·)
  | rest => rest

/-- Whether a text begins with the mark of the start of a document. -/
def startsDocument : List Char → Bool
  | '-' :: '-' :: '-' :: rest => endsWord rest
  | _ => false

/-- Whether a text begins with the mark of the end of a document. -/
def endsDocument : List Char → Bool
  | '.' :: '.' :: '.' :: rest => endsWord rest
  | _ => false

/-- Whether a text begins with a mark of a document. -/
def isMarked (input : List Char) : Bool := startsDocument input || endsDocument input

/-- What a run of blanks and breaks stands for. -/
def foldRun (run : List Char) : List Char :=
  match run.filter isBreak with
  | [] => run
  | ['\n'] => [' ']
  | '\n' :: breaks => breaks
  | breaks => breaks

/-- What a run stands for after a break that was escaped. -/
def foldEscaped (run : List Char) : List Char := run.filter isBreak

/-- Whether a text after a run of blanks and breaks is at the start of its line. -/
def atLineStart (run : List Char) : Bool := run.getLast?.any isBreak

/-! ## Quoted scalars -/

/-- Reads the rest of a text between single quotes, of which two stand for one.
The first argument is the run of blanks and breaks right before. -/
def readSingle (run : List Char) : List Char → Option (List Char × List Char)
  | [] => none
  | c :: rest =>
    if isSpace c then readSingle (run ++ [c]) rest
    else if atLineStart run && isMarked (c :: rest) then none
    else if c = '\'' then
      match rest with
      | '\'' :: rest => do
        let (text, rest) ← readSingle [] rest
        pure (foldRun run ++ '\'' :: text, rest)
      | _ => some (foldRun run, rest)
    else do
      let (text, rest) ← readSingle [] rest
      pure (foldRun run ++ c :: text, rest)

/-- Where a reader stands between double quotes. -/
inductive DoubleStance where
  /-- After a run of blanks and breaks, perhaps with an escaped break before. -/
  | run (escaped : Bool) (run : List Char)
  /-- After a backslash. -/
  | escape
  /-- Within a numbered escape, with so many digits missing. -/
  | code (missing value : Nat)

/-- Character that a short escape stands for. -/
def escaped? : Char → Option Char
  | '0' => some '\x00'
  | 'a' => some '\x07'
  | 'b' => some '\x08'
  | 't' => some '\t'
  | '\t' => some '\t'
  | 'n' => some '\n'
  | 'v' => some '\x0b'
  | 'f' => some '\x0c'
  | 'r' => some '\r'
  | 'e' => some '\x1b'
  | ' ' => some ' '
  | '"' => some '"'
  | '/' => some '/'
  | '\\' => some '\\'
  | 'N' => some '\u0085'
  | '_' => some '\u00a0'
  | 'L' => some '\u2028'
  | 'P' => some '\u2029'
  | _ => none

/-- Number of digits of a numbered escape. -/
def codeLength? : Char → Option Nat
  | 'x' => some 2
  | 'u' => some 4
  | 'U' => some 8
  | _ => none

/-- Reads the rest of a text between double quotes. -/
def readDouble : DoubleStance → List Char → Option (List Char × List Char)
  | _, [] => none
  | .escape, c :: rest =>
    if isBreak c then readDouble (.run true []) rest
    else
      match codeLength? c with
      | some missing => readDouble (.code missing 0) rest
      | none => do
        let char ← escaped? c
        let (text, rest) ← readDouble (.run false []) rest
        pure (char :: text, rest)
  | .code missing value, c :: rest => do
    let digit ← Text.hexValue? c
    if missing ≤ 1 then
      let char ← Text.charOfCode? (value * 16 + digit)
      let (text, rest) ← readDouble (.run false []) rest
      pure (char :: text, rest)
    else readDouble (.code (missing - 1) (value * 16 + digit)) rest
  | .run escaped run, c :: rest =>
    if isSpace c then readDouble (.run escaped (run ++ [c])) rest
    else if (atLineStart run || (escaped && run.isEmpty)) && isMarked (c :: rest) then none
    else
      let folded := if escaped then foldEscaped run else foldRun run
      if c = '"' then some (folded, rest)
      else if c = '\\' then do
        let (text, rest) ← readDouble .escape rest
        pure (folded ++ text, rest)
      else do
        let (text, rest) ← readDouble (.run false []) rest
        pure (folded ++ c :: text, rest)

/-! ## Plain scalars -/

/-- A plain text with what its reader found at its end. -/
structure PlainText where
  /-- The text. -/
  text : List Char
  /-- Whether a line break follows the text. -/
  brokeLine : Bool
  /-- What follows the text and the blanks and breaks after it. -/
  rest : List Char

/-- Characters that end a plain text within a collection in brackets or braces. -/
def flowMarks : List Char := [',', '[', ']', '\x7b', '\x7d']

/-- Whether a plain text ends before a character. The run of blanks and breaks
before it and the column it stands in are given. -/
def endsPlain (flow : Bool) (indent : Int) (run : List Char) (column : Nat) (c : Char)
    (rest : List Char) : Bool :=
  (!run.isEmpty && ((!flow && (column : Int) < indent)
      || (column = 0 && isMarked (c :: rest)) || c = '#'))
    || (c = ':' && endsWord rest)
    || (flow && flowMarks.contains c)

/-- Reads a plain text. Later lines of it must be indented to `indent` at
least, and must not be indented less by a tab. Within a collection in brackets
or braces a colon must not stand right before a mark of such a collection. -/
def readPlain (flow : Bool) (indent : Int) (run : List Char) (column : Nat) :
    List Char → Option PlainText
  | [] => some ⟨[], run.any isBreak, []⟩
  | c :: rest =>
    if isBreak c then readPlain flow indent (run ++ [c]) 0 rest
    else if isBlank c then
      if c = '\t' && run.any isBreak && (column : Int) < indent then none
      else readPlain flow indent (run ++ [c]) (column + 1) rest
    else if endsPlain flow indent run column c rest then
      some ⟨[], run.any isBreak, c :: rest⟩
    else if flow && c = ':' && rest.head?.any ('?' :: flowMarks).contains then none
    else do
      let plain ← readPlain flow indent [] (column + 1) rest
      pure { plain with text := foldRun run ++ c :: plain.text }

/-! ## Block scalars -/

/-- What becomes of the line breaks that end a block. -/
inductive Chomping where
  /-- All of them are dropped. -/
  | strip
  /-- The first of them is kept. -/
  | clip
  /-- All of them are kept. -/
  | keep
  deriving DecidableEq, Repr

/-- First line of a block. -/
structure BlockHeader where
  /-- What becomes of the line breaks at the end. -/
  chomping : Chomping := .clip
  /-- Indentation of the block against what contains it, if it is given. -/
  indent : Option Nat := none

/-- Reads an optional chomping mark. -/
def readChomping : List Char → Option Chomping × List Char
  | '-' :: rest => (some .strip, rest)
  | '+' :: rest => (some .keep, rest)
  | rest => (none, rest)

/-- Reads an optional indentation mark: a digit other than zero. -/
def readIndent : List Char → Option (Option Nat × List Char)
  | c :: rest =>
    if !c.isDigit then some (none, c :: rest)
    else if c = '0' then none
    else some (some (c.toNat - '0'.toNat), rest)
  | [] => some (none, [])

/-- Reads the first line of a block after its mark. The two marks on it stand
in either order. -/
def readBlockHeader (input : List Char) : Option (BlockHeader × List Char) := do
  let (before, rest) := readChomping input
  let (indent, rest) ← readIndent rest
  let (after, rest) := if before.isSome then (none, rest) else readChomping rest
  let header : BlockHeader := { chomping := (before <|> after).getD .clip, indent }
  match skipComment rest with
  | [] => some (header, [])
  | c :: rest => if isBreak c then some (header, rest) else none

/-- Finds the indentation of a block whose header gives none: that of its
deepest line before its first text, but at least `least`. -/
def detectIndent (least column deepest : Nat) : List Char → Option Nat
  | [] => some (max least (max column deepest))
  | c :: rest =>
    if c = ' ' then detectIndent least (column + 1) deepest rest
    else if c = '\t' then none
    else if isBreak c then detectIndent least 0 (max column deepest) rest
    else some (max least (max column deepest))

/-- A line of a block that holds text. -/
structure BlockLine where
  /-- Text of the line. -/
  content : List Char
  /-- Break that ends the line; none at the end of the document. -/
  ending : List Char
  /-- Breaks of the empty lines that follow. -/
  blanks : List Char

/-- What a reader finds within a block: the rest of a line, the breaks of empty
lines after it, and the lines after these. -/
structure BlockBody where
  /-- Rest of the current line. -/
  content : List Char := []
  /-- Break that ends the current line. -/
  ending : List Char := []
  /-- Breaks of the empty lines that follow. -/
  blanks : List Char := []
  /-- Lines after these. -/
  lines : List BlockLine := []

/-- Reads the body of a block of the given indentation. `column` is the column
within the indentation of a line, and none within its text. The block ends
before a text that is indented less. -/
def readBlockBody (indent : Nat) (column : Option Nat) :
    List Char → Option (BlockBody × List Char)
  | [] => some ({}, [])
  | c :: rest =>
    match column with
    | none =>
      if isBreak c then do
        let (body, rest) ← readBlockBody indent (some 0) rest
        pure ({ body with ending := [c] }, rest)
      else do
        let (body, rest) ← readBlockBody indent none rest
        pure ({ body with content := c :: body.content }, rest)
    | some column =>
      if isBreak c then do
        let (body, rest) ← readBlockBody indent (some 0) rest
        pure ({ body with blanks := c :: body.blanks }, rest)
      else if column < indent then
        if c = ' ' then readBlockBody indent (some (column + 1)) rest
        else if c = '\t' then none
        else some ({}, c :: rest)
      else do
        let (body, rest) ← readBlockBody indent none rest
        let line : BlockLine := ⟨c :: body.content, body.ending, body.blanks⟩
        pure ({ lines := line :: body.lines }, rest)

/-- Whether a line of a block begins with a blank. -/
def BlockLine.isIndented (line : BlockLine) : Bool := line.content.head?.any isBlank

/-- What stands between two lines of a block. Folding drops the break after a
line, or makes it a blank, unless one of the two lines is indented. -/
def joint (literal : Bool) (line next : BlockLine) : List Char :=
  if !literal && line.ending = ['\n'] && !line.isIndented && !next.isIndented then
    if line.blanks.isEmpty then [' '] else line.blanks
  else line.ending ++ line.blanks

/-- Text of the lines of a block. -/
def joinLines (literal : Bool) (chomping : Chomping) : List BlockLine → List Char
  | [] => []
  | [line] =>
    line.content ++
      match chomping with
      | .strip => []
      | .clip => line.ending
      | .keep => line.ending ++ line.blanks
  | line :: next :: rest =>
    line.content ++ joint literal line next ++ joinLines literal chomping (next :: rest)

/-- Text of a block. -/
def blockText (literal : Bool) (chomping : Chomping) (body : BlockBody) : List Char :=
  if body.lines.isEmpty then (if chomping = .keep then body.blanks else [])
  else body.blanks ++ joinLines literal chomping body.lines

/-- Reads a block after its mark, within a collection that is indented to
`parent`; that is -1 outside of any. -/
def readBlock (literal : Bool) (parent : Int) (input : List Char) :
    Option (List Char × List Char) := do
  let (header, rest) ← readBlockHeader input
  let indent ← match header.indent with
    | some indent => some ((max parent 0).toNat + indent)
    | none => detectIndent (max (parent + 1) 1).toNat 0 0 rest
  let (body, rest) ← readBlockBody indent (some 0) rest
  pure (blockText literal header.chomping body, rest)

end ForeignMatrix.Yaml
