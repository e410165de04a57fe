import ForeignMatrix.Document.Yaml.Scalar
import ForeignMatrix.Document.Yaml.Token

/-!
# Writing texts into YAML documents

A text of several lines is written as a literal block, any other one without
quotes. Single quotes are used where a text without them would be taken for
something else, and double quotes where neither form can hold the text.
-/

namespace ForeignMatrix.Yaml

/-- Whether a character can be written as it is. -/
def isWritable (c : Char) : Bool :=
  let n := c.toNat
  n = 0xa || (0x20 ≤ n && n ≤ 0x7e) || (0xa0 ≤ n && n ≠ 0xfeff && n ≠ 0xfffe && n ≠ 0xffff)

/-- Whether a space or the end follows. -/
def isFollowed (rest : List Char) : Bool := rest.head?.all fun c => isSpace c

/-- Characters that mean something at the start of a text. -/
def leadingMarks : List Char := "#,[]\x7b\x7d&*!|>'\"%@`".toList

/-- Whether a text means something at its start. -/
def hasLeadingMark : List Char → Bool
  | '-' :: '-' :: '-' :: _ => true
  | '.' :: '.' :: '.' :: _ => true
  | c :: rest =>
    leadingMarks.contains c || ((c = '?' || c = ':' || c = '-') && isFollowed rest)
  | [] => false

/-- Whether a text means something after its start. `before` is the character
before the given rest of it. -/
def hasInnerMark (before : Char) : List Char → Bool
  | [] => false
  | c :: rest =>
    (c = ':' && isFollowed rest) || (c = '#' && isSpace before) || hasInnerMark c rest

/-- Whether the first character of a text fulfils one condition and the next
one another, or any later two neighbours do. -/
def hasNeighbours (first second : Char → Bool) : List Char → Bool
  | a :: b :: rest => (first a && second b) || hasNeighbours first second (b :: rest)
  | _ => false

/-- Whether a space stands before a line break. -/
def hasSpaceBreak (text : List Char) : Bool := hasNeighbours (· = ' ') isBreak text

/-- Whether a line begins with a space, the first one apart. -/
def hasBreakSpace (text : List Char) : Bool := hasNeighbours isBreak (· = ' ') text

/-- Whether a text needs double quotes. -/
def needsDouble (text : List Char) : Bool := !text.all isWritable || hasSpaceBreak text

/-- Whether a text can stand without quotes. -/
def canBePlain (text : List Char) : Bool :=
  !needsDouble text && !text.any isBreak && text.head? ≠ some ' ' && text.getLast? ≠ some ' '
    && !hasLeadingMark text
    && match text with
      | [] => true
      | c :: rest => !hasInnerMark c rest

/-- Whether a text can stand between single quotes. -/
def canBeSingle (text : List Char) : Bool := !needsDouble text && !hasBreakSpace text

/-- Whether a text can be a literal block. -/
def canBeLiteral (text : List Char) : Bool := !needsDouble text && text.getLast? ≠ some ' '

/-- Style in which a text is written. -/
def styleOf (text : List Char) : ScalarStyle :=
  if text.contains '\n' then (if canBeLiteral text then .literal else .double)
  else if !isAmbiguous (String.ofList text) && canBePlain text then .plain
  else if canBeSingle text then .single
  else .double

/-- Form of a character between double quotes. -/
def escapeOf (c : Char) : List Char :=
  let n := c.toNat
  if c = '\x00' then ['\\', '0']
  else if c = '\x07' then ['\\', 'a']
  else if c = '\x08' then ['\\', 'b']
  else if c = '\t' then ['\\', 't']
  else if c = '\n' then ['\\', 'n']
  else if c = '\x0b' then ['\\', 'v']
  else if c = '\x0c' then ['\\', 'f']
  else if c = '\r' then ['\\', 'r']
  else if c = '\x1b' then ['\\', 'e']
  else if c = '"' then ['\\', '"']
  else if c = '\\' then ['\\', '\\']
  else if c = '\u0085' then ['\\', 'N']
  else if c = '\u2028' then ['\\', 'L']
  else if c = '\u2029' then ['\\', 'P']
  else if isWritable c then [c]
  else if n ≤ 0xff then '\\' :: 'x' :: Text.toUpperHex 2 n
  else if n ≤ 0xffff then '\\' :: 'u' :: Text.toUpperHex 4 n
  else '\\' :: 'U' :: Text.toUpperHex 8 n

/-- Body of a text between single quotes. Quotes are doubled, and the lines
after the first are indented. `broke` tells whether a line has just ended. -/
def singleBody (indent : Nat) (broke : Bool) : List Char → List Char
  | [] => if broke then List.replicate indent ' ' else []
  | c :: rest =>
    if isBreak c then c :: singleBody indent true rest
    else
      (if broke then List.replicate indent ' ' else [])
        ++ (if c = '\'' then ['\'', '\''] else [c]) ++ singleBody indent false rest

/-- Body of a literal block. Lines that hold text are indented. -/
def literalBody (indent : Nat) (broke : Bool) : List Char → List Char
  | [] => []
  | c :: rest =>
    if isBreak c then c :: literalBody indent true rest
    else (if broke then List.replicate indent ' ' else []) ++ c :: literalBody indent false rest

/-- Marks on the first line of a literal block: its indentation if its first
line does not show it, and what becomes of the breaks at its end. -/
def literalMarks (text : List Char) : List Char :=
  let indent := if text.head?.any fun c => c = ' ' || isBreak c then ['2'] else []
  let chomping := match text.reverse with
    | [] => ['-']
    | c :: before =>
      if !isBreak c then ['-'] else if before.head?.all isBreak then ['+'] else []
  indent ++ chomping

/-- A text as the value of a key. Further lines are indented as given. The end
of the line is included. -/
def writtenChars (indent : Nat) (text : List Char) : List Char :=
  match styleOf text with
  | .plain => text ++ ['\n']
  | .single => ['\''] ++ singleBody indent false text ++ ['\'', '\n']
  | .literal =>
    let body := literalBody indent true text
    ['|'] ++ literalMarks text ++ ['\n'] ++ body
      ++ if body.getLast?.any isBreak then [] else ['\n']
  | _ => ['"'] ++ text.flatMap escapeOf ++ ['"', '\n']

/-- A text as the value of a key, with the end of its line. -/
def written (indent : Nat) (text : String) : String :=
  String.ofList (writtenChars indent text.toList)

end ForeignMatrix.Yaml
