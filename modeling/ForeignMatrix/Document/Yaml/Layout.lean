import ForeignMatrix.Document.Yaml.Token

/-!
# Layout of YAML documents

Cutting a document into tokens. Indentation opens and closes sequences and
mappings, and a colon makes a key of the node before it, so the tokens before
that node are entered when the colon is met. A key without a question mark
must be on one line with its colon and no more than 1024 characters before it.
-/

namespace ForeignMatrix.Yaml

/-- A place in a document. -/
structure Place where
  /-- Number of characters before it. -/
  index : Nat := 0
  /-- Number of lines before it. -/
  line : Nat := 0
  /-- Number of characters before it on its line. -/
  column : Nat := 0
  deriving DecidableEq, Repr

/-- The place after a character. -/
def Place.after (place : Place) (c : Char) : Place :=
  if isBreak c then ⟨place.index + 1, place.line + 1, 0⟩
  else { place with index := place.index + 1, column := place.column + 1 }

/-- A node that a colon may yet make a key. -/
structure PossibleKey where
  /-- Number of tokens before the node. -/
  position : Nat
  /-- Place of the node. -/
  place : Place
  /-- Whether the node can be nothing but a key. -/
  required : Bool
  deriving DecidableEq, Repr

/-- A document that has been cut into tokens up to some place. -/
structure Layout where
  /-- Characters from there on. -/
  rest : List Char
  /-- The place. -/
  place : Place := {}
  /-- Tokens before the place. -/
  tokens : List Token := []
  /-- Columns of the open indented collections, the innermost first. -/
  indents : List Nat := []
  /-- Whether a key may start at the place. -/
  allowsKey : Bool := true
  /-- Node that may be a key of the innermost collection. -/
  key : Option PossibleKey := none
  /-- Nodes that may be keys of the collections around each open bracket or
  brace, the innermost first. -/
  outerKeys : List (Option PossibleKey) := []

namespace Layout

/-- Whether a bracket or brace is open. -/
def inFlow (layout : Layout) : Bool := !layout.outerKeys.isEmpty

/-- Column of the innermost indented collection; -1 outside of any. -/
def indent (layout : Layout) : Int :=
  match layout.indents with
  | [] => -1
  | column :: _ => column

/-- Moves on to a later place, whose characters are given. -/
def moveTo (layout : Layout) (rest : List Char) : Layout :=
  let passed := layout.rest.take (layout.rest.length - rest.length)
  { layout with rest, place := passed.foldl Place.after layout.place }

/-- Adds a token. -/
def emit (layout : Layout) (token : Token) : Layout :=
  { layout with tokens := layout.tokens ++ [token] }

/-- Enters a token before others. -/
def insert (layout : Layout) (position : Nat) (token : Token) : Layout :=
  { layout with tokens := layout.tokens.insertIdx position token }

/-- Closes the indented collections to the right of a column. -/
def closeTo (layout : Layout) (column : Int) : Layout :=
  if layout.inFlow then layout
  else
    let closed := layout.indents.takeWhile fun indent => decide (column < Int.ofNat indent)
    { layout with
      tokens := layout.tokens ++ closed.map fun _ => Token.blockEnd
      indents := layout.indents.drop closed.length }

/-- Opens an indented collection at a column, unless one is open there or to
the right of it. Its token goes to the given position. -/
def openAt (layout : Layout) (column position : Nat) (token : Token) : Layout :=
  if layout.inFlow || (column : Int) ≤ layout.indent then layout
  else { layout.insert position token with indents := column :: layout.indents }

/-- Opens an indented collection at the current place. -/
def openHere (layout : Layout) (token : Token) : Layout :=
  layout.openAt layout.place.column layout.tokens.length token

/-- Gives up the node that may be a key, unless it has to be one. -/
def dropKey (layout : Layout) : Option Layout :=
  if layout.key.any (·.required) then none else some { layout with key := none }

/-- Notes that the next node may be a key, where keys are allowed. -/
def noteKey (layout : Layout) : Option Layout :=
  if !layout.allowsKey then some layout
  else do
    let required := !layout.inFlow && layout.indent = layout.place.column
    pure { ← layout.dropKey with key := some ⟨layout.tokens.length, layout.place, required⟩ }

/-- Whether a node is too far before the current place to be a key. -/
def isStale (layout : Layout) (key : PossibleKey) : Bool :=
  key.place.line < layout.place.line || key.place.index + 1024 < layout.place.index

/-- The node that a colon at the current place makes a key, if there is one. -/
def keyHere (layout : Layout) : Option (Option PossibleKey) :=
  match layout.key with
  | none => some none
  | some key =>
    if !layout.isStale key then some (some key) else if key.required then none else some none

/-- Drops the given number of characters. -/
def skip (layout : Layout) (count : Nat) : Layout := layout.moveTo (layout.rest.drop count)

/-- What a reader passes over between tokens. -/
inductive Gap where
  /-- Nothing on this line yet. -/
  | lineStart
  /-- Blanks. -/
  | blank
  /-- A comment. -/
  | comment
  deriving DecidableEq, Repr

/-- Passes over blanks, comments and line breaks. Answers whether a key is
allowed afterwards: outside of brackets and braces a line break allows one. A
tab is no blank where a key is allowed there. A byte order mark may start a
line, and takes up a column of it. -/
def skipGap (flow : Bool) (allowsKey : Bool) (gap : Gap) : List Char → Bool × List Char
  | [] => (allowsKey, [])
  | c :: rest =>
    if isBreak c then skipGap flow (allowsKey || !flow) .lineStart rest
    else if gap = .comment then skipGap flow allowsKey .comment rest
    else if c = ' ' || (c = '\t' && (flow || !allowsKey))
        || (c = '\ufeff' && gap = .lineStart) then
      skipGap flow allowsKey .blank rest
    else if c = '#' then skipGap flow allowsKey .comment rest
    else (allowsKey, c :: rest)

/-- Moves to the next token and closes the collections that end before it. -/
def advance (layout : Layout) : Layout :=
  let gap := if layout.place.column = 0 then Gap.lineStart else .blank
  let (allowsKey, rest) := skipGap layout.inFlow layout.allowsKey gap layout.rest
  let layout := { layout.moveTo rest with allowsKey }
  layout.closeTo layout.place.column

/-- Takes in a token that was read, with what follows it. -/
def take (layout : Layout) (read : Token × List Char) : Layout :=
  (layout.moveTo read.2).emit read.1

/-- Takes in a directive or a mark of a document, at which all indentation ends. -/
def takeTopLevel (layout : Layout) (read : Token × List Char) : Option Layout := do
  let layout ← (layout.closeTo (-1)).dropKey
  pure ({ layout with allowsKey := false }.take read)

/-- Opens a bracket or brace. -/
def takeOpening (layout : Layout) (token : Token) : Option Layout := do
  let layout ← layout.noteKey
  let layout := { layout with key := none, outerKeys := layout.key :: layout.outerKeys }
  pure (({ layout with allowsKey := true }.skip 1).emit token)

/-- Closes a bracket or brace. -/
def takeClosing (layout : Layout) (token : Token) : Option Layout := do
  let layout ← layout.dropKey
  let layout := match layout.outerKeys with
    | [] => layout
    | key :: outerKeys => { layout with key, outerKeys }
  pure (({ layout with allowsKey := false }.skip 1).emit token)

/-- Takes in a comma. -/
def takeComma (layout : Layout) : Option Layout := do
  let layout ← layout.dropKey
  pure (({ layout with allowsKey := true }.skip 1).emit .comma)

/-- Takes in the mark of an item of an indented sequence. -/
def takeEntry (layout : Layout) : Option Layout := do
  if !layout.inFlow && !layout.allowsKey then none
  let layout ← (layout.openHere .sequenceStart).dropKey
  pure (({ layout with allowsKey := true }.skip 1).emit .entry)

/-- Takes in the mark of a key. -/
def takeKey (layout : Layout) : Option Layout := do
  if !layout.inFlow && !layout.allowsKey then none
  let layout ← (layout.openHere .mappingStart).dropKey
  pure (({ layout with allowsKey := !layout.inFlow }.skip 1).emit .key)

/-- Takes in the mark of a value. It makes a key of the node before it if it
can, and else comes after a key that was marked or is missing. -/
def takeValue (layout : Layout) : Option Layout := do
  match ← layout.keyHere with
  | some key =>
    let layout := (layout.insert key.position .key).openAt key.place.column key.position
      .mappingStart
    pure (({ layout with key := none, allowsKey := false }.skip 1).emit .value)
  | none =>
    if !layout.inFlow && !layout.allowsKey then none
    let layout := layout.openHere .mappingStart
    pure (({ layout with key := none, allowsKey := !layout.inFlow }.skip 1).emit .value)

/-- Takes in a token that may be part of a key. -/
def takeNode (layout : Layout) (read : Option (Token × List Char)) : Option Layout := do
  let layout ← layout.noteKey
  pure ({ layout with allowsKey := false }.take (← read))

/-- A text as a token. -/
def scalarOf (style : ScalarStyle) (read : List Char × List Char) : Token × List Char :=
  (.scalar style (String.ofList read.1), read.2)

/-- Takes in a block, which is never a key. -/
def takeBlock (layout : Layout) (literal : Bool) : Option Layout := do
  let style := if literal then ScalarStyle.literal else .folded
  let read ← readBlock literal layout.indent (layout.rest.drop 1)
  let layout ← layout.dropKey
  pure ({ layout with allowsKey := true }.take (scalarOf style read))

/-- Takes in a plain text. After a line break a key is allowed again. -/
def takePlain (layout : Layout) : Option Layout := do
  let plain ← readPlain layout.inFlow (layout.indent + 1) [] layout.place.column layout.rest
  let layout ← layout.takeNode (some (scalarOf .plain (plain.text, plain.rest)))
  pure { layout with allowsKey := plain.brokeLine }

/-- Characters that may not start a plain text. -/
def indicators : List Char := "-?:,[]\x7b\x7d#&*!|>'\"%@`".toList

/-- Whether a plain text may start with a character before the given rest. A
dash, a question mark or a colon may, unless it would mean something else. -/
def startsPlain (flow : Bool) (c : Char) (rest : List Char) : Bool :=
  (!isSpace c && !indicators.contains c) || (c = '-' && !rest.head?.any isBlank)
    || (!flow && (c = '?' || c = ':') && !endsWord rest)

/-- Takes in the next token, which starts with the given character. -/
def takeToken (layout : Layout) (c : Char) (rest : List Char) : Option Layout :=
  let atStart := layout.place.column = 0
  let marks := layout.inFlow || endsWord rest
  if atStart && c = '%' then do layout.takeTopLevel (← readDirective rest)
  else if atStart && startsDocument (c :: rest) then
    layout.takeTopLevel (.documentStart, rest.drop 2)
  else if atStart && endsDocument (c :: rest) then
    layout.takeTopLevel (.documentEnd, rest.drop 2)
  else if c = '[' then layout.takeOpening .bracketOpen
  else if c = '\x7b' then layout.takeOpening .braceOpen
  else if c = ']' then layout.takeClosing .bracketClose
  else if c = '\x7d' then layout.takeClosing .braceClose
  else if c = ',' then layout.takeComma
  else if c = '-' && endsWord rest then layout.takeEntry
  else if c = '?' && marks then layout.takeKey
  else if c = ':' && marks then layout.takeValue
  else if c = '*' then
    layout.takeNode ((readAnchor rest).map fun (name, rest) => (.alias name, rest))
  else if c = '&' then
    layout.takeNode ((readAnchor rest).map fun (name, rest) => (.anchor name, rest))
  else if c = '!' then layout.takeNode (readTag layout.inFlow (c :: rest))
  else if (c = '|' || c = '>') && !layout.inFlow then layout.takeBlock (c = '|')
  else if c = '\'' then layout.takeNode ((readSingle [] rest).map (scalarOf .single))
  else if c = '"' then
    layout.takeNode ((readDouble (.run false []) rest).map (scalarOf .double))
  else if startsPlain layout.inFlow c rest then layout.takePlain
  else none

/-- All tokens of a document. The first argument bounds their number. -/
def finish : Nat → Layout → Option (List Token)
  | 0, _ => none
  | steps + 1, layout =>
    let layout := layout.advance
    match layout.rest with
    | [] => do
      let layout ← (layout.closeTo (-1)).dropKey
      pure layout.tokens
    | c :: rest => do finish steps (← layout.takeToken c rest)

end Layout

/-- Tokens of a document. -/
def tokens? (document : String) : Option (List Token) :=
  let input := document.toList
  if input.all isAllowed then
    let input := joinBreaks input
    Layout.finish (input.length + 1) { rest := input }
  else none

end ForeignMatrix.Yaml
