import ForeignMatrix.Document.Toml.Number
import ForeignMatrix.Document.Toml.Text

/-!
# Values of TOML documents

Values, tables and the rules under which dotted keys build tables. A table
that dotted keys made may be extended by further dotted keys; a table that was
written in braces may not be extended at all.
-/

namespace ForeignMatrix.Toml

/-- How a table came to be. -/
inductive TableKind where
  /-- By a header of its own, or as the whole document. -/
  | defined
  /-- By a header that names a table within it. -/
  | implied
  /-- By a dotted key. -/
  | dotted
  /-- In braces. -/
  | inline
  deriving DecidableEq, Repr

/-- A value of a document. -/
inductive Value where
  /-- A string. -/
  | text (content : String)
  /-- The word `true` or `false`. -/
  | flag (value : Bool)
  /-- A number. -/
  | number
  /-- A date, a time of day, or both. -/
  | moment
  /-- An array in brackets. -/
  | list (items : List Value)
  /-- A table with its keys in order. -/
  | table (kind : TableKind) (entries : List (String × Value))
  /-- An array of tables, each opened by a header. -/
  | tables (elements : List (List (String × Value)))

/-- A table under construction. -/
structure Table where
  /-- How the table came to be. -/
  kind : TableKind
  /-- Keys with their values, in order. -/
  entries : List (String × Value) := []

namespace Table

/-- Replaces the value of a key in its place, or adds the key at the end. -/
def set (table : Table) (key : String) (value : Value) : Table :=
  if (table.entries.lookup key).isSome then
    { table with
      entries := table.entries.map fun entry => if entry.1 == key then (key, value) else entry }
  else { table with entries := table.entries ++ [(key, value)] }

/-- Removes a key. -/
def erase (table : Table) (key : String) : Table :=
  { table with entries := table.entries.filter (·.1 != key) }

/-- Changes the table that a path of keys leads to, and answers what the change
finds. Tables that are missing on the way are made, of the kind `made`; tables
on the way must be of a kind that `passes`. An array of tables stands for its
last element. -/
def alter {α : Type} (made : TableKind) (passes : TableKind → Bool)
    (change : Table → Option (α × Table)) : List String → Table → Option (α × Table)
  | [], table => change table
  | key :: path, table =>
    match table.entries.lookup key with
    | none => do
      let (found, child) ← alter made passes change path { kind := made }
      pure (found, table.set key (.table child.kind child.entries))
    | some (.table kind entries) =>
      if passes kind then do
        let (found, child) ← alter made passes change path ⟨kind, entries⟩
        pure (found, table.set key (.table child.kind child.entries))
      else none
    | some (.tables elements) => do
      let (found, child) ←
        alter made passes change path ⟨.defined, elements.getLast?.getD []⟩
      pure (found, table.set key (.tables (elements.dropLast ++ [child.entries])))
    | some _ => none

/-- Adds a key that is not there yet. -/
def add (key : String) (value : Value) (table : Table) : Option (Unit × Table) :=
  if (table.entries.lookup key).isSome then none else some ((), table.set key value)

/-- Enters a value under a dotted key. The table that takes it must have been
made by dotted keys itself, unless the key has but one part. -/
def enter (path : List String) (value : Value) (table : Table) : Option Table := do
  let key ← path.getLast?
  let place := path.dropLast
  let ((), table) ← table.alter .dotted (fun kind => kind = .dotted || kind = .implied)
    (fun inner =>
      if place.isEmpty || inner.kind = .dotted then inner.add key value else none) place
  pure table

end Table

/-- Greatest depth of nested values, and of parts of a dotted key. -/
def depthLimit : Nat := 79

/-- Whether a character may stand in a key without quotes. -/
def isBareKey (c : Char) : Bool := c.isAlphanum || c = '-' || c = '_'

/-- Reads one part of a key. -/
def readKeyPart (input : List Char) : Option (List Char × List Char) :=
  match input with
  | '"' :: rest => readBasic false .plain rest
  | '\'' :: rest => readLiteral false rest
  | _ =>
    match input.takeWhile isBareKey with
    | [] => none
    | key => some (key, input.dropWhile isBareKey)

/-- Reads a key of at most the given number of parts, with the blanks around
each. -/
def readKey : Nat → List Char → Option (List String × List Char)
  | 0, _ => none
  | parts + 1, input => do
    let (key, rest) ← readKeyPart (skipBlanks input)
    match skipBlanks rest with
    | '.' :: rest =>
      let (path, rest) ← readKey parts rest
      pure (String.ofList key :: path, rest)
    | rest => pure ([String.ofList key], rest)

/-- What follows a comment at the front, up to the end of its line. -/
def skipComment : List Char → List Char
  | '#' :: rest => rest.dropWhile isPlain
  | rest => rest

/-- What follows blanks, comments and line breaks. A comment must end with its
line. The first argument bounds the number of lines. -/
def skipLines : Nat → List Char → List Char
  | 0, input => input
  | lines + 1, input =>
    match skipComment (skipBlanks input) with
    | '\n' :: rest => skipLines lines rest
    | _ => skipBlanks input

/-- What follows blanks, comments and line breaks. -/
def skipSpace (input : List Char) : List Char := skipLines (input.length + 1) input

/-- Reads the items of an array, after its opening bracket. A comma may follow
the last one. The first argument bounds the number of items. -/
def readItems (readValue : List Char → Option (Value × List Char)) :
    Nat → List Char → Option (List Value × List Char)
  | 0, _ => none
  | items + 1, input =>
    match skipSpace input with
    | ']' :: rest => some ([], rest)
    | input => do
      let (item, rest) ← readValue input
      match skipSpace rest with
      | ',' :: rest =>
        let (others, rest) ← readItems readValue items rest
        pure (item :: others, rest)
      | ']' :: rest => pure ([item], rest)
      | _ => none

/-- Reads a key with its value. -/
def readEntry (readValue : List Char → Option (Value × List Char)) (input : List Char) :
    Option (List String × Value × List Char) := do
  let (path, rest) ← readKey depthLimit input
  let (value, rest) ← readValue (skipBlanks (← expect '=' rest))
  pure (path, value, skipBlanks rest)

/-- Reads the entries of a table in braces that is not empty, into a table. The
first argument bounds their number. -/
def readEntries (readValue : List Char → Option (Value × List Char)) :
    Nat → Table → List Char → Option (Table × List Char)
  | 0, _, _ => none
  | entries + 1, table, input => do
    let (path, value, rest) ← readEntry readValue input
    let table ← table.enter path value
    match rest with
    | ',' :: rest => readEntries readValue entries table rest
    | '\x7d' :: rest => pure (table, rest)
    | _ => none

/-- Reads a value that is neither an array nor a table. -/
def readScalar (input : List Char) : Option (Value × List Char) :=
  match input with
  | 't' :: 'r' :: 'u' :: 'e' :: rest => some (.flag true, rest)
  | 'f' :: 'a' :: 'l' :: 's' :: 'e' :: rest => some (.flag false, rest)
  | c :: _ =>
    if c = '"' ∨ c = '\'' then
      (readString input).map fun (text, rest) => (.text (String.ofList text), rest)
    else
      match readMoment input with
      | some rest => some (.moment, rest)
      | none => (readNumber input).map fun rest => (.number, rest)
  | [] => none

/-- Reads a value. Arrays and tables in braces nest at most as deep as the
first argument says. -/
def readValue : Nat → List Char → Option (Value × List Char)
  | 0, '[' :: _ => none
  | 0, '\x7b' :: _ => none
  | depth + 1, '[' :: rest => do
    let (items, rest) ← readItems (readValue depth) (rest.length + 1) rest
    pure (.list items, rest)
  | depth + 1, '\x7b' :: rest =>
    match skipBlanks rest with
    | '\x7d' :: rest => some (.table .inline [], rest)
    | rest => do
      let (table, rest) ← readEntries (readValue depth) (rest.length + 1) { kind := .inline } rest
      pure (.table .inline table.entries, rest)
  | _, input => readScalar input

end ForeignMatrix.Toml
