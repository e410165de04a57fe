import ForeignMatrix.Document.Toml.Value

/-!
# TOML documents

A document is read line by line. A header opens a section, and the keys that
follow make up its table. A table has at most one header of its own: a header
may only open a table that is new, or that other headers implied.
-/

namespace ForeignMatrix.Toml

/-- What has been read of a document. -/
structure Draft where
  /-- All closed sections. -/
  root : Table := { kind := .defined }
  /-- Path of the open section; empty before the first header. -/
  path : List String := []
  /-- Whether the open section is an element of an array of tables. -/
  isElement : Bool := false
  /-- Entries of the open section. -/
  entries : List (String × Value) := []

namespace Draft

/-- Changes the table above the place that a header names, and answers what
the change finds. -/
def alterAbove {α : Type} (path : List String)
    (change : (key : String) → Table → Option (α × Table)) (root : Table) :
    Option (α × Table) := do
  let key ← path.getLast?
  root.alter .implied (· ≠ .inline) (change key) path.dropLast

/-- Puts the entries of the open section under a key. -/
def place (draft : Draft) (key : String) (above : Table) : Option (Unit × Table) :=
  if draft.isElement then
    match above.entries.lookup key with
    | some (.tables elements) => some ((), above.set key (.tables (elements ++ [draft.entries])))
    | _ => none
  else some ((), above.set key (.table .defined draft.entries))

/-- Puts the open section into its place. -/
def close (draft : Draft) : Option Table :=
  if draft.path.isEmpty then some ⟨.defined, draft.entries⟩
  else (alterAbove draft.path draft.place draft.root).map (·.2)

/-- Takes the entries from under a key, if a header may open a table there. -/
def take (key : String) (above : Table) : Option (List (String × Value) × Table) :=
  match above.entries.lookup key with
  | none => some ([], above)
  | some (.table .implied entries) => some (entries, above.erase key)
  | some _ => none

/-- Closes the open section and opens a table. -/
def openTable (path : List String) (draft : Draft) : Option Draft := do
  let (entries, root) ← alterAbove path take (← draft.close)
  pure { root, path, entries }

/-- Makes sure that an array of tables is under a key. -/
def ensureTables (key : String) (above : Table) : Option (Unit × Table) :=
  match above.entries.lookup key with
  | none => some ((), above.set key (.tables []))
  | some (.tables _) => some ((), above)
  | some _ => none

/-- Closes the open section and opens a new element of an array of tables. -/
def openElement (path : List String) (draft : Draft) : Option Draft := do
  let ((), root) ← alterAbove path ensureTables (← draft.close)
  pure { root, path, isElement := true }

/-- Enters a value into the open section. -/
def enter (path : List String) (value : Value) (draft : Draft) : Option Draft := do
  let table ← Table.enter path value ⟨.defined, draft.entries⟩
  pure { draft with entries := table.entries }

end Draft

/-- What follows the end of a line: blanks, a comment and a line break. The
last line may go without a break. -/
def endLine (input : List Char) : Option (List Char) :=
  match skipComment (skipBlanks input) with
  | [] => some []
  | '\n' :: rest => some rest
  | _ => none

/-- Reads one line that is neither empty nor a comment alone, into a draft. -/
def readLine (draft : Draft) (input : List Char) : Option (Draft × List Char) :=
  match input with
  | '[' :: '[' :: rest => do
    let (path, rest) ← readKey depthLimit rest
    let rest ← expect ']' (← expect ']' rest)
    pure (← draft.openElement path, rest)
  | '[' :: rest => do
    let (path, rest) ← readKey depthLimit rest
    pure (← draft.openTable path, ← expect ']' rest)
  | _ => do
    let (path, value, rest) ← readEntry (readValue depthLimit) input
    pure (← draft.enter path value, rest)

/-- Reads lines into a draft. The first argument bounds their number. -/
def readLines : Nat → Draft → List Char → Option Draft
  | 0, _, _ => none
  | lines + 1, draft, input =>
    match skipSpace input with
    | [] => some draft
    | '#' :: comment => do
      let rest ← endLine ('#' :: comment)
      readLines lines draft rest
    | input => do
      let (draft, rest) ← readLine draft input
      readLines lines draft (← endLine rest)

/-- The characters with single line feeds for pairs of return and feed. -/
def joinBreaks : List Char → List Char
  | '\r' :: '\n' :: rest => '\n' :: joinBreaks rest
  | c :: rest => c :: joinBreaks rest
  | [] => []

/-- The table that a document spells. A byte order mark may begin it. -/
def parse? (document : String) : Option Value := do
  let input := match document.toList with
    | '\ufeff' :: rest => rest
    | rest => rest
  let input := joinBreaks input
  let draft ← readLines (input.length + 1) {} input
  let root ← draft.close
  pure (.table .defined root.entries)

end ForeignMatrix.Toml
