import ForeignMatrix.Document.Yaml.Layout

/-!
# Nodes of YAML documents

Composing tokens into the node of a document. An anchor is known by a number,
the count of the other names that were anchored before it, and an alias stands
for the node that began last under the number of its name: it may stand within
that very node, and nodes that come later may take its number over. A text holds
at most one document.
-/

namespace ForeignMatrix.Yaml

/-- A node. -/
inductive Node where
  /-- A text with its tag. -/
  | scalar (tag : Option Tag) (style : ScalarStyle) (text : String)
  /-- A sequence. -/
  | sequence (items : List Node)
  /-- A mapping with its keys in order, repeated ones included. -/
  | mapping (entries : List (Node × Node))
  /-- The node of an anchor, by its number. -/
  | alias (anchor : Nat)

/-- A text where a node is missing. -/
def Node.empty : Node := .scalar none .plain ""

/-- What is known while nodes are composed. -/
structure Draft where
  /-- Tokens that are left. -/
  tokens : List Token
  /-- Meaning of each handle of tags. -/
  handles : List (String × Tag) := []
  /-- Number of each anchored name. -/
  anchors : List (String × Nat) := []
  /-- Numbers of the anchored nodes, the last to begin first. -/
  begun : List Nat := []
  /-- Anchored nodes that are complete, by the count of those begun before. -/
  complete : List (Nat × Node) := []

/-- The node that began last under each number. -/
def Draft.nodes (draft : Draft) : List (Nat × Node) :=
  let places := (List.range draft.begun.length).reverse
  (draft.begun.zip places).filterMap fun (number, place) =>
    (draft.complete.lookup place).map (number, ·)

/-- A step of composing, which may find that the tokens make no node. -/
abbrev Compose := StateT Draft Option

namespace Compose

/-- The next token. -/
def peek : Compose (Option Token) := return (← get).tokens.head?

/-- Passes over the next token. -/
def skip : Compose Unit := modify fun draft => { draft with tokens := draft.tokens.drop 1 }

/-- Passes over the next token if it is the given one, and tells whether it was. -/
def accept (token : Token) : Compose Bool := do
  if (← peek) = some token then
    skip
    pure true
  else pure false

/-- Passes over the next token, which must be the given one. -/
def expect (token : Token) : Compose Unit := do
  if !(← accept token) then failure

/-- Whether the next token is one of those given. -/
def isAt (tokens : List Token) : Compose Bool := return (← peek).any tokens.contains

/-- Name of an anchor, if the next token is one. -/
def readAnchor : Compose (Option String) := do
  match ← peek with
  | some (.anchor name) =>
    skip
    pure (some name)
  | _ => pure none

/-- Tag that a handle and a suffix spell. -/
def tagOf (handle : String) (suffix : Tag) : Compose Tag := do
  if handle.isEmpty then pure suffix
  else
    match (← get).handles.lookup handle with
    | some meaning => pure (meaning ++ suffix)
    | none => failure

/-- A tag, if the next token is one. -/
def readTag : Compose (Option Tag) := do
  match ← peek with
  | some (.tag handle suffix) =>
    skip
    some <$> tagOf handle suffix
  | _ => pure none

/-- Anchor and tag of a node, in either order. -/
def readProperties : Compose (Option String × Option Tag) := do
  match ← readAnchor with
  | some anchor => return (some anchor, ← readTag)
  | none =>
    let tag ← readTag
    if tag.isNone then pure (none, none) else return (← readAnchor, tag)

/-- Numbers an anchor whose node begins. Answers the count of those begun before. -/
def beginAnchor (name : String) : Compose Nat :=
  modifyGet fun draft =>
    let number := draft.anchors.length
    let others := draft.anchors.filter (·.1 != name)
    (draft.begun.length,
      { draft with anchors := (name, number) :: others, begun := number :: draft.begun })

/-- Notes an anchored node that is complete. -/
def endAnchor (place : Nat) (node : Node) : Compose Unit :=
  modify fun draft => { draft with complete := (place, node) :: draft.complete }

/-- Number of an anchored name. -/
def anchorNumber (name : String) : Compose Nat := do
  match (← get).anchors.lookup name with
  | some number => pure number
  | none => failure

mutual

/-- Composes a node. Indented collections are possible where `block` says so,
and a sequence that is not indented where `flat` does. The first argument
bounds the number of steps. -/
def node (block flat : Bool) : Nat → Compose Node
  | 0 => failure
  | steps + 1 => do
    match ← peek with
    | some (.alias name) =>
      skip
      return .alias (← anchorNumber name)
    | _ =>
      let (anchor, tag) ← readProperties
      match anchor with
      | none => content block flat tag tag.isSome steps
      | some name =>
        let place ← beginAnchor name
        let node ← content block flat tag true steps
        endAnchor place node
        pure node

/-- Composes a node after its anchor and tag. A text may be missing where
there was one of these; one that is there has no use for the plain tag. -/
def content (block flat : Bool) (tag : Option Tag) (mayMiss : Bool) : Nat → Compose Node
  | 0 => failure
  | steps + 1 => do
    match ← peek with
    | some (.scalar style text) =>
      skip
      pure (.scalar (tag.filter (· ≠ plainTag)) style text)
    | some .bracketOpen =>
      skip
      return .sequence (← bracketItems true steps)
    | some .braceOpen =>
      skip
      return .mapping (← braceEntries true steps)
    | token =>
      if flat && token = some .entry then return .sequence (← flatItems steps)
      else if block && token = some .sequenceStart then
        skip
        return .sequence (← items steps)
      else if block && token = some .mappingStart then
        skip
        return .mapping (← entries steps)
      else if mayMiss then pure (.scalar tag .plain "")
      else failure

/-- Composes a node of an indented collection, which is missing before the
given tokens. -/
def nodeUnless (flat : Bool) (tokens : List Token) : Nat → Compose Node
  | 0 => failure
  | steps + 1 => do
    if ← isAt tokens then pure .empty else node true flat steps

/-- Composes the items of an indented sequence. -/
def items : Nat → Compose (List Node)
  | 0 => failure
  | steps + 1 => do
    if ← accept .blockEnd then pure []
    else
      expect .entry
      let item ← nodeUnless false [.entry, .blockEnd] steps
      return item :: (← items steps)

/-- Composes the items of a sequence that is not indented. -/
def flatItems : Nat → Compose (List Node)
  | 0 => failure
  | steps + 1 => do
    if ← accept .entry then
      let item ← nodeUnless false [.entry, .key, .value, .blockEnd] steps
      return item :: (← flatItems steps)
    else pure []

/-- Composes the entries of an indented mapping. -/
def entries : Nat → Compose (List (Node × Node))
  | 0 => failure
  | steps + 1 => do
    if ← accept .blockEnd then pure []
    else
      expect .key
      let key ← nodeUnless true [.key, .value, .blockEnd] steps
      let value ← if ← accept .value then nodeUnless true [.key, .value, .blockEnd] steps
        else pure .empty
      return (key, value) :: (← entries steps)

/-- Composes a node in brackets or braces, which is missing before the given
tokens. -/
def flowNodeUnless (tokens : List Token) : Nat → Compose Node
  | 0 => failure
  | steps + 1 => do
    if ← isAt tokens then pure .empty else node false false steps

/-- Composes the value of a key in brackets or braces, which is missing without
its mark or before the given tokens. -/
def flowValueUnless (tokens : List Token) : Nat → Compose Node
  | 0 => failure
  | steps + 1 => do
    if ← accept .value then flowNodeUnless tokens steps else pure .empty

/-- Composes the items of a sequence in brackets. A key makes an item a mapping
of one entry. -/
def bracketItems (first : Bool) : Nat → Compose (List Node)
  | 0 => failure
  | steps + 1 => do
    if ← accept .bracketClose then pure []
    else
      if !first then expect .comma
      if ← accept .bracketClose then pure []
      else
        let item ←
          if ← accept .key then
            let key ←
              if ← isAt [.value, .comma, .bracketClose] then
                skip
                pure Node.empty
              else node false false steps
            let value ← flowValueUnless [.comma, .bracketClose] steps
            pure (Node.mapping [(key, value)])
          else node false false steps
        return item :: (← bracketItems false steps)

/-- Composes the entries of a mapping in braces. A node without a mark is a key
without a value. -/
def braceEntries (first : Bool) : Nat → Compose (List (Node × Node))
  | 0 => failure
  | steps + 1 => do
    if ← accept .braceClose then pure []
    else
      if !first then expect .comma
      if ← accept .braceClose then pure []
      else
        let entry ←
          if ← accept .key then
            let key ← flowNodeUnless [.value, .comma, .braceClose] steps
            let value ← flowValueUnless [.comma, .braceClose] steps
            pure (key, value)
          else
            let key ← node false false steps
            pure (key, Node.empty)
        return entry :: (← braceEntries false steps)

end

/-- What the handles of tags mean without any directive. -/
def usualHandles : List (String × Tag) :=
  [("!", plainTag), ("!!", "tag:yaml.org,2002:".toUTF8.toList)]

/-- Takes in the directives before a document, and tells whether there were any.
There may be one version, of the language that is read here, and each handle
may be given one meaning. -/
def directives (versions : Nat) : Nat → Compose Bool
  | 0 => failure
  | steps + 1 => do
    match ← peek with
    | some (.version major minor) =>
      if versions ≠ 0 || major ≠ 1 || (minor ≠ 1 && minor ≠ 2) then failure
      skip
      let _ ← directives (versions + 1) steps
      pure true
    | some (.tagHandle handle meaning) =>
      if ((← get).handles.lookup handle).isSome then failure
      skip
      modify fun draft => { draft with handles := (handle, meaning) :: draft.handles }
      let _ ← directives versions steps
      pure true
    | _ => pure false

/-- Passes over marks of the end of a document. -/
def documentEnds : Compose Unit :=
  modify fun draft => { draft with tokens := draft.tokens.dropWhile (· == .documentEnd) }

/-- Tokens before which the node of a document is missing. -/
def isBeyondDocument : Option Token → Bool
  | none => true
  | some (.version ..) => true
  | some (.tagHandle ..) => true
  | some .documentStart => true
  | some .documentEnd => true
  | _ => false

/-- Composes the node of the only document, if there is a document. -/
def document (steps : Nat) : Compose (Option Node) := do
  if (← peek).isNone then pure none
  else
    let directed ← directives 0 steps
    modify fun draft => { draft with handles := draft.handles ++ usualHandles }
    let marked ← accept .documentStart
    if directed && !marked then failure
    let root ← if marked && isBeyondDocument (← peek) then pure Node.empty
      else node true false steps
    documentEnds
    if (← peek).isSome then failure
    pure (some root)

end Compose

/-- A document with the nodes of its anchors. -/
structure Document where
  /-- The node; none if there is no document. -/
  root : Option Node
  /-- Anchored nodes by number. -/
  nodes : List (Nat × Node)

/-- The document that a text spells. -/
def parse? (text : String) : Option Document := do
  let tokens ← tokens? text
  let (root, draft) ← Compose.document (4 * tokens.length + 8) { tokens }
  pure ⟨root, draft.nodes⟩

end ForeignMatrix.Yaml
