import ForeignMatrix.Document.Yaml.Node
import ForeignMatrix.Proofs.Document.Yaml.Sections
import Mathlib

/-!
# Mappings of mappings are composed from their tokens

Composing passes over the tokens of a node and leaves those behind it. What a
scalar needs is one lemma, and an entry of a mapping takes any key and any value
that are composed, so that mappings nest by the same induction over entries.
-/

namespace ForeignMatrix.Yaml

namespace Compose

variable {α β : Type}

/-- Composing passes over the tokens and answers the result, whatever follows. -/
def Takes (compose : Compose α) (tokens : List Token) (result : α) : Prop :=
  ∀ (draft : Draft) (rest : List Token),
    compose.run { draft with tokens := tokens ++ rest } =
      some (result, { draft with tokens := rest })

theorem Takes.pure (result : α) : Takes (Pure.pure result) [] result := fun _ _ => rfl

/-- One after the other, tokens are passed over one after the other. -/
theorem Takes.bind {compose : Compose α} {next : α → Compose β} {tokens more : List Token}
    {middle : α} {result : β} (hfirst : Takes compose tokens middle)
    (hnext : Takes (next middle) more result) :
    Takes (compose >>= next) (tokens ++ more) result := by
  intro draft rest
  rw [List.append_assoc, StateT.run_bind, hfirst draft (more ++ rest)]
  exact hnext draft rest

/-- A token that is asked for is passed over. -/
theorem Takes.accept {next : Bool → Compose α} {token : Token} {more : List Token} {result : α}
    (hnext : Takes (next true) more result) :
    Takes (Compose.accept token >>= next) (token :: more) result := by
  intro draft rest
  have haccept : (Compose.accept token).run { draft with tokens := token :: more ++ rest } =
      some (true, { draft with tokens := more ++ rest }) := by
    simp [Compose.accept, peek, skip]
  rw [StateT.run_bind, haccept]
  exact hnext draft rest

/-- Another token than the one that is asked for is left. -/
theorem Takes.pass {next : Bool → Compose α} {token first : Token} (hother : first ≠ token)
    {more : List Token} {result : α} (hnext : Takes (next false) (first :: more) result) :
    Takes (Compose.accept token >>= next) (first :: more) result := by
  intro draft rest
  have haccept : (Compose.accept token).run { draft with tokens := first :: more ++ rest } =
      some (false, { draft with tokens := first :: more ++ rest }) := by
    simp [Compose.accept, peek, hother]
  rw [StateT.run_bind, haccept]
  exact hnext draft rest

/-- A token that has to come is passed over. -/
theorem Takes.expect {next : Unit → Compose α} {token : Token} {more : List Token} {result : α}
    (hnext : Takes (next ()) more result) :
    Takes (Compose.expect token >>= next) (token :: more) result :=
  @Takes.bind _ _ _ _ [token] more () result (Takes.accept (Takes.pure ())) hnext

/-! ### Nodes -/

/-- A scalar is a node. -/
theorem takes_scalar (block flat : Bool) (steps : Nat) (style : ScalarStyle) (text : String) :
    Takes (node block flat (steps + 2)) [.scalar style text] (.scalar none style text) := by
  intro draft rest
  rw [node]
  simp [content, peek, skip, readProperties, readAnchor, readTag]

/-- An indented mapping is a node. -/
theorem takes_mapping (flat : Bool) {steps : Nat} {tokens : List Token}
    {nodes : List (Node × Node)} (hentries : Takes (entries steps) tokens nodes) :
    Takes (node true flat (steps + 2)) (.mappingStart :: tokens) (.mapping nodes) := by
  intro draft rest
  have := hentries draft rest
  rw [node]
  simp [content, peek, skip, readProperties, readAnchor, readTag, this]

/-- A node that does not begin with a mark is not missing. -/
theorem takes_nodeUnless {flat : Bool} {marks : List Token} {steps : Nat} {first : Token}
    (hfirst : first ∉ marks) {more : List Token} {result : Node}
    (hnode : Takes (node true flat steps) (first :: more) result) :
    Takes (nodeUnless flat marks (steps + 1)) (first :: more) result := by
  intro draft rest
  have := hnode draft rest
  rw [List.cons_append] at this
  rw [nodeUnless]
  simp [isAt, peek, hfirst, this]

/-- A mapping is over at its end. -/
theorem takes_end (steps : Nat) : Takes (entries (steps + 1)) [.blockEnd] [] := by
  rw [entries]
  exact Takes.accept (Takes.pure [])

/-- An entry is a key and a value. -/
theorem takes_entry {steps : Nat} {keyTokens valueTokens more : List Token} {key value : Node}
    {nodes : List (Node × Node)}
    (hkey : Takes (nodeUnless true [.key, .value, .blockEnd] steps) keyTokens key)
    (hvalue : Takes (nodeUnless true [.key, .value, .blockEnd] steps) valueTokens value)
    (hmore : Takes (entries steps) more nodes) :
    Takes (entries (steps + 1)) (.key :: (keyTokens ++ .value :: (valueTokens ++ more)))
      ((key, value) :: nodes) := by
  rw [entries]
  refine Takes.pass (by decide) (Takes.expect (hkey.bind (Takes.accept (hvalue.bind ?_))))
  rw [← List.append_nil more]
  exact hmore.bind (Takes.pure ((key, value) :: nodes))

end Compose

/-! ### Sections -/

/-- Key and value of an entry. -/
def Entry.pair (entry : Entry) : Node × Node :=
  (.scalar none .plain entry.key, .scalar none entry.style entry.text)

/-- Name and mapping of a section. -/
def Section.pair (part : Section) : Node × Node :=
  (.scalar none .plain part.name, .mapping (part.entries.map Entry.pair))

namespace Compose

/-- The marks before which a key or a value is missing. -/
theorem takes_scalarUnless {steps : Nat} (hsteps : 3 ≤ steps) (style : ScalarStyle)
    (text : String) :
    Takes (nodeUnless true [.key, .value, .blockEnd] steps) [.scalar style text]
      (.scalar none style text) := by
  obtain ⟨more, rfl⟩ := Nat.exists_eq_add_of_le' hsteps
  exact takes_nodeUnless (by simp) (takes_scalar true true more style text)

/-- The entries of a section are composed from their tokens. -/
theorem takes_entries (lines : List Entry) {steps : Nat} (hsteps : lines.length + 3 ≤ steps) :
    Takes (entries (steps + 1)) (lines.flatMap Entry.tokens ++ [.blockEnd])
      (lines.map Entry.pair) := by
  induction lines generalizing steps with
  | nil => exact takes_end steps
  | cons entry lines ih =>
    rw [List.length_cons] at hsteps
    obtain ⟨fewer, rfl⟩ := Nat.exists_eq_add_of_le' (show 4 ≤ steps by omega)
    have hscalar := @takes_scalarUnless (fewer + 4) (Nat.le_add_left 3 (fewer + 1))
    have hlater := @ih (fewer + 3) (by omega)
    have hentry := takes_entry (hscalar .plain entry.key) (hscalar entry.style entry.text) hlater
    have hsplit : (entry :: lines).flatMap Entry.tokens ++ [.blockEnd] =
        .key :: ([.scalar .plain entry.key] ++ .value ::
          ([.scalar entry.style entry.text] ++ (lines.flatMap Entry.tokens ++ [.blockEnd]))) := by
      simp [Entry.tokens]
    rw [hsplit]
    exact hentry

/-- Sections are composed from their tokens. -/
theorem takes_sections (parts : List Section) {steps : Nat}
    (hsteps : ∀ part ∈ parts, part.entries.length + parts.length + 6 ≤ steps) :
    Takes (entries (steps + 1)) (parts.flatMap Section.tokens ++ [.blockEnd])
      (parts.map Section.pair) := by
  induction parts generalizing steps with
  | nil => exact takes_end steps
  | cons part parts ih =>
    rw [List.length_cons] at hsteps
    have hpart := hsteps part List.mem_cons_self
    obtain ⟨fewer, rfl⟩ := Nat.exists_eq_add_of_le' (show 4 ≤ steps by omega)
    have hmarks : Token.mappingStart ∉ [Token.key, .value, .blockEnd] := by simp
    have hvalue := takes_nodeUnless hmarks
      (takes_mapping true (@takes_entries part.entries fewer (by omega)))
    have hlater := @ih (fewer + 3) fun later hmem => by
      have := hsteps later (List.mem_cons_of_mem _ hmem)
      omega
    have hname := @takes_scalarUnless (fewer + 4) (Nat.le_add_left 3 (fewer + 1)) .plain part.name
    have hsplit : (part :: parts).flatMap Section.tokens ++ [.blockEnd] =
        .key :: ([.scalar .plain part.name] ++ .value ::
          (.mappingStart :: (part.entries.flatMap Entry.tokens ++ [.blockEnd]) ++
            (parts.flatMap Section.tokens ++ [.blockEnd]))) := by
      simp [Section.tokens]
    rw [hsplit]
    exact takes_entry hname hvalue hlater

/-- A mapping is the node of the document that it begins. -/
theorem run_document {steps : Nat} {tokens : List Token} {root : Node}
    (hroot : Takes (node true false (steps + 1)) (.mappingStart :: tokens) root) :
    (document (steps + 1)).run { tokens := .mappingStart :: tokens } =
      some (some root, { tokens := [], handles := usualHandles }) := by
  have hnode := hroot { tokens := [], handles := usualHandles } []
  rw [List.append_nil] at hnode
  rw [document]
  simp [peek, directives, accept, documentEnds, hnode]

end Compose

/-- Every line of a section has a token at least. -/
theorem Section.length_le (part : Section) : part.entries.length + 1 ≤ part.tokens.length := by
  have hentries (entries : List Entry) :
      entries.length ≤ (entries.flatMap Entry.tokens).length := by
    induction entries with
    | nil => exact Nat.le_refl 0
    | cons entry entries ih =>
      rw [List.flatMap_cons, List.length_append, List.length_cons, Entry.tokens]
      simp only [List.length_cons]
      omega
  have := hentries part.entries
  rw [tokens]
  simp only [List.length_append, List.length_cons]
  omega

/-- There are more tokens than sections and lines of any one of them. -/
theorem length_le_sections {parts : List Section} {part : Section} (hpart : part ∈ parts) :
    part.entries.length + parts.length ≤ (parts.flatMap Section.tokens).length := by
  have hall (parts : List Section) : parts.length ≤ (parts.flatMap Section.tokens).length := by
    induction parts with
    | nil => exact Nat.le_refl 0
    | cons part parts ih =>
      have := part.length_le
      rw [List.flatMap_cons, List.length_append, List.length_cons]
      omega
  obtain ⟨before, after, rfl⟩ := List.append_of_mem hpart
  have := part.length_le
  have := hall before
  have := hall after
  rw [List.flatMap_append, List.flatMap_cons, List.length_append, List.length_append,
    List.length_append, List.length_cons]
  omega

/-- A text that is a sequence of sections spells the mapping of them. -/
theorem parse?_sections {parts : List Section} (hne : parts ≠ [])
    (hvalid : ∀ part ∈ parts, part.Valid) {text : String}
    (htext : text.toList = parts.flatMap Section.lines) :
    parse? text = some ⟨some (.mapping (parts.map Section.pair)), []⟩ := by
  let tokens := parts.flatMap Section.tokens ++ [.blockEnd]
  have hsteps : ∀ part ∈ parts,
      part.entries.length + parts.length + 6 ≤ 4 * (Token.mappingStart :: tokens).length + 5 := by
    intro part hpart
    have := length_le_sections hpart
    rw [List.length_cons, List.length_append]
    omega
  have hroot := Compose.takes_mapping false (Compose.takes_sections parts hsteps)
  rw [parse?, tokens?_sections hne hvalid htext, Option.bind_eq_bind, Option.bind_some]
  change ((Compose.document (4 * (Token.mappingStart :: tokens).length + 8)).run
    { tokens := .mappingStart :: tokens }).bind _ = _
  rw [Compose.run_document hroot]
  rfl

end ForeignMatrix.Yaml
