import ForeignMatrix.Document.Json
import ForeignMatrix.Proofs.Encoding
import Mathlib

/-!
# Written JSON is read back

A text that was put between quotes is read back, whatever its characters are.
An object that was laid out over several lines is read back with its keys in
their order, if each of its values is. Numbers are not covered.
-/

namespace ForeignMatrix.JsonValue

/-! ### Strings -/

/-- A unit below the surrogates stands for the character with its number. -/
theorem Piece.text?_unit {unit : Nat} (hunit : unit < 0xd800) (pieces : List Piece) :
    text? (.unit unit :: pieces) = (text? pieces).map (Char.ofNat unit :: ·) := by
  have hlead : isLead unit = false := by simp [isLead, hunit]
  have htrail : isTrail unit = false := by
    have hbelow : ¬0xdc00 ≤ unit := by omega
    simp [isTrail, hbelow]
  cases pieces with
  | nil => simp [text?, hlead, htrail]
  | cons piece pieces => cases piece <;> simp [text?, hlead, htrail]

/-- A character is written as a short escape, by its number, or as it is. -/
theorem quotedChar_cases (c : Char) :
    (∃ mark, quotedChar c = ['\\', mark] ∧ mark ≠ 'u' ∧ escaped? mark = some c) ∨
    (c.toNat < 0x20 ∧ quotedChar c = '\\' :: 'u' :: Text.toHex 4 c.toNat) ∨
    (quotedChar c = [c] ∧ c ≠ '"' ∧ c ≠ '\\' ∧ ¬c.toNat < 0x20) := by
  unfold quotedChar
  split_ifs with hquote hslash hback htab hline hform hreturn hlow
  · exact .inl ⟨'"', rfl, by decide, by rw [hquote]; rfl⟩
  · exact .inl ⟨'\\', rfl, by decide, by rw [hslash]; rfl⟩
  · exact .inl ⟨'b', rfl, by decide, by rw [hback]; rfl⟩
  · exact .inl ⟨'t', rfl, by decide, by rw [htab]; rfl⟩
  · exact .inl ⟨'n', rfl, by decide, by rw [hline]; rfl⟩
  · exact .inl ⟨'f', rfl, by decide, by rw [hform]; rfl⟩
  · exact .inl ⟨'r', rfl, by decide, by rw [hreturn]; rfl⟩
  · exact .inr (.inl ⟨hlow, rfl⟩)
  · exact .inr (.inr ⟨rfl, hquote, hslash, hlow⟩)

/-- A text between quotes is read up to the closing one, and its pieces spell the text. -/
theorem readString_quoted (text rest : List Char) :
    ∃ pieces, readString (text.flatMap quotedChar ++ '"' :: rest) = some (pieces, rest) ∧
      Piece.text? pieces = some text := by
  induction text with
  | nil => exact ⟨[], by rw [List.flatMap_nil, List.nil_append, readString], rfl⟩
  | cons c text ih =>
    obtain ⟨pieces, hread, hpieces⟩ := ih
    rw [List.flatMap_cons, List.append_assoc]
    rcases quotedChar_cases c with
      ⟨mark, hc, hmark, hescaped⟩ | ⟨hlow, hc⟩ | ⟨hc, hquote, hslash, hlow⟩
    · refine ⟨.char c :: pieces, ?_, by rw [Piece.text?, hpieces, Option.map_some]⟩
      rw [hc, List.cons_append, List.cons_append, List.nil_append,
        readString.eq_3 _ _ (fun _ _ _ _ _ hu => absurd hu hmark), hescaped, hread]
      rfl
    · have hunit := Text.ofHex?_toHex 4 c.toNat
      rw [Nat.mod_eq_of_lt (by omega)] at hunit
      refine ⟨.unit c.toNat :: pieces, ?_, ?_⟩
      · rw [hc]
        change readString ('\\' :: 'u' :: _ :: _ :: _ :: _ :: (_ ++ _)) = _
        rw [readString, List.nil_append, hread]
        exact congrArg (Option.bind · fun unit => some (.unit unit :: pieces, rest)) hunit
      · rw [Piece.text?_unit (by omega), hpieces, Option.map_some, Char.ofNat_toNat]
    · refine ⟨.char c :: pieces, ?_, by rw [Piece.text?, hpieces, Option.map_some]⟩
      rw [hc, List.singleton_append, readString.eq_4 _ _ hquote
        (fun _ _ _ _ _ hs => absurd hs hslash) (fun _ _ hs => absurd hs hslash), if_neg hlow, hread]
      rfl

/-! ### Values -/

/-- The characters of a text between quotes. -/
theorem toList_quoted (text : String) :
    (quoted text).toList = '"' :: text.toList.flatMap quotedChar ++ ['"'] :=
  String.toList_ofList

/-- Blanks before a value or a mark are passed over. -/
theorem skipBlanks_append {blanks : List Char} (hblanks : ∀ c ∈ blanks, isBlank c = true)
    (rest : List Char) : skipBlanks (blanks ++ rest) = skipBlanks rest :=
  List.dropWhile_append_of_pos hblanks

/-- What follows does not begin with a blank. -/
theorem skipBlanks_cons {c : Char} (hc : isBlank c = false) (rest : List Char) :
    skipBlanks (c :: rest) = c :: rest :=
  List.dropWhile_cons_of_neg (by rw [hc]; exact Bool.false_ne_true)

theorem skipBlanks_skipBlanks (input : List Char) :
    skipBlanks (skipBlanks input) = skipBlanks input :=
  List.dropWhile_idempotent _ input

/-- Readers pass over blanks before a value. -/
theorem readValue_skipBlanks (steps : Nat) (input : List Char) :
    readValue steps (skipBlanks input) = readValue steps input := by
  cases steps with
  | zero => rw [readValue, readValue]
  | succ steps => rw [readValue, readValue, skipBlanks_skipBlanks]

/-- Readers pass over blanks before an entry. -/
theorem readEntries_skipBlanks (steps : Nat) (input : List Char) :
    readEntries steps (skipBlanks input) = readEntries steps input := by
  cases steps with
  | zero => rw [readEntries, readEntries]
  | succ steps => rw [readEntries, readEntries, skipBlanks_skipBlanks]

/-- The characters are read as the value, whatever follows them, in any number of steps from
`steps` on. -/
def Spells (steps : Nat) (chars : List Char) (value : JsonValue) : Prop :=
  ∀ more rest, readValue (steps + more) (chars ++ rest) = some (value, rest)

theorem Spells.mono {steps larger : Nat} {chars : List Char} {value : JsonValue}
    (h : Spells steps chars value) (hle : steps ≤ larger) : Spells larger chars value := by
  intro more rest
  obtain ⟨extra, rfl⟩ := Nat.exists_eq_add_of_le hle
  rw [Nat.add_assoc, h]

theorem spells_null : Spells 1 "null".toList null := by
  intro more rest
  rw [Nat.add_comm, readValue]
  rfl

theorem spells_flag (value : Bool) : Spells 1 (toString value).toList (flag value) := by
  intro more rest
  rw [Nat.add_comm, readValue]
  cases value <;> rfl

theorem spells_text (content : String) : Spells 1 (quoted content).toList (text content) := by
  intro more rest
  obtain ⟨pieces, hread, hpieces⟩ := readString_quoted content.toList rest
  rw [Nat.add_comm, readValue, toList_quoted, List.cons_append, List.cons_append,
    List.append_assoc, skipBlanks_cons (by decide)]
  change (readString (_ ++ '"' :: rest)).bind _ = _
  rw [hread, Option.bind_some]
  change some (text (textOf pieces), rest) = _
  rw [textOf, hpieces, Option.map_some, String.ofList_toList]

/-! ### Objects over several lines -/

/-- A break with the blanks that indent the next line. -/
def lineStart (indent : Nat) : List Char := '\n' :: List.replicate indent ' '

/-- A line that gives a key its value, without what ends it. -/
def entryLine (indent : Nat) (key : String) (value : List Char) : List Char :=
  lineStart indent ++ ((quoted key).toList ++ ':' :: ' ' :: value)

/-- An entry of an object as it is written. -/
structure Member where
  /-- Key. -/
  key : String
  /-- Characters that the value is written in. -/
  chars : List Char
  /-- Value. -/
  value : JsonValue

/-- Entries one to a line, and the closing brace on a line of its own. -/
def entryLines (indent : Nat) : List Member → List Char
  | [] => []
  | [last] => entryLine (indent + 2) last.key last.chars ++ (lineStart indent ++ ['\x7d'])
  | member :: next :: others =>
    entryLine (indent + 2) member.key member.chars ++ ',' :: entryLines indent (next :: others)

theorem isBlank_of_mem_lineStart {indent : Nat} {c : Char} (hc : c ∈ lineStart indent) :
    isBlank c = true := by
  rcases List.mem_cons.mp hc with rfl | hc
  · decide
  · rw [List.eq_of_mem_replicate hc]
    decide

/-- What a reader of entries does once it has read one. -/
def afterEntry (steps : Nat) (entry : Option String × JsonValue) (rest : List Char) :
    Option (List (Option String × JsonValue) × List Char) :=
  match skipBlanks rest with
  | ',' :: rest => do
    let (entries, rest) ← readEntries steps rest
    pure (entry :: entries, rest)
  | '\x7d' :: rest => pure ([entry], rest)
  | _ => none

/-- On a line for an entry its key and its value are read. -/
theorem readEntries_line {steps : Nat} {chars : List Char} {value : JsonValue}
    (hvalue : Spells steps chars value) (indent : Nat) (key : String) (more : Nat)
    (rest : List Char) :
    readEntries (steps + more + 1) (entryLine indent key chars ++ rest) =
      afterEntry (steps + more) (some key, value) rest := by
  obtain ⟨pieces, hread, hpieces⟩ :=
    readString_quoted key.toList (':' :: ' ' :: (chars ++ rest))
  have hkey : textOf pieces = some key := by
    rw [textOf, hpieces, Option.map_some, String.ofList_toList]
  have hread' : readValue (steps + more) (' ' :: (chars ++ rest)) = some (value, rest) := by
    rw [← readValue_skipBlanks]
    change readValue (steps + more) (skipBlanks (chars ++ rest)) = _
    rw [readValue_skipBlanks, hvalue]
  have hcolon : isBlank ':' = false := by decide
  rw [readEntries, entryLine, List.append_assoc,
    skipBlanks_append fun c hc => isBlank_of_mem_lineStart hc, toList_quoted]
  rw [List.append_assoc, List.cons_append, List.cons_append, List.append_assoc,
    skipBlanks_cons (by decide)]
  simp only [List.cons_append, List.nil_append, hread, Option.bind_eq_bind, Option.bind_some,
    skipBlanks_cons hcolon, hread', hkey]
  rfl

/-- The lines of an object are read as its entries, if each value is read. -/
theorem readEntries_lines {steps : Nat} {members : List Member} (hne : members ≠ [])
    (hvalues : ∀ member ∈ members, Spells steps member.chars member.value) (indent more : Nat)
    (rest : List Char) :
    readEntries (steps + members.length + more) (entryLines indent members ++ rest) =
      some (members.map fun member => (some member.key, member.value), rest) := by
  induction members generalizing more with
  | nil => exact absurd rfl hne
  | cons member members ih =>
    have hvalue := hvalues member List.mem_cons_self
    have hsteps : steps + (member :: members).length + more =
        steps + (members.length + more) + 1 := by
      rw [List.length_cons]
      omega
    cases members with
    | nil =>
      rw [hsteps, entryLines, List.append_assoc, readEntries_line hvalue, afterEntry,
        List.append_assoc, skipBlanks_append fun c hc => isBlank_of_mem_lineStart hc]
      rfl
    | cons next others =>
      have hnext := ih (List.cons_ne_nil _ _)
        (fun entry hentry => hvalues entry (List.mem_cons_of_mem _ hentry)) more
      rw [Nat.add_assoc] at hnext
      rw [hsteps, entryLines, List.append_assoc, readEntries_line hvalue, afterEntry,
        List.cons_append, skipBlanks_cons (by decide)]
      simp only [hnext, Option.bind_eq_bind, Option.bind_some]
      rfl

/-- An object with its entries one to a line. -/
def objectLines (indent : Nat) (members : List Member) : List Char :=
  '\x7b' :: entryLines indent members

/-- An object over several lines is read as a record, if each of its values is read. -/
theorem spells_objectLines {steps : Nat} {members : List Member} (hne : members ≠ [])
    (hvalues : ∀ member ∈ members, Spells steps member.chars member.value) (indent : Nat) :
    Spells (steps + members.length + 1) (objectLines indent members)
      (.record (members.map fun member => (some member.key, member.value))) := by
  intro more rest
  have hread := readEntries_lines hne hvalues indent more rest
  have hsteps : steps + members.length + 1 + more = steps + members.length + more + 1 := by omega
  rw [hsteps, readValue, objectLines, List.cons_append, skipBlanks_cons (by decide)]
  -- The first entry stands in quotes, so the object is not closed at once.
  obtain ⟨member, members, rfl⟩ := List.exists_cons_of_ne_nil hne
  have hfirst : ∃ tail, entryLines indent (member :: members) =
      entryLine (indent + 2) member.key member.chars ++ tail := by
    cases members <;> exact ⟨_, rfl⟩
  obtain ⟨tail, htail⟩ := hfirst
  have hquote : ∃ tail, skipBlanks (entryLines indent (member :: members) ++ rest) =
      '"' :: tail := by
    rw [htail, entryLine, List.append_assoc, List.append_assoc, List.append_assoc,
      skipBlanks_append fun c hc => isBlank_of_mem_lineStart hc, toList_quoted]
    exact ⟨_, skipBlanks_cons (by decide) _⟩
  obtain ⟨tail, hquote⟩ := hquote
  rw [← readEntries_skipBlanks, hquote] at hread
  simp only [hquote]
  change (readEntries _ ('"' :: tail)).bind _ = _
  rw [hread]
  rfl

end ForeignMatrix.JsonValue
