import ForeignMatrix.Proofs.Document.Yaml.Written
import Mathlib

/-!
# Mappings of mappings are cut into their tokens

A document of named sections, each with at least one key and its value. An entry
takes three steps, and where the next line begins tells whether the section goes
on. By induction over entries and sections the whole document is cut, in as many
steps as its lines call for.
-/

namespace ForeignMatrix.Yaml

/-! ### Documents -/

/-- A line that gives a key its value. -/
structure Entry where
  /-- The key. -/
  key : String
  /-- The value with the end of its line. -/
  chars : List Char
  /-- How the value is spelled. -/
  style : ScalarStyle
  /-- Text of the value. -/
  text : String

namespace Entry

/-- The line without its indentation. -/
def body (entry : Entry) : List Char := entry.key.toList ++ ':' :: ' ' :: entry.chars

/-- The line. -/
def line (entry : Entry) : List Char := List.replicate 2 ' ' ++ entry.body

/-- Tokens of the line. -/
def tokens (entry : Entry) : List Token :=
  [.key, .scalar .plain entry.key, .value, .scalar entry.style entry.text]

/-- The key needs no quotes, and the value has its text. -/
structure Valid (entry : Entry) : Prop where
  word : IsWord entry.key
  spells : Spells 2 entry.chars entry.style entry.text

end Entry

/-- A named mapping. -/
structure Section where
  /-- The name. -/
  name : String
  /-- Lines of the mapping. -/
  entries : List Entry

namespace Section

/-- The lines of the section. -/
def lines (part : Section) : List Char :=
  part.name.toList ++ ':' :: '\n' :: part.entries.flatMap Entry.line

/-- Tokens of the section. -/
def tokens (part : Section) : List Token :=
  [.key, .scalar .plain part.name, .value, .mappingStart] ++ part.entries.flatMap Entry.tokens ++
    [.blockEnd]

/-- How many steps it takes to cut the section. -/
def steps (part : Section) : Nat := 3 * part.entries.length + 2

/-- The section has lines, and all of them are valid. -/
structure Valid (part : Section) : Prop where
  word : IsWord part.name
  nonempty : part.entries ≠ []
  entries : ∀ entry ∈ part.entries, entry.Valid

end Section

/-! ### Steps -/

/-- A line may begin with a word. -/
theorem IsWord.startsToken {key : String} (hkey : IsWord key) (rest : List Char) :
    StartsToken (key.toList ++ rest) := by
  obtain ⟨c, tail, hchars⟩ := List.exists_cons_of_ne_nil hkey.nonempty
  have hc : isWordChar c = true := hkey.chars c (hchars ▸ List.mem_cons_self)
  rw [hchars]
  exact startsToken_cons (isSpace_of_isWordChar hc) (ne_of_isWordChar hc (by decide))
    (ne_of_isWordChar hc (by decide)) _

/-- Whatever follows a value is behind its first character. -/
theorem Spells.startsToken {column : Nat} {chars : List Char} {style : ScalarStyle} {text : String}
    (hvalue : Spells column chars style text) (rest : List Char) : StartsToken (chars ++ rest) := by
  obtain ⟨c, tail, rfl⟩ := List.exists_cons_of_ne_nil hvalue.nonempty
  obtain ⟨hspace, hsharp, hmark⟩ := hvalue.start c tail rfl
  exact startsToken_cons hspace hsharp hmark _

/-- What follows a section is another one or the end. -/
theorem startsToken_sections {parts : List Section} (hvalid : ∀ part ∈ parts, part.Valid) :
    StartsToken (parts.flatMap Section.lines) := by
  cases parts with
  | nil => exact fun _ _ h => absurd h.symm (List.cons_ne_nil _ _)
  | cons part parts =>
    rw [List.flatMap_cons, Section.lines, List.append_assoc]
    exact (hvalid part List.mem_cons_self).word.startsToken _

namespace Layout

/-- An entry takes three steps, up to the first word of the next line. -/
theorem finish_entry {entry : Entry} (hentry : entry.Valid) {layout : Layout} {place : Place}
    {tokens : List Token} {indents : List Nat} {count : Nat} {next : List Char}
    (hready : layout.advance =
      blockLayout (entry.body ++ (List.replicate count ' ' ++ next)) place tokens indents true)
    (hcolumn : place.column = 2) (hindents : indents = [0] ∨ indents = [2, 0]) (hcount : count ≤ 2)
    (hnext : StartsToken next) :
    ∃ (taken : Layout) (after : Place),
      (∀ steps, finish (steps + 3) layout = finish steps taken) ∧ after.column = count ∧
      taken.advance = (blockLayout next after (tokens ++ (opening 2 indents ++ entry.tokens))
        [2, 0] true).closeTo count := by
  let rest := entry.chars ++ (List.replicate count ' ' ++ next)
  have hinput : entry.body ++ (List.replicate count ' ' ++ next) =
      entry.key.toList ++ ':' :: ' ' :: rest := by
    simp [Entry.body, rest]
  have hopened : opened place.column indents = [2, 0] := by
    rw [hcolumn]
    rcases hindents with rfl | rfl <;> rfl
  have hleft : ∀ indent ∈ indents.head?, indent ≤ place.column := by
    rw [hcolumn]
    rcases hindents with rfl | rfl <;> simp
  rw [hinput] at hready
  obtain ⟨colon, hright, hkey⟩ := @finish_key entry.key hentry.word layout (' ' :: rest) place
    tokens indents hready hleft rfl
  rw [hopened, hcolumn] at hkey
  rw [hcolumn] at hright
  have hstart : StartsToken rest := hentry.spells.startsToken _
  have hspace (tokens : List Token) :
      (blockLayout (' ' :: rest) colon tokens [2, 0] false).advance =
        blockLayout rest (colon.after ' ') tokens [2, 0] false := by
    rw [advance_space hstart]
    refine closeTo_eq_self fun indent hindent => ?_
    obtain rfl : 2 = indent := Option.some.inj hindent
    exact Nat.le_succ_of_le (Nat.le_of_lt hright)
  obtain ⟨taken, after, htaken, hafter, hadvance⟩ :=
    hentry.spells.read (hspace _) (Nat.lt_succ_of_lt hright) hcount hnext
  refine ⟨taken, after, fun steps => ?_, hafter, ?_⟩
  · rw [← htaken, ← hkey]
  · rw [hadvance]
    simp [Entry.tokens]

/-- The entries of a section take three steps each, up to the next section. -/
theorem finish_entries {entry : Entry} {entries : List Entry}
    (hvalid : ∀ line ∈ entry :: entries, line.Valid) {layout : Layout} {place : Place}
    {tokens : List Token} {indents : List Nat} {next : List Char}
    (hready : layout.advance =
      blockLayout (entry.body ++ (entries.flatMap Entry.line ++ next)) place tokens indents true)
    (hcolumn : place.column = 2) (hindents : indents = [0] ∨ indents = [2, 0])
    (hnext : StartsToken next) :
    ∃ (taken : Layout) (after : Place),
      (∀ steps, finish (steps + 3 * (entries.length + 1)) layout = finish steps taken) ∧
      after.column = 0 ∧
      taken.advance = blockLayout next after
        (tokens ++ (opening 2 indents ++ (entry :: entries).flatMap Entry.tokens ++ [.blockEnd]))
        [0] true := by
  induction entries generalizing entry layout place tokens indents with
  | nil =>
    have hentry := hvalid entry List.mem_cons_self
    obtain ⟨taken, after, htaken, hafter, hadvance⟩ :=
      @finish_entry entry hentry layout place tokens indents 0 next hready hcolumn hindents
        (Nat.zero_le 2) hnext
    refine ⟨taken, after, htaken, hafter, hadvance.trans ?_⟩
    change blockLayout next after
      (tokens ++ (opening 2 indents ++ entry.tokens) ++ [.blockEnd]) [0] true = _
    simp
  | cons later entries ih =>
    rw [List.forall_mem_cons] at hvalid
    have hlater : StartsToken (later.body ++ (entries.flatMap Entry.line ++ next)) := by
      rw [Entry.body, List.append_assoc]
      exact (hvalid.2 later List.mem_cons_self).word.startsToken _
    have hinput : (later :: entries).flatMap Entry.line ++ next =
        List.replicate 2 ' ' ++ (later.body ++ (entries.flatMap Entry.line ++ next)) := by
      simp [Entry.line]
    rw [hinput] at hready
    obtain ⟨middle, between, hmiddle, hbetween, hadvance⟩ :=
      finish_entry hvalid.1 hready hcolumn hindents (Nat.le_refl 2) hlater
    have hopen : ∀ indent ∈
        (blockLayout (later.body ++ (entries.flatMap Entry.line ++ next)) between
          (tokens ++ (opening 2 indents ++ entry.tokens)) [2, 0] true).indents.head?,
        indent ≤ 2 := by
      intro indent hindent
      obtain rfl : 2 = indent := Option.some.inj hindent
      exact Nat.le_refl 2
    rw [closeTo_eq_self hopen] at hadvance
    obtain ⟨taken, after, htaken, hafter, hlast⟩ :=
      ih hvalid.2 hadvance hbetween (.inr rfl)
    refine ⟨taken, after, fun steps => ?_, hafter, hlast.trans ?_⟩
    · rw [← htaken, ← hmiddle]
      rfl
    · simp [opening]

/-- A section is cut into its tokens, up to the next section. -/
theorem finish_section {part : Section} (hpart : part.Valid) {layout : Layout} {place : Place}
    {tokens : List Token} {indents : List Nat} {next : List Char}
    (hready : layout.advance = blockLayout (part.lines ++ next) place tokens indents true)
    (hcolumn : place.column = 0) (hindents : indents = [] ∨ indents = [0])
    (hnext : StartsToken next) :
    ∃ (taken : Layout) (after : Place),
      (∀ steps, finish (steps + part.steps) layout = finish steps taken) ∧ after.column = 0 ∧
      taken.advance =
        blockLayout next after (tokens ++ (opening 0 indents ++ part.tokens)) [0] true := by
  obtain ⟨entry, entries, hentries⟩ := List.exists_cons_of_ne_nil hpart.nonempty
  have hvalid : ∀ line ∈ entry :: entries, line.Valid := hentries ▸ hpart.entries
  let rest := '\n' :: (List.replicate 2 ' ' ++ (entry.body ++ (entries.flatMap Entry.line ++ next)))
  have hinput : part.lines ++ next = part.name.toList ++ ':' :: rest := by
    simp [Section.lines, hentries, Entry.line, rest]
  have hopened : opened place.column indents = [0] := by
    rw [hcolumn]
    rcases hindents with rfl | rfl <;> rfl
  have hleft : ∀ indent ∈ indents.head?, indent ≤ place.column := by
    rw [hcolumn]
    rcases hindents with rfl | rfl <;> simp
  rw [hinput] at hready
  obtain ⟨colon, -, hkey⟩ := finish_key hpart.word hready hleft rfl
  rw [hopened, hcolumn] at hkey
  have hstart : StartsToken (entry.body ++ (entries.flatMap Entry.line ++ next)) := by
    rw [Entry.body, List.append_assoc]
    exact (hvalid entry List.mem_cons_self).word.startsToken _
  obtain ⟨below, hbelow, hbreak⟩ := advance_break hstart colon
    (tokens ++ (opening 0 indents ++ [.key, .scalar .plain part.name, .value])) [0] false 2
  rw [closeTo_eq_self (by simp [blockLayout])] at hbreak
  obtain ⟨taken, after, htaken, hafter, hadvance⟩ :=
    finish_entries hvalid hbreak hbelow (.inl rfl) hnext
  refine ⟨taken, after, fun steps => ?_, hafter, hadvance.trans ?_⟩
  · rw [← htaken, ← hkey, Section.steps, hentries]
    rfl
  · simp [opening, Section.tokens, hentries]

/-- Sections behind the first one are cut into their tokens, and the document is closed. -/
theorem finish_sections {parts : List Section} (hvalid : ∀ part ∈ parts, part.Valid)
    {layout : Layout} {place : Place} {tokens : List Token}
    (hready : layout.advance = blockLayout (parts.flatMap Section.lines) place tokens [0] true)
    (hcolumn : place.column = 0) (steps : Nat) :
    finish (steps + 1 + (parts.map Section.steps).sum) layout =
      some (tokens ++ (parts.flatMap Section.tokens ++ [.blockEnd])) := by
  induction parts generalizing layout place tokens with
  | nil =>
    rw [List.map_nil, List.sum_nil, Nat.add_zero, finish, hready]
    rfl
  | cons part parts ih =>
    rw [List.forall_mem_cons] at hvalid
    rw [List.flatMap_cons] at hready
    obtain ⟨taken, after, htaken, hafter, hadvance⟩ :=
      finish_section hvalid.1 hready hcolumn (.inr rfl) (startsToken_sections hvalid.2)
    have hsteps : steps + 1 + ((part :: parts).map Section.steps).sum =
        steps + 1 + (parts.map Section.steps).sum + part.steps := by
      rw [List.map_cons, List.sum_cons]
      omega
    rw [hsteps, htaken, ih hvalid.2 hadvance hafter]
    simp [opening]

end Layout

/-! ### Whole texts -/

/-- What can be written may occur in a document. -/
theorem isAllowed_of_isWritable {c : Char} (hc : isWritable c = true) : isAllowed c = true := by
  simp only [isWritable, Bool.or_eq_true, Bool.and_eq_true, decide_eq_true_eq] at hc
  simp only [isAllowed, Bool.or_eq_true, Bool.and_eq_true, decide_eq_true_eq]
  omega

/-- Breaks that can be written are left as they are. -/
theorem joinBreaks_of_writable {chars : List Char} (hwritable : ∀ c ∈ chars, isWritable c = true) :
    joinBreaks chars = chars := by
  induction chars with
  | nil => rfl
  | cons c chars ih =>
    rw [List.forall_mem_cons] at hwritable
    have hreturn : c ≠ '\r' := by
      rintro rfl
      exact absurd hwritable.1 (by decide)
    have hnext : c ≠ '\u0085' := by
      rintro rfl
      exact absurd hwritable.1 (by decide)
    rw [joinBreaks.eq_2 _ _ (fun rest h _ => hreturn h), ih hwritable.2,
      if_neg (by simp [hreturn, hnext])]

theorem IsWord.writable {key : String} (hkey : IsWord key) :
    ∀ c ∈ key.toList, isWritable c = true := by
  intro c hc
  have hword := hkey.chars c hc
  rw [isWordChar, Bool.or_eq_true, decide_eq_true_eq] at hword
  rcases hword with hword | rfl
  · exact isWritable_of_isAlphanum hword
  · decide

theorem Entry.Valid.writable {entry : Entry} (hvalid : entry.Valid) :
    ∀ c ∈ entry.line, isWritable c = true := by
  intro c hc
  simp only [line, body, List.mem_append, List.mem_cons] at hc
  rcases hc with hc | hc | rfl | rfl | hc
  · rw [List.eq_of_mem_replicate hc]
    decide
  · exact hvalid.word.writable c hc
  · decide
  · decide
  · exact hvalid.spells.writable c hc

theorem Section.Valid.writable {part : Section} (hvalid : part.Valid) :
    ∀ c ∈ part.lines, isWritable c = true := by
  intro c hc
  simp only [lines, List.mem_append, List.mem_cons, List.mem_flatMap] at hc
  rcases hc with hc | rfl | rfl | ⟨entry, hentry, hc⟩
  · exact hvalid.word.writable c hc
  · decide
  · decide
  · exact (hvalid.entries entry hentry).writable c hc

/-- Every step takes a character at least. -/
theorem Section.steps_le (part : Section) : part.steps ≤ part.lines.length := by
  have hentries (entries : List Entry) :
      3 * entries.length ≤ (entries.flatMap Entry.line).length := by
    induction entries with
    | nil => exact Nat.le_refl 0
    | cons entry entries ih =>
      rw [List.flatMap_cons, List.length_append, Entry.line, Entry.body]
      simp only [List.length_append, List.length_cons, List.length_replicate]
      omega
  have := hentries part.entries
  rw [steps, lines, List.length_append, List.length_cons, List.length_cons]
  omega

/-- A text that is a sequence of sections is cut into their tokens. -/
theorem tokens?_sections {parts : List Section} (hne : parts ≠ [])
    (hvalid : ∀ part ∈ parts, part.Valid) {document : String}
    (hdocument : document.toList = parts.flatMap Section.lines) :
    tokens? document = some (.mappingStart :: (parts.flatMap Section.tokens ++ [.blockEnd])) := by
  have hwritable : ∀ c ∈ parts.flatMap Section.lines, isWritable c = true := by
    intro c hc
    obtain ⟨part, hpart, hc⟩ := List.mem_flatMap.mp hc
    exact (hvalid part hpart).writable c hc
  have hallowed : (parts.flatMap Section.lines).all isAllowed = true :=
    List.all_eq_true.mpr fun c hc => isAllowed_of_isWritable (hwritable c hc)
  have hlength (parts : List Section) :
      (parts.map Section.steps).sum ≤ (parts.flatMap Section.lines).length := by
    induction parts with
    | nil => exact Nat.le_refl 0
    | cons part parts ih =>
      rw [List.map_cons, List.sum_cons, List.flatMap_cons, List.length_append]
      exact Nat.add_le_add part.steps_le ih
  obtain ⟨part, later, rfl⟩ := List.exists_cons_of_ne_nil hne
  have hlater := (List.forall_mem_cons.mp hvalid).2
  let layout : Layout := { rest := (part :: later).flatMap Section.lines }
  have hready : layout.advance =
      blockLayout (part.lines ++ later.flatMap Section.lines) {} [] [] true := by
    rw [Layout.advance_word rfl (startsToken_sections hvalid)]
    rfl
  obtain ⟨taken, after, htaken, hafter, hadvance⟩ := Layout.finish_section
    (hvalid part List.mem_cons_self) hready rfl (.inl rfl) (startsToken_sections hlater)
  obtain ⟨more, hmore⟩ := Nat.exists_eq_add_of_le (hlength (part :: later))
  have hsteps : ((part :: later).flatMap Section.lines).length + 1 =
      more + 1 + (later.map Section.steps).sum + part.steps := by
    rw [hmore, List.map_cons, List.sum_cons]
    omega
  have hfinish := (htaken (more + 1 + (later.map Section.steps).sum)).trans
    (Layout.finish_sections hlater hadvance hafter more)
  rw [tokens?, hdocument, if_pos hallowed]
  dsimp only
  rw [joinBreaks_of_writable hwritable, hsteps]
  exact hfinish.trans (by simp [Layout.opening])

end ForeignMatrix.Yaml
