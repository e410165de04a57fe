import ForeignMatrix.Document.Toml.Document
import ForeignMatrix.Proofs.Document.Toml.Text
import Mathlib

/-!
# TOML documents are read line by line

A line that gives a bare key its value enters the value into the open table, and
a header closes the open table and opens a new one. From this a document that is
a sequence of tables is read as those tables, in any number and with any entries.
Only keys of one bare part are covered, and values that end with their line.
-/

namespace ForeignMatrix.Toml

/-! ### Blanks, comments and keys -/

theorem skipBlanks_cons {c : Char} (hc : isBlank c = false) (rest : List Char) :
    skipBlanks (c :: rest) = c :: rest :=
  List.dropWhile_cons_of_neg (by rw [hc]; exact Bool.false_ne_true)

/-- Characters at which a line begins that is neither empty nor a comment alone. -/
def StartsLine (c : Char) : Prop := isBlank c = false ∧ c ≠ '#' ∧ c ≠ '\n'

theorem skipComment_cons {c : Char} (hc : c ≠ '#') (rest : List Char) :
    skipComment (c :: rest) = c :: rest := by
  unfold skipComment
  split
  · rename_i heq
    exact absurd (List.cons.inj heq).1 hc
  · rfl

theorem skipSpace_cons {c : Char} (hc : StartsLine c) (rest : List Char) :
    skipSpace (c :: rest) = c :: rest := by
  rw [skipSpace, skipLines, skipBlanks_cons hc.1, skipComment_cons hc.2.1]
  split
  · rename_i heq
    exact absurd (List.cons.inj heq).1 hc.2.2
  · rfl

/-- An empty line is passed over. -/
theorem skipSpace_break (input : List Char) : skipSpace ('\n' :: input) = skipSpace input := by
  rw [skipSpace, skipLines, skipBlanks_cons (by decide), skipComment_cons (by decide)]
  rfl

/-- A key that needs no quotes. -/
def IsBare (key : String) : Prop := key.toList ≠ [] ∧ ∀ c ∈ key.toList, isBareKey c = true

theorem startsLine_of_isBareKey {c : Char} (hc : isBareKey c = true) : StartsLine c := by
  refine ⟨?_, ?_, ?_⟩
  · by_contra hblank
    rw [Bool.not_eq_false, isBlank, Bool.or_eq_true, decide_eq_true_eq, decide_eq_true_eq] at hblank
    rcases hblank with rfl | rfl
    · exact absurd hc (by decide)
    · exact absurd hc (by decide)
  · rintro rfl
    exact absurd hc (by decide)
  · rintro rfl
    exact absurd hc (by decide)

/-- A bare key is read up to the character behind it, which opens no string. -/
theorem readKeyPart_bare {key : String} (hkey : IsBare key) {next : Char}
    (hnext : isBareKey next = false) (rest : List Char) :
    readKeyPart (key.toList ++ next :: rest) = some (key.toList, next :: rest) := by
  obtain ⟨hne, hbare⟩ := hkey
  have hstop : ¬isBareKey next = true := by rw [hnext]; exact Bool.false_ne_true
  have htake : (key.toList ++ next :: rest).takeWhile isBareKey = key.toList := by
    rw [List.takeWhile_append_of_pos hbare, List.takeWhile_cons_of_neg hstop, List.append_nil]
  have hdrop : (key.toList ++ next :: rest).dropWhile isBareKey = next :: rest := by
    rw [List.dropWhile_append_of_pos hbare, List.dropWhile_cons_of_neg hstop]
  obtain ⟨c, chars, hchars⟩ := List.exists_cons_of_ne_nil hne
  have hc : isBareKey c = true := hbare c (hchars ▸ List.mem_cons_self)
  have hquote : ∀ quote : Char, isBareKey quote = false →
      ∀ input, key.toList ++ next :: rest ≠ quote :: input := by
    intro quote hquote input h
    rw [hchars] at h
    rw [(List.cons.inj h).1, hquote] at hc
    contradiction
  unfold readKeyPart
  split
  · rename_i heq
    exact absurd heq (hquote _ (by decide) _)
  · rename_i heq
    exact absurd heq (hquote _ (by decide) _)
  · rw [htake, hdrop, hchars]

/-- A bare key is a key of one part, with the blanks behind it. -/
theorem readKey_bare {key : String} (hkey : IsBare key) {next mark : Char}
    (hnext : isBareKey next = false) {input rest : List Char}
    (hskip : skipBlanks (next :: input) = mark :: rest) (hmark : mark ≠ '.') :
    readKey depthLimit (key.toList ++ next :: input) = some ([key], mark :: rest) := by
  obtain ⟨c, chars, hchars⟩ := List.exists_cons_of_ne_nil hkey.1
  have hstart := startsLine_of_isBareKey (hkey.2 c (hchars ▸ List.mem_cons_self))
  have hskip' : skipBlanks (key.toList ++ next :: input) = key.toList ++ next :: input := by
    rw [hchars, List.cons_append, skipBlanks_cons hstart.1]
  rw [depthLimit, readKey, hskip', readKeyPart_bare hkey hnext, Option.bind_eq_bind,
    Option.bind_some]
  dsimp only
  rw [hskip]
  split
  · rename_i heq
    exact absurd (List.cons.inj heq).1 hmark
  · rw [String.ofList_toList]
    rfl

/-! ### Values -/

/-- The characters are read as the value where their line ends behind them. -/
structure Shows (chars : List Char) (value : Value) : Prop where
  /-- No blank comes before the value. -/
  start : ∃ c rest, chars = c :: rest ∧ isBlank c = false
  /-- The value is read up to the end of its line. -/
  read : ∀ rest, readValue depthLimit (chars ++ '\n' :: rest) = some (value, '\n' :: rest)

/-- A written string begins with a quote. -/
theorem quotedChars_cons (text : List Char) :
    ∃ quote rest, (quote = '"' ∨ quote = '\'') ∧ quotedChars text = quote :: rest := by
  have hopening (quote : Char) : ∃ rest, opening [quote, quote, quote] text = quote :: rest := by
    unfold opening
    split_ifs <;> exact ⟨_, rfl⟩
  unfold quotedChars
  split
  · exact ⟨_, _, .inl rfl, rfl⟩
  · obtain ⟨rest, hrest⟩ := hopening '"'
    exact ⟨_, _, .inl rfl, by rw [hrest]; rfl⟩
  · exact ⟨_, _, .inr rfl, rfl⟩
  · obtain ⟨rest, hrest⟩ := hopening '\''
    exact ⟨_, _, .inr rfl, by rw [hrest]; rfl⟩

/-- What begins neither with a bracket nor with a brace is no array and no table. -/
theorem readValue_scalar {c : Char} (hbracket : c ≠ '[') (hbrace : c ≠ '\x7b') (depth : Nat)
    (rest : List Char) : readValue depth (c :: rest) = readScalar (c :: rest) := by
  unfold readValue
  split
  all_goals first
    | rfl
    | rename_i heq
      exact absurd (List.cons.inj heq).1 ‹_›

/-- A written string shows its text. -/
theorem shows_quoted (text : String) : Shows (quoted text).toList (.text text) := by
  obtain ⟨quote, tail, hquote, htail⟩ := quotedChars_cons text.toList
  have hchars : (quoted text).toList = quote :: tail := by
    rw [quoted, String.toList_ofList, htail]
  refine ⟨⟨quote, tail, hchars, by rcases hquote with rfl | rfl <;> decide⟩, fun rest => ?_⟩
  have hread := readString_quotedChars text.toList rest
  rw [htail] at hread
  rw [hchars, List.cons_append]
  have hscalar : readScalar (quote :: (tail ++ '\n' :: rest)) =
      some (.text text, '\n' :: rest) := by
    rw [List.cons_append] at hread
    rcases hquote with rfl | rfl
    · simp [readScalar, hread]
    · simp [readScalar, hread]
  rw [readValue_scalar, hscalar]
  · rcases hquote with rfl | rfl <;> decide
  · rcases hquote with rfl | rfl <;> decide

/-- A written flag shows itself. -/
theorem shows_flag (value : Bool) : Shows (toString value).toList (.flag value) := by
  cases value with
  | false =>
    refine ⟨⟨'f', _, rfl, by decide⟩, fun rest => ?_⟩
    change readValue depthLimit ('f' :: _) = _
    rw [readValue_scalar (by decide) (by decide)]
    rfl
  | true =>
    refine ⟨⟨'t', _, rfl, by decide⟩, fun rest => ?_⟩
    change readValue depthLimit ('t' :: _) = _
    rw [readValue_scalar (by decide) (by decide)]
    rfl

/-! ### Lines -/

/-- A line that gives a key its value. -/
def entryLine (key : String) (value : List Char) : List Char :=
  key.toList ++ " = ".toList ++ value ++ ['\n']

/-- A line that opens a table. -/
def headerLine (name : String) : List Char := '[' :: name.toList ++ [']', '\n']

/-- A key that the open table does not have is entered at its end. -/
theorem Draft.enter_new {draft : Draft} {key : String} (hnew : draft.entries.lookup key = none)
    (value : Value) :
    draft.enter [key] value =
      some { draft with entries := draft.entries ++ [(key, value)] } := by
  simp [Draft.enter, Table.enter, Table.alter, Table.add, Table.set, hnew]

/-- A line for an entry enters it at the end of the open table. -/
theorem readLines_entry {key : String} (hkey : IsBare key) {chars : List Char} {value : Value}
    (hvalue : Shows chars value) {draft : Draft} (hnew : draft.entries.lookup key = none)
    (lines : Nat) (rest : List Char) :
    readLines (lines + 1) draft (entryLine key chars ++ rest) =
      readLines lines { draft with entries := draft.entries ++ [(key, value)] } rest := by
  obtain ⟨c, tail, hchars⟩ := List.exists_cons_of_ne_nil hkey.1
  have hc : isBareKey c = true := hkey.2 c (hchars ▸ List.mem_cons_self)
  have hstart := startsLine_of_isBareKey hc
  have hline : entryLine key chars ++ rest =
      key.toList ++ ' ' :: '=' :: ' ' :: (chars ++ '\n' :: rest) := by
    simp [entryLine]
  have hspace : skipSpace (entryLine key chars ++ rest) = entryLine key chars ++ rest := by
    rw [hline, hchars, List.cons_append, skipSpace_cons hstart]
  have hblanks : skipBlanks (' ' :: (chars ++ '\n' :: rest)) = chars ++ '\n' :: rest := by
    obtain ⟨d, more, hd, hblank⟩ := hvalue.start
    rw [hd]
    exact skipBlanks_cons hblank _
  have hentry : readEntry (readValue depthLimit) (entryLine key chars ++ rest) =
      some ([key], value, '\n' :: rest) := by
    have hmark : skipBlanks (' ' :: '=' :: ' ' :: (chars ++ '\n' :: rest)) =
        '=' :: ' ' :: (chars ++ '\n' :: rest) := rfl
    rw [hline, readEntry, readKey_bare hkey (by decide) hmark (by decide)]
    simp only [Option.bind_eq_bind, Option.bind_some, expect, if_pos, hblanks, hvalue.read]
    rfl
  have hread : readLine draft (entryLine key chars ++ rest) =
      some ({ draft with entries := draft.entries ++ [(key, value)] }, '\n' :: rest) := by
    have hbracket : ∀ input, entryLine key chars ++ rest ≠ '[' :: input := by
      intro input h
      rw [hline, hchars] at h
      rw [(List.cons.inj h).1] at hc
      exact absurd hc (by decide)
    rw [readLine.eq_3 _ _ (fun _ => hbracket _) hbracket, hentry, Option.bind_eq_bind,
      Option.bind_some]
    simp only [Draft.enter_new hnew]
    rfl
  rw [readLines, hspace]
  have hsplit : ∃ input, entryLine key chars ++ rest = c :: input := by
    rw [hline, hchars]
    exact ⟨_, rfl⟩
  obtain ⟨input, hinput⟩ := hsplit
  split
  · rename_i heq
    exact absurd (hinput.symm.trans heq) (List.cons_ne_nil _ _)
  · rename_i heq
    exact absurd (List.cons.inj (hinput.symm.trans heq)).1 hstart.2.1
  · rw [hread]
    rfl

/-- A header opens the table that it names. -/
theorem readLines_header {name : String} (hname : IsBare name) {draft opened : Draft}
    (hopen : draft.openTable [name] = some opened) (lines : Nat) (rest : List Char) :
    readLines (lines + 1) draft (headerLine name ++ rest) = readLines lines opened rest := by
  obtain ⟨c, tail, hchars⟩ := List.exists_cons_of_ne_nil hname.1
  have hc : isBareKey c = true := hname.2 c (hchars ▸ List.mem_cons_self)
  have hline : headerLine name ++ rest = '[' :: (name.toList ++ ']' :: '\n' :: rest) := by
    simp [headerLine]
  have hread : readLine draft (headerLine name ++ rest) = some (opened, '\n' :: rest) := by
    have hbracket : ∀ input, name.toList ++ ']' :: '\n' :: rest ≠ '[' :: input := by
      intro input h
      rw [hchars] at h
      rw [(List.cons.inj h).1] at hc
      exact absurd hc (by decide)
    rw [hline, readLine.eq_2 _ _ hbracket, readKey_bare hname (by decide) rfl (by decide)]
    simp only [Option.bind_eq_bind, Option.bind_some, hopen, expect, if_pos]
    rfl
  have hspace : skipSpace (headerLine name ++ rest) = headerLine name ++ rest := by
    rw [hline, skipSpace_cons ⟨by decide, by decide, by decide⟩]
  rw [readLines, hspace]
  split
  · rename_i heq
    exact absurd (hline.symm.trans heq) (List.cons_ne_nil _ _)
  · rename_i heq
    exact absurd (List.cons.inj (hline.symm.trans heq)).1 (by decide)
  · rw [hread]
    rfl

/-- An empty line changes nothing. -/
theorem readLines_break (lines : Nat) (draft : Draft) (rest : List Char) :
    readLines (lines + 1) draft ('\n' :: rest) = readLines (lines + 1) draft rest := by
  rw [readLines, readLines, skipSpace_break]

/-- The document ends after its last line. -/
theorem readLines_nil (lines : Nat) (draft : Draft) :
    readLines (lines + 1) draft [] = some draft :=
  rfl

/-! ### Tables -/

/-- A new entry goes to the end of a table. -/
theorem Table.set_new {table : Table} {key : String} (hnew : table.entries.lookup key = none)
    (value : Value) : table.set key value = ⟨table.kind, table.entries ++ [(key, value)]⟩ := by
  rw [set, hnew]
  rfl

/-- The open table is put at the end of the document when it is closed. -/
theorem Draft.close_last {draft : Draft} {name : String} (hpath : draft.path = [name])
    (helement : draft.isElement = false) (hnew : draft.root.entries.lookup name = none) :
    draft.close =
      some ⟨draft.root.kind, draft.root.entries ++ [(name, .table .defined draft.entries)]⟩ := by
  rw [close, hpath]
  simp [alterAbove, Table.alter, place, helement, Table.set_new hnew]

/-- A header after another one closes the table of that one and opens a new table. -/
theorem Draft.openTable_next {draft : Draft} {name next : String} (hpath : draft.path = [name])
    (helement : draft.isElement = false) (hnew : draft.root.entries.lookup name = none)
    (hnext : (draft.root.entries ++ [(name, Value.table .defined draft.entries)]).lookup next =
      none) :
    draft.openTable [next] =
      some {
        root := ⟨draft.root.kind, draft.root.entries ++ [(name, .table .defined draft.entries)]⟩
        path := [next] } := by
  rw [openTable, close_last hpath helement hnew]
  simp [alterAbove, Table.alter, take, hnext]

/-! ### Documents -/

/-- A line that gives a key its value, and the value. -/
structure Entry where
  /-- The key. -/
  key : String
  /-- Characters of the value. -/
  chars : List Char
  /-- The value that the characters show. -/
  value : Value

namespace Entry

/-- The line of the entry. -/
def line (entry : Entry) : List Char := entryLine entry.key entry.chars

/-- Key and value of the entry. -/
def pair (entry : Entry) : String × Value := (entry.key, entry.value)

/-- The line is a line of its own, and shows the value. -/
structure Valid (entry : Entry) : Prop where
  bare : IsBare entry.key
  shows : Shows entry.chars entry.value
  plain : '\r' ∉ entry.chars

end Entry

/-- A table under a header of its own. -/
structure Section where
  /-- Name of the table. -/
  name : String
  /-- Its entries. -/
  entries : List Entry

namespace Section

/-- The lines of the table. -/
def lines (table : Section) : List Char :=
  headerLine table.name ++ table.entries.flatMap Entry.line

/-- Name and value of the table. -/
def pair (table : Section) : String × Value :=
  (table.name, .table .defined (table.entries.map Entry.pair))

/-- How many lines the table has. -/
def height (table : Section) : Nat := table.entries.length + 1

/-- Every line is a line of its own, and no key is given twice. -/
structure Valid (table : Section) : Prop where
  bare : IsBare table.name
  entries : ∀ entry ∈ table.entries, entry.Valid
  distinct : (table.entries.map Entry.key).Nodup

end Section

theorem lookup_append_none {entries : List (String × Value)} {key other : String} (value : Value)
    (hnew : entries.lookup key = none) (hne : key ≠ other) :
    (entries ++ [(other, value)]).lookup key = none := by
  rw [List.lookup_append, hnew, Option.none_or, List.lookup_cons, beq_eq_false_iff_ne.mpr hne]
  rfl

/-- The lines of entries enter all of them. -/
theorem readLines_entries {entries : List Entry} (hvalid : ∀ entry ∈ entries, entry.Valid)
    (hdistinct : (entries.map Entry.key).Nodup) {draft : Draft}
    (hnew : ∀ entry ∈ entries, draft.entries.lookup entry.key = none) (lines : Nat)
    (rest : List Char) :
    readLines (lines + entries.length) draft (entries.flatMap Entry.line ++ rest) =
      readLines lines { draft with entries := draft.entries ++ entries.map Entry.pair } rest := by
  induction entries generalizing draft with
  | nil => simp
  | cons entry entries ih =>
    have hentry := hvalid entry List.mem_cons_self
    rw [List.map_cons, List.nodup_cons] at hdistinct
    have hlater : ∀ later ∈ entries,
        (draft.entries ++ [(entry.key, entry.value)]).lookup later.key = none := by
      intro later hlater
      refine lookup_append_none _ (hnew later (List.mem_cons_of_mem _ hlater)) ?_
      exact fun h => hdistinct.1 (h ▸ List.mem_map_of_mem hlater)
    rw [List.flatMap_cons, List.append_assoc, List.length_cons, ← Nat.add_assoc, Entry.line,
      readLines_entry hentry.bare hentry.shows (hnew entry List.mem_cons_self),
      ih (fun later hmem => hvalid later (List.mem_cons_of_mem _ hmem)) hdistinct.2 hlater]
    simp [Entry.pair]

/-- Tables that follow an open table are entered behind it, each after an empty line. -/
theorem readLines_sections {tables : List Section} (hvalid : ∀ table ∈ tables, table.Valid)
    {draft : Draft} {name : String} (hpath : draft.path = [name])
    (helement : draft.isElement = false)
    (hdistinct : (name :: tables.map Section.name).Nodup)
    (hnew : ∀ other ∈ name :: tables.map Section.name, draft.root.entries.lookup other = none)
    (lines : Nat) :
    (readLines (lines + 1 + (tables.map Section.height).sum) draft
        (tables.flatMap fun table => '\n' :: table.lines)).bind Draft.close =
      some ⟨draft.root.kind, draft.root.entries ++
        (name, .table .defined draft.entries) :: tables.map Section.pair⟩ := by
  induction tables generalizing draft name with
  | nil =>
    rw [List.flatMap_nil, List.map_nil, List.sum_nil, Nat.add_zero, readLines_nil,
      Option.bind_some, Draft.close_last hpath helement (hnew name List.mem_cons_self)]
    rfl
  | cons table tables ih =>
    have htable := hvalid table List.mem_cons_self
    rw [List.map_cons] at hdistinct hnew
    have hname := List.nodup_cons.mp hdistinct
    have hroot : ∀ other ∈ table.name :: tables.map Section.name,
        (draft.root.entries ++ [(name, Value.table .defined draft.entries)]).lookup other =
          none := by
      intro other hother
      refine lookup_append_none _ (hnew other (List.mem_cons_of_mem _ hother)) ?_
      exact fun h => hname.1 (h ▸ hother)
    have hopen := Draft.openTable_next hpath helement (hnew name List.mem_cons_self)
      (hroot table.name List.mem_cons_self)
    have hsteps : lines + 1 + ((table :: tables).map Section.height).sum =
        lines + 1 + (tables.map Section.height).sum + table.entries.length + 1 := by
      rw [List.map_cons, List.sum_cons, Section.height]
      omega
    rw [List.flatMap_cons, hsteps, List.cons_append, readLines_break, Section.lines,
      List.append_assoc, readLines_header htable.bare hopen,
      readLines_entries htable.entries htable.distinct (fun _ _ => rfl),
      ih (fun later hmem => hvalid later (List.mem_cons_of_mem _ hmem)) rfl rfl hname.2 hroot]
    simp [Section.pair]

/-- Tables one after the other, with an empty line between them. -/
def sectionLines : List Section → List Char
  | [] => []
  | table :: tables => table.lines ++ tables.flatMap fun table => '\n' :: table.lines

/-- The lines of a sequence of tables are read as the tables. -/
theorem readLines_sectionLines {tables : List Section} (hvalid : ∀ table ∈ tables, table.Valid)
    (hdistinct : (tables.map Section.name).Nodup) (lines : Nat) :
    (readLines (lines + 1 + (tables.map Section.height).sum) {} (sectionLines tables)).bind
        Draft.close = some ⟨.defined, tables.map Section.pair⟩ := by
  cases tables with
  | nil => rfl
  | cons table tables =>
    have htable := hvalid table List.mem_cons_self
    have hopen : Draft.openTable [table.name] {} =
        some { root := ⟨.defined, []⟩, path := [table.name] } := rfl
    have hsteps : lines + 1 + ((table :: tables).map Section.height).sum =
        lines + 1 + (tables.map Section.height).sum + table.entries.length + 1 := by
      rw [List.map_cons, List.sum_cons, Section.height]
      omega
    rw [sectionLines, hsteps, Section.lines, List.append_assoc,
      readLines_header htable.bare hopen,
      readLines_entries htable.entries htable.distinct (fun _ _ => rfl),
      readLines_sections (fun later hmem => hvalid later (List.mem_cons_of_mem _ hmem)) rfl rfl
        hdistinct (fun _ _ => rfl)]
    rfl

/-! ### Whole texts -/

/-- Nothing is joined where there is no carriage return. -/
theorem joinBreaks_of_not_mem {chars : List Char} (hplain : '\r' ∉ chars) :
    joinBreaks chars = chars := by
  induction chars with
  | nil => rfl
  | cons c chars ih =>
    rw [List.mem_cons, not_or] at hplain
    rw [joinBreaks.eq_2 _ _ (fun rest h _ => absurd h.symm hplain.1), ih hplain.2]

/-- A bare key has no carriage return. -/
theorem IsBare.plain {key : String} (hkey : IsBare key) : '\r' ∉ key.toList :=
  fun h => absurd (hkey.2 _ h) (by decide)

theorem Entry.Valid.plain_line {entry : Entry} (hvalid : entry.Valid) : '\r' ∉ entry.line := by
  simp [Entry.line, entryLine, hvalid.bare.plain, hvalid.plain]

theorem Section.Valid.plain_lines {table : Section} (hvalid : table.Valid) :
    '\r' ∉ table.lines := by
  have hheader : '\r' ∉ headerLine table.name := by simp [headerLine, hvalid.bare.plain]
  have hentries : '\r' ∉ table.entries.flatMap Entry.line := by
    rw [List.mem_flatMap]
    rintro ⟨entry, hmem, h⟩
    exact (hvalid.entries entry hmem).plain_line h
  exact List.not_mem_append hheader hentries

theorem plain_sectionLines {tables : List Section} (hvalid : ∀ table ∈ tables, table.Valid) :
    '\r' ∉ sectionLines tables := by
  cases tables with
  | nil => exact List.not_mem_nil
  | cons table tables =>
    refine List.not_mem_append (hvalid table List.mem_cons_self).plain_lines ?_
    rw [List.mem_flatMap]
    rintro ⟨later, hmem, h⟩
    rw [List.mem_cons] at h
    rcases h with h | h
    · exact absurd h (by decide)
    · exact (hvalid later (List.mem_cons_of_mem _ hmem)).plain_lines h

/-- Every line has a character at least. -/
theorem Section.height_le (table : Section) : table.height ≤ table.lines.length := by
  have hentries (entries : List Entry) :
      entries.length ≤ (entries.flatMap Entry.line).length := by
    induction entries with
    | nil => exact Nat.le_refl 0
    | cons entry entries ih =>
      rw [List.flatMap_cons, List.length_append, Entry.line, entryLine]
      simp only [List.length_append, List.length_cons]
      omega
  have := hentries table.entries
  rw [height, lines, headerLine, List.length_append, List.cons_append, List.length_cons]
  omega

theorem height_le_sectionLines (tables : List Section) :
    (tables.map Section.height).sum ≤ (sectionLines tables).length := by
  have hlater (tables : List Section) : (tables.map Section.height).sum ≤
      (tables.flatMap fun table => '\n' :: table.lines).length := by
    induction tables with
    | nil => exact Nat.le_refl 0
    | cons table tables ih =>
      have := table.height_le
      rw [List.map_cons, List.sum_cons, List.flatMap_cons, List.length_append, List.length_cons]
      omega
  cases tables with
  | nil => exact Nat.le_refl 0
  | cons table tables =>
    rw [List.map_cons, List.sum_cons, sectionLines, List.length_append]
    exact Nat.add_le_add table.height_le (hlater tables)

/-- A text that is a sequence of tables spells the table of them. -/
theorem parse?_sections {tables : List Section} {document : String}
    (hdocument : document.toList = sectionLines tables)
    (hvalid : ∀ table ∈ tables, table.Valid) (hdistinct : (tables.map Section.name).Nodup) :
    parse? document = some (.table .defined (tables.map Section.pair)) := by
  have hmark : ∀ rest, sectionLines tables ≠ '\ufeff' :: rest := by
    intro rest h
    cases tables with
    | nil => exact absurd h.symm (List.cons_ne_nil _ _)
    | cons table tables => exact absurd (List.cons.inj h).1 (by decide)
  have hread := readLines_sectionLines hvalid hdistinct
    ((sectionLines tables).length - (tables.map Section.height).sum)
  have hsteps : (sectionLines tables).length - (tables.map Section.height).sum + 1 +
      (tables.map Section.height).sum = (sectionLines tables).length + 1 := by
    have := height_le_sectionLines tables
    omega
  rw [hsteps, Option.bind_eq_some_iff] at hread
  obtain ⟨draft, hdraft, hclose⟩ := hread
  rw [parse?, hdocument]
  split
  · exact absurd ‹_› (hmark _)
  · simp only [joinBreaks_of_not_mem (plain_sectionLines hvalid), hdraft, Option.bind_eq_bind,
      Option.bind_some, hclose]
    rfl

end ForeignMatrix.Toml
