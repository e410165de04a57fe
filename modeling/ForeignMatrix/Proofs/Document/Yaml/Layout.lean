import ForeignMatrix.Document.Yaml.Layout
import ForeignMatrix.Proofs.Document.Yaml.Blocks
import Mathlib

/-!
# Written YAML documents are cut into their tokens

A document that is a sequence of named mappings, one line for each key and its
value. A key takes two steps, one for its word and one for its colon, and a value
takes one, up to the first word of the next line. Which collections end there
depends on the column of that word alone.
-/

namespace ForeignMatrix.Yaml

/-! ### Places -/

theorem foldl_after_line {chars : List Char} (hline : ∀ c ∈ chars, isBreak c = false)
    (place : Place) :
    chars.foldl Place.after place =
      ⟨place.index + chars.length, place.line, place.column + chars.length⟩ := by
  induction chars generalizing place with
  | nil => rfl
  | cons c chars ih =>
    rw [List.forall_mem_cons] at hline
    rw [List.foldl_cons, ih hline.2, Place.after, hline.1, if_neg Bool.false_ne_true,
      List.length_cons]
    dsimp only
    rw [Nat.add_assoc, Nat.add_assoc, Nat.add_comm 1]

/-- The column after a break is the number of spaces that follow it. -/
theorem column_after_break {c : Char} (hc : isBreak c = true) (chars : List Char) (count : Nat)
    (place : Place) :
    ((chars ++ c :: List.replicate count ' ').foldl Place.after place).column = count := by
  have hspaces : ∀ d ∈ List.replicate count ' ', isBreak d = false := by
    intro d hd
    rw [List.eq_of_mem_replicate hd]
    decide
  rw [List.foldl_append, List.foldl_cons, foldl_after_line hspaces, Place.after, if_pos hc,
    List.length_replicate, Nat.zero_add]

/-! ### Steps -/

/-- A layout outside of brackets and braces, at which no node may yet become a key. -/
def blockLayout (rest : List Char) (place : Place) (tokens : List Token) (indents : List Nat)
    (allowsKey : Bool) : Layout :=
  { rest, place, tokens, indents, allowsKey }

/-- A word at which a line may begin. -/
def StartsToken (input : List Char) : Prop :=
  ∀ c rest, input = c :: rest → isSpace c = false ∧ c ≠ '#' ∧ c ≠ '\ufeff'

theorem startsToken_cons {c : Char} (hspace : isSpace c = false) (hsharp : c ≠ '#')
    (hmark : c ≠ '\ufeff') (rest : List Char) : StartsToken (c :: rest) := by
  rintro d more h
  obtain ⟨rfl, -⟩ := List.cons.inj h
  exact ⟨hspace, hsharp, hmark⟩

theorem StartsToken.startsWord {input : List Char} (h : StartsToken input) : StartsWord input :=
  fun c rest hinput => (h c rest hinput).1

namespace Layout

theorem moveTo_append {layout : Layout} {passed rest : List Char}
    (h : layout.rest = passed ++ rest) :
    layout.moveTo rest = { layout with rest, place := passed.foldl Place.after layout.place } := by
  have hlength : (passed ++ rest).length - rest.length = passed.length := by simp
  rw [moveTo, h, hlength, List.take_left]

theorem moveTo_block (passed rest : List Char) (place : Place) (tokens : List Token)
    (indents : List Nat) (allowsKey : Bool) :
    (blockLayout (passed ++ rest) place tokens indents allowsKey).moveTo rest =
      blockLayout rest (passed.foldl Place.after place) tokens indents allowsKey :=
  @moveTo_append (blockLayout (passed ++ rest) place tokens indents allowsKey) passed rest rfl

/-- One token is taken in. -/
theorem finish_step {layout ready taken : Layout} (hready : layout.advance = ready) {c : Char}
    {rest : List Char} (hrest : ready.rest = c :: rest)
    (htaken : ready.takeToken c rest = some taken) (steps : Nat) :
    finish (steps + 1) layout = finish steps taken := by
  rw [finish, hready, hrest]
  dsimp only
  rw [htaken]
  rfl

/-! ### Gaps -/

/-- A word is no gap. -/
theorem skipGap_word {next : List Char} (hnext : StartsToken next) (allowsKey : Bool) {gap : Gap}
    (hgap : gap ≠ .comment) : skipGap false allowsKey gap next = (allowsKey, next) := by
  cases next with
  | nil => rfl
  | cons c rest =>
    obtain ⟨hspace, hsharp, hmark⟩ := hnext c rest rfl
    obtain ⟨hblank, hbreak⟩ := isSpace_eq_false_iff.mp hspace
    simp only [isBlank, Bool.or_eq_false_iff, decide_eq_false_iff_not] at hblank
    simp [skipGap, hbreak, hgap, hblank, hsharp, hmark]

/-- Spaces before a word are passed over. -/
theorem skipGap_replicate {next : List Char} (hnext : StartsToken next) (allowsKey : Bool)
    {gap : Gap} (hgap : gap ≠ .comment) (count : Nat) :
    skipGap false allowsKey gap (List.replicate count ' ' ++ next) = (allowsKey, next) := by
  induction count generalizing gap with
  | zero => exact skipGap_word hnext allowsKey hgap
  | succ count ih =>
    rw [List.replicate_succ, List.cons_append, skipGap, if_neg (by decide), if_neg hgap,
      if_pos (by simp)]
    exact ih nofun

/-- What is passed over settles where the next token is. -/
theorem advance_of_skipGap {layout : Layout} (hflow : layout.inFlow = false)
    {passed next : List Char} (hrest : layout.rest = passed ++ next) {allowed : Bool}
    (hskip : ∀ gap, gap ≠ .comment →
      skipGap false layout.allowsKey gap (passed ++ next) = (allowed, next)) :
    layout.advance =
      { layout with
        rest := next, place := passed.foldl Place.after layout.place,
        allowsKey := allowed }.closeTo (passed.foldl Place.after layout.place).column := by
  have hread : skipGap layout.inFlow layout.allowsKey
      (if layout.place.column = 0 then .lineStart else .blank) layout.rest = (allowed, next) := by
    rw [hflow, hrest]
    exact hskip _ (by split_ifs <;> nofun)
  rw [advance, hread]
  dsimp only
  rw [moveTo_append hrest]

/-- A layout before a word has arrived there. -/
theorem advance_word {layout : Layout} (hflow : layout.inFlow = false)
    (hword : StartsToken layout.rest) : layout.advance = layout.closeTo layout.place.column :=
  @advance_of_skipGap layout hflow [] layout.rest rfl layout.allowsKey
    fun _ => skipGap_word hword layout.allowsKey

/-- A space before a word on its line is passed over. -/
theorem advance_space {next : List Char} (hnext : StartsToken next) (place : Place)
    (tokens : List Token) (indents : List Nat) (allowsKey : Bool) :
    (blockLayout (' ' :: next) place tokens indents allowsKey).advance =
      (blockLayout next (place.after ' ') tokens indents allowsKey).closeTo
        (place.after ' ').column :=
  @advance_of_skipGap (blockLayout (' ' :: next) place tokens indents allowsKey) rfl [' '] next rfl
    allowsKey fun _ hgap => skipGap_replicate hnext allowsKey hgap 1

/-- The end of a line and the spaces before the next word are passed over. -/
theorem advance_break {next : List Char} (hnext : StartsToken next) (place : Place)
    (tokens : List Token) (indents : List Nat) (allowsKey : Bool) (count : Nat) :
    ∃ after : Place, after.column = count ∧
      (blockLayout ('\n' :: (List.replicate count ' ' ++ next)) place tokens indents
        allowsKey).advance = (blockLayout next after tokens indents true).closeTo count := by
  have hskip (gap : Gap) : skipGap false allowsKey gap
      ('\n' :: List.replicate count ' ' ++ next) = (true, next) := by
    have hstart : Gap.lineStart ≠ .comment := by decide
    rw [List.cons_append, skipGap, if_pos (by decide), skipGap_replicate hnext _ hstart,
      Bool.not_false, Bool.or_true]
  have hcolumn : (('\n' :: List.replicate count ' ').foldl Place.after place).column = count :=
    column_after_break (by decide) [] count place
  have hadvance := @advance_of_skipGap
    (blockLayout ('\n' :: (List.replicate count ' ' ++ next)) place tokens indents allowsKey) rfl
    ('\n' :: List.replicate count ' ') next rfl true fun gap _ => hskip gap
  refine ⟨_, hcolumn, hadvance.trans ?_⟩
  change (blockLayout next _ tokens indents true).closeTo
    (('\n' :: List.replicate count ' ').foldl Place.after place).column = _
  rw [hcolumn]
  rfl

/-- Nothing is closed where no collection is further to the right. -/
theorem closeTo_eq_self {layout : Layout} {column : Nat}
    (hindents : ∀ indent ∈ layout.indents.head?, indent ≤ column) :
    layout.closeTo column = layout := by
  have hclosed :
      layout.indents.takeWhile (fun indent => decide ((column : Int) < Int.ofNat indent)) = [] := by
    cases hlist : layout.indents with
    | nil => rfl
    | cons indent indents =>
      rw [hlist] at hindents
      have hle : indent ≤ column := hindents indent rfl
      refine List.takeWhile_cons_of_neg ?_
      rw [decide_eq_true_eq, Int.ofNat_eq_natCast]
      omega
  rw [closeTo, hclosed]
  split_ifs
  · rfl
  · simp

end Layout

/-! ### Words -/

/-- Whether a character may stand in a key without quotes. -/
def isWordChar (c : Char) : Bool := c.isAlphanum || c = '_'

/-- A key that needs no quotes, and that a colon can make a key. -/
structure IsWord (key : String) : Prop where
  nonempty : key.toList ≠ []
  chars : ∀ c ∈ key.toList, isWordChar c = true
  short : key.toList.length ≤ 1024

theorem ne_of_isWordChar {c d : Char} (hc : isWordChar c = true) (hd : isWordChar d = false) :
    c ≠ d := by
  rintro rfl
  rw [hc] at hd
  contradiction

/-- A character that has a meaning of its own stands in no word. -/
theorem not_mem_of_isWordChar {c : Char} (hc : isWordChar c = true) {marks : List Char}
    (leadingMarks_eq : marks.all (fun d => !isWordChar d) = true) : c ∉ marks := by
  intro hmem
  have := List.all_eq_true.mp leadingMarks_eq c hmem
  rw [hc] at this
  contradiction

theorem isSpace_of_isWordChar {c : Char} (hc : isWordChar c = true) : isSpace c = false := by
  by_contra hspace
  rw [Bool.not_eq_false, isSpace, isBlank, isBreak] at hspace
  simp only [Bool.or_eq_true, decide_eq_true_eq] at hspace
  rcases hspace with (rfl | rfl) | ((rfl | rfl) | rfl) <;> exact absurd hc (by decide)

/-- A plain text ends before its first character only at a colon. -/
theorem endsPlain_first (indent : Int) (column : Nat) (c : Char) (rest : List Char) :
    endsPlain false indent [] column c rest = (decide (c = ':') && endsWord rest) := by
  simp only [endsPlain, List.isEmpty_nil, Bool.not_true, Bool.false_and, Bool.false_or,
    Bool.or_false]

/-- A word is read up to its colon. -/
theorem readPlain_word {chars : List Char} (hchars : ∀ c ∈ chars, isWordChar c = true)
    {rest : List Char} (hrest : endsWord rest = true) (indent : Int) (column : Nat) :
    readPlain false indent [] column (chars ++ ':' :: rest) = some ⟨chars, false, ':' :: rest⟩ := by
  induction chars generalizing column with
  | nil =>
    rw [List.nil_append, readPlain, if_neg (by decide), if_neg (by decide), endsPlain_first, hrest]
    rfl
  | cons c chars ih =>
    rw [List.forall_mem_cons] at hchars
    obtain ⟨hblank, hbreak⟩ := isSpace_eq_false_iff.mp (isSpace_of_isWordChar hchars.1)
    have hcolon : decide (c = ':') = false :=
      decide_eq_false (ne_of_isWordChar hchars.1 (by decide))
    rw [List.cons_append, readPlain, hbreak, hblank, endsPlain_first, hcolon]
    simp only [Bool.false_and, Bool.false_eq_true, if_false, ih hchars.2]
    rfl

namespace Layout

theorem leadingMarks_eq : leadingMarks =
    ['#', ',', '[', ']', '\x7b', '\x7d', '&', '*', '!', '|', '>', '\'', '"', '%', '@', '`'] := rfl

/-- What separates no words and has no meaning of its own may start a plain text. -/
theorem startsPlain_of_not_mem {c : Char} {rest : List Char} (hspace : isSpace c = false)
    (hmark : c ∉ leadingMarks) (hfollowed : c = '-' ∨ c = '?' ∨ c = ':' → endsWord rest = false) :
    startsPlain false c rest = true := by
  have hindicators : indicators = '-' :: '?' :: ':' ::
      [',', '[', ']', '\x7b', '\x7d', '#', '&', '*', '!', '|', '>', '\'', '"', '%', '@', '`'] := rfl
  by_cases hdash : c = '-'
  · have hrest := hfollowed (.inl hdash)
    have hblank : rest.head?.any isBlank = false := by
      cases rest with
      | nil => rfl
      | cons d rest => exact (isSpace_eq_false_iff.mp hrest).1
    simp [startsPlain, hdash, hblank]
  by_cases hword : c = '?' ∨ c = ':'
  · rcases hword with rfl | rfl
    · simp [startsPlain, hfollowed (.inr (.inl rfl))]
    · simp [startsPlain, hfollowed (.inr (.inr rfl))]
  have hplain : c ∉ indicators := by
    rw [leadingMarks_eq] at hmark
    rw [hindicators]
    simp only [List.mem_cons, List.not_mem_nil, or_false, not_or] at hmark hword ⊢
    simp only [hdash, hword, hmark, not_false_eq_true, and_self]
  have hcontains : indicators.contains c = false := by
    rw [← Bool.not_eq_true, List.contains_iff_mem]
    exact hplain
  rw [startsPlain, hspace, hcontains]
  rfl

/-- A plain text is taken in where it may start. -/
theorem takeToken_plain {layout : Layout} (hflow : layout.inFlow = false) {c : Char}
    {rest : List Char} (hspace : isSpace c = false) (hmark : c ∉ leadingMarks)
    (hfollowed : c = '-' ∨ c = '?' ∨ c = ':' → endsWord rest = false)
    (hstart : layout.place.column ≠ 0 ∨ isWordChar c = true) :
    layout.takeToken c rest = layout.takePlain := by
  have hdocument : (decide (layout.place.column = 0) && startsDocument (c :: rest)) = false ∧
      (decide (layout.place.column = 0) && endsDocument (c :: rest)) = false := by
    rcases hstart with hcolumn | hword
    · rw [decide_eq_false hcolumn]
      exact ⟨rfl, rfl⟩
    · have hdash : c ≠ '-' := ne_of_isWordChar hword (by decide)
      have hdot : c ≠ '.' := ne_of_isWordChar hword (by decide)
      have hstart : startsDocument (c :: rest) = false := by
        unfold startsDocument
        split
        · rename_i heq
          exact absurd (List.cons.inj heq).1 hdash
        · rfl
      have hend : endsDocument (c :: rest) = false := by
        unfold endsDocument
        split
        · rename_i heq
          exact absurd (List.cons.inj heq).1 hdot
        · rfl
      rw [hstart, hend, Bool.and_false]
      exact ⟨rfl, rfl⟩
  have hended {d : Char} (hd : d = '-' ∨ d = '?' ∨ d = ':') :
      (decide (c = d) && endsWord rest) = false := by
    rw [Bool.and_eq_false_iff, decide_eq_false_iff_not, or_iff_not_imp_left, not_not]
    rintro rfl
    exact hfollowed hd
  have hplain := startsPlain_of_not_mem hspace hmark hfollowed
  rw [leadingMarks_eq] at hmark
  simp only [List.mem_cons, List.not_mem_nil, or_false, not_or] at hmark
  obtain ⟨hsharp, hcomma, hopen, hclose, hbrace, hend, hanchor, halias, htag, hliteral, hfolded,
    hsingle, hdouble, hpercent, hat, htick⟩ := hmark
  simp only [takeToken, hflow, hpercent, hdocument, hopen, hclose, hbrace, hend, hcomma,
    hended (.inl rfl), hended (.inr (.inl rfl)), hended (.inr (.inr rfl)), hanchor, halias, htag,
    hliteral, hfolded, hsingle, hdouble, hplain, Bool.false_or, decide_false, Bool.and_false,
    Bool.false_and, Bool.false_eq_true, if_false, if_true]

/-! ### Keys -/

/-- Token that opens a mapping for a key, unless the key belongs to one that is open. -/
def opening (column : Nat) (indents : List Nat) : List Token :=
  if indents.head? = some column then [] else [.mappingStart]

/-- Columns of the open collections where a key has been met. -/
def opened (column : Nat) (indents : List Nat) : List Nat :=
  if indents.head? = some column then indents else column :: indents

/-- A token is entered before those after a given number of tokens. -/
theorem insertIdx_length (tokens later : List Token) (token : Token) :
    (tokens ++ later).insertIdx tokens.length token = tokens ++ token :: later := by
  induction tokens with
  | nil => rfl
  | cons first tokens ih =>
    rw [List.cons_append, List.length_cons, List.insertIdx_succ_cons, ih, List.cons_append]

/-- A word is taken in as a node that may be a key. -/
theorem takePlain_word {key : String} (hkey : IsWord key) {rest : List Char}
    (hrest : endsWord rest = true) (place : Place) (tokens : List Token) (indents : List Nat) :
    ∃ possible : PossibleKey, possible.position = tokens.length ∧ possible.place = place ∧
      (blockLayout (key.toList ++ ':' :: rest) place tokens indents true).takePlain =
        some { blockLayout (':' :: rest) (key.toList.foldl Place.after place)
          (tokens ++ [.scalar .plain key]) indents false with key := some possible } := by
  let layout := blockLayout (key.toList ++ ':' :: rest) place tokens indents true
  let possible : PossibleKey :=
    ⟨tokens.length, place, !layout.inFlow && layout.indent = place.column⟩
  have hread : readPlain layout.inFlow (layout.indent + 1) [] layout.place.column layout.rest =
      some ⟨key.toList, false, ':' :: rest⟩ := readPlain_word hkey.chars hrest _ _
  have hnote : layout.noteKey = some { layout with key := some possible } := rfl
  have hmove := @moveTo_append { layout with key := some possible, allowsKey := false }
    key.toList (':' :: rest) rfl
  refine ⟨possible, rfl, rfl, ?_⟩
  change layout.takePlain = _
  rw [takePlain, hread, Option.bind_eq_bind, Option.bind_some, takeNode, hnote]
  simp only [Option.bind_eq_bind, Option.bind_some, take, scalarOf, hmove, String.ofList_toList]
  rfl

/-- A mapping is opened before the tokens of its first key. -/
theorem openAt_length {layout : Layout} (hflow : layout.inFlow = false) {before later : List Token}
    (htokens : layout.tokens = before ++ later) {column : Nat}
    (hindents : ∀ indent ∈ layout.indents.head?, indent ≤ column) :
    layout.openAt column before.length .mappingStart =
      { layout with
        tokens := before ++ (opening column layout.indents ++ later)
        indents := opened column layout.indents } := by
  have hindent : (column : Int) ≤ layout.indent ↔ layout.indents.head? = some column := by
    rw [Layout.indent]
    cases hlist : layout.indents with
    | nil =>
      dsimp only
      exact ⟨fun h => absurd h (by omega), nofun⟩
    | cons indent indents =>
      have hle : indent ≤ column := hindents indent (by rw [hlist]; rfl)
      dsimp only
      rw [List.head?_cons, Option.some.injEq]
      omega
  rw [openAt, hflow, Bool.false_or, opening, opened]
  by_cases hhead : layout.indents.head? = some column
  · rw [if_pos (decide_eq_true (hindent.mpr hhead)), if_pos hhead, if_pos hhead, List.nil_append,
      ← htokens]
  · rw [if_neg (mt (fun h => hindent.mp (of_decide_eq_true h)) hhead), if_neg hhead, if_neg hhead,
      insert, htokens, insertIdx_length]
    rfl

/-- The colon after a node that may be a key makes it one. -/
theorem takeValue_key {rest : List Char} {place : Place} {tokens : List Token} {node : Token}
    {indents : List Nat} {possible : PossibleKey} (hposition : possible.position = tokens.length)
    (hline : possible.place.line = place.line)
    (hindex : place.index ≤ possible.place.index + 1024)
    (hindents : ∀ indent ∈ indents.head?, indent ≤ possible.place.column) :
    ({ blockLayout (':' :: rest) place (tokens ++ [node]) indents false with
        key := some possible } : Layout).takeValue =
      some (blockLayout rest (place.after ':')
        (tokens ++ (opening possible.place.column indents ++ [.key, node, .value]))
        (opened possible.place.column indents) false) := by
  let layout : Layout :=
    { blockLayout (':' :: rest) place (tokens ++ [node]) indents false with key := some possible }
  have hstale : layout.isStale possible = false := by
    rw [isStale, Bool.or_eq_false_iff, decide_eq_false_iff_not, decide_eq_false_iff_not]
    exact ⟨by rw [hline]; exact Nat.lt_irrefl _, Nat.not_lt.mpr hindex⟩
  have hkey : layout.keyHere = some (some possible) := by
    change (if !layout.isStale possible then some (some possible) else _) = _
    rw [hstale]
    rfl
  have hinsert : (layout.insert possible.position .key).tokens = tokens ++ [.key, node] := by
    rw [hposition]
    exact insertIdx_length tokens [node] .key
  have hopened := @openAt_length (layout.insert possible.position .key) rfl _ _ hinsert _
    hindents
  change layout.takeValue = _
  rw [takeValue, hkey, Option.bind_eq_bind, Option.bind_some]
  dsimp only
  rw [hposition] at hopened ⊢
  rw [hopened]
  have hskip (tokens : List Token) (indents : List Nat) :
      (blockLayout (':' :: rest) place tokens indents false).skip 1 =
        blockLayout rest (place.after ':') tokens indents false :=
    moveTo_block [':'] rest place tokens indents false
  change some (emit (skip (blockLayout (':' :: rest) place
    (tokens ++ (opening possible.place.column indents ++ [.key, node]))
    (opened possible.place.column indents) false) 1) .value) = _
  rw [hskip, emit]
  simp [blockLayout]

/-- A colon is taken in where a word ends behind it. -/
theorem takeToken_colon (layout : Layout) {rest : List Char} (hrest : endsWord rest = true) :
    layout.takeToken ':' rest = layout.takeValue := by
  simp [takeToken, startsDocument, endsDocument, hrest]

/-- A key takes two steps. -/
theorem finish_key {key : String} (hkey : IsWord key) {layout : Layout} {rest : List Char}
    {place : Place} {tokens : List Token} {indents : List Nat}
    (hready : layout.advance = blockLayout (key.toList ++ ':' :: rest) place tokens indents true)
    (hindents : ∀ indent ∈ indents.head?, indent ≤ place.column) (hrest : endsWord rest = true) :
    ∃ after : Place, place.column < after.column ∧ ∀ steps,
      finish (steps + 2) layout =
        finish steps (blockLayout rest after
          (tokens ++ (opening place.column indents ++ [.key, .scalar .plain key, .value]))
          (opened place.column indents) false) := by
  obtain ⟨c, tail, hchars⟩ := List.exists_cons_of_ne_nil hkey.nonempty
  have hword : isWordChar c = true := hkey.chars c (hchars ▸ List.mem_cons_self)
  obtain ⟨possible, hposition, hplace, hplain⟩ := takePlain_word hkey hrest place tokens indents
  let word := key.toList.foldl Place.after place
  have hafter : word =
      ⟨place.index + key.toList.length, place.line, place.column + key.toList.length⟩ :=
    foldl_after_line (fun d hd => (isSpace_eq_false_iff.mp
      (isSpace_of_isWordChar (hkey.chars d hd))).2) place
  let taken : Layout :=
    { blockLayout (':' :: rest) word (tokens ++ [.scalar .plain key]) indents false with
      key := some possible }
  have hfirst (steps : Nat) : finish (steps + 1) layout = finish steps taken := by
    have hrest : key.toList ++ ':' :: rest = c :: (tail ++ ':' :: rest) := by
      rw [hchars]
      rfl
    refine finish_step hready hrest ?_ steps
    · rw [takeToken_plain rfl (isSpace_of_isWordChar hword) ?_ ?_ (.inr hword), hplain]
      · exact not_mem_of_isWordChar hword (by decide)
      · rintro (rfl | rfl | rfl) <;> exact absurd hword (by decide)
  have hcolon : taken.advance = taken := by
    have hstarts : StartsToken taken.rest :=
      startsToken_cons (by decide) (by decide) (by decide) rest
    rw [advance_word rfl hstarts]
    refine closeTo_eq_self fun indent hindent => (hindents indent hindent).trans ?_
    change place.column ≤ word.column
    rw [hafter]
    exact Nat.le_add_right _ _
  have hsecond (steps : Nat) : finish (steps + 1) taken =
      finish steps (blockLayout rest (word.after ':')
        (tokens ++ (opening place.column indents ++ [.key, .scalar .plain key, .value]))
        (opened place.column indents) false) := by
    have hline : possible.place.line = word.line := by rw [hplace, hafter]
    have hindex : word.index ≤ possible.place.index + 1024 := by
      rw [hplace, hafter]
      exact Nat.add_le_add_left hkey.short _
    have hvalue := @takeValue_key rest word tokens (.scalar .plain key) indents possible hposition
      hline hindex (by rw [hplace]; exact hindents)
    rw [hplace] at hvalue
    exact finish_step hcolon rfl ((takeToken_colon taken hrest).trans hvalue) steps
  refine ⟨word.after ':', ?_, fun steps => ?_⟩
  · change place.column < word.column + 1
    rw [hafter]
    exact Nat.lt_succ_of_le (Nat.le_add_right _ _)
  · rw [← Nat.add_assoc steps 1 1, hfirst, hsecond]

end Layout

end ForeignMatrix.Yaml
