import ForeignMatrix.Document.Yaml.Written
import ForeignMatrix.Proofs.Encoding
import Mathlib

/-!
# Written YAML texts of one line are read back

Plain texts and texts between quotes, each read up to its end. A run of spaces
within a text stands for itself, and so does a run of line breaks that are no
line feeds; a text in which the two kinds meet is never written in these styles.
-/

namespace ForeignMatrix.Yaml

/-! ### Characters -/

theorem isSpace_eq_false_iff {c : Char} :
    isSpace c = false ↔ isBlank c = false ∧ isBreak c = false := by
  rw [isSpace, Bool.or_eq_false_iff]

theorem isSpace_space : isSpace ' ' = true := by decide

/-- A character that can be written and separates words is a space or ends a line. -/
theorem eq_space_or_isBreak {c : Char} (hc : isWritable c = true) (hspace : isSpace c = true) :
    c = ' ' ∨ isBreak c = true := by
  rw [isSpace, Bool.or_eq_true, isBlank, Bool.or_eq_true, decide_eq_true_eq,
    decide_eq_true_eq] at hspace
  rcases hspace with (rfl | rfl) | hbreak
  · exact .inl rfl
  · exact absurd hc (by decide)
  · exact .inr hbreak

/-- Readers of a word stop where another reader is to go on. -/
def StartsWord (input : List Char) : Prop := ∀ c rest, input = c :: rest → isSpace c = false

/-! ### Runs of blanks and breaks -/

/-- A run of spaces. -/
def IsBlankRun (run : List Char) : Prop := ∀ c ∈ run, c = ' '

/-- A run of breaks, none of them a line feed. -/
def IsBreakRun (run : List Char) : Prop := ∀ c ∈ run, isBreak c = true ∧ c ≠ '\n'

theorem IsBlankRun.filter {run : List Char} (hrun : IsBlankRun run) :
    run.filter isBreak = [] :=
  List.filter_eq_nil_iff.mpr fun c hc => by rw [hrun c hc]; decide

/-- A run of spaces stands for itself. -/
theorem IsBlankRun.fold {run : List Char} (hrun : IsBlankRun run) : foldRun run = run := by
  rw [foldRun, hrun.filter]

theorem IsBlankRun.append {run : List Char} (hrun : IsBlankRun run) :
    IsBlankRun (run ++ [' ']) := by
  intro c hc
  rcases List.mem_append.mp hc with hc | hc
  · exact hrun c hc
  · exact List.mem_singleton.mp hc

theorem isBlankRun_replicate (count : Nat) : IsBlankRun (List.replicate count ' ') :=
  fun _ hc => List.eq_of_mem_replicate hc

/-- Text after a run of spaces is not at the start of its line. -/
theorem IsBlankRun.atLineStart {run : List Char} (hrun : IsBlankRun run) :
    atLineStart run = false := by
  rw [Yaml.atLineStart, Option.any_eq_false]
  intro c hc
  rw [hrun c (List.mem_of_getLast? hc)]
  decide

/-- A run of breaks stands for itself, also with the indentation of the line after it. -/
theorem IsBreakRun.fold_indented {run : List Char} (hrun : IsBreakRun run) (hne : run ≠ [])
    (indent : Nat) : foldRun (run ++ List.replicate indent ' ') = run := by
  have hfilter : (run ++ List.replicate indent ' ').filter isBreak = run := by
    rw [List.filter_append, (isBlankRun_replicate indent).filter, List.append_nil]
    exact List.filter_eq_self.mpr fun c hc => (hrun c hc).1
  obtain ⟨c, rest, rfl⟩ := List.exists_cons_of_ne_nil hne
  have hc : c ≠ '\n' := (hrun c List.mem_cons_self).2
  rw [foldRun, hfilter]
  split
  · contradiction
  · rename_i heq
    exact absurd (List.cons.inj heq).1 hc
  · rename_i heq
    exact absurd (List.cons.inj heq).1 hc
  · rfl

/-- Text after indentation is not at the start of its line. -/
theorem atLineStart_indented (run : List Char) {indent : Nat} (hindent : 0 < indent) :
    atLineStart (run ++ List.replicate indent ' ') = false := by
  obtain ⟨count, rfl⟩ := Nat.exists_eq_add_of_lt hindent
  rw [Nat.zero_add, List.replicate_succ', ← List.append_assoc, atLineStart, List.getLast?_concat]
  rfl

/-! ### Plain texts -/

/-- Spaces are added to the run before a plain text. -/
theorem readPlain_replicate (indent : Int) (run : List Char) (column count : Nat)
    (rest : List Char) :
    readPlain false indent run column (List.replicate count ' ' ++ rest) =
      readPlain false indent (run ++ List.replicate count ' ') (column + count) rest := by
  induction count generalizing run column with
  | zero => rw [List.replicate_zero, List.nil_append, List.append_nil, Nat.add_zero]
  | succ count ih =>
    rw [List.replicate_succ, List.cons_append, readPlain, if_neg (by decide), if_pos (by decide),
      if_neg (by simp), ih, List.append_assoc, List.singleton_append, Nat.add_right_comm,
      Nat.add_assoc]

/-- A plain text ends with its line where the next line is indented less. -/
theorem readPlain_end {indent : Int} {count : Nat} (hcount : (count : Int) < indent)
    (column : Nat) {next : List Char} (hnext : StartsWord next) :
    readPlain false indent [] column ('\n' :: (List.replicate count ' ' ++ next)) =
      some ⟨[], true, next⟩ := by
  rw [readPlain, if_pos (by decide), readPlain_replicate]
  cases next with
  | nil => rfl
  | cons c rest =>
    obtain ⟨hblank, hbreak⟩ := isSpace_eq_false_iff.mp (hnext c rest rfl)
    have hends : endsPlain false indent ('\n' :: List.replicate count ' ') count c rest = true := by
      simp [endsPlain, hcount]
    rw [readPlain, hbreak, hblank]
    simp only [List.nil_append, List.singleton_append, Nat.zero_add, hends]
    rfl

theorem endsWord_append_break (text rest : List Char) :
    endsWord (text ++ '\n' :: rest) = isFollowed text := by
  cases text with
  | nil => rfl
  | cons c text => rfl

/-- A plain text goes on within its line where there is no inner mark. -/
theorem endsPlain_within {before c : Char} {run text : List Char}
    (hcolon : (decide (c = ':') && isFollowed text) = false)
    (hsharp : (decide (c = '#') && isSpace before) = false) (hbefore : run ≠ [] → before = ' ')
    {indent column : Nat} (hcolumn : indent ≤ column) (hpositive : 0 < column)
    (rest : List Char) :
    endsPlain false indent run column c (text ++ '\n' :: rest) = false := by
  simp only [endsPlain, endsWord_append_break, hcolon, Bool.false_and, Bool.or_false]
  cases run with
  | nil => rfl
  | cons d run =>
    have hcomment : c ≠ '#' := by
      rintro rfl
      rw [hbefore (List.cons_ne_nil _ _)] at hsharp
      exact absurd hsharp (by decide)
    simp only [hcomment, hpositive.ne', decide_false, Bool.false_and, Bool.or_false]
    simp [hcolumn]

/-- A plain text is read up to the end of its line. The run holds the spaces right before the
rest of the text, and `before` is the character before that rest. -/
theorem readPlain_chars {indent : Nat} {text : List Char}
    (hwritable : ∀ c ∈ text, isWritable c = true) (hbreak : ∀ c ∈ text, isBreak c = false)
    {before : Char} (hmark : hasInnerMark before text = false) {run : List Char}
    (hrun : IsBlankRun run) (hbefore : run ≠ [] → before = ' ')
    (hlast : (run ++ text).getLast? ≠ some ' ') {column : Nat} (hcolumn : indent ≤ column)
    (hpositive : 0 < column) {count : Nat} (hcount : count < indent) {next : List Char}
    (hnext : StartsWord next) :
    readPlain false indent run column (text ++ '\n' :: (List.replicate count ' ' ++ next)) =
      some ⟨run ++ text, true, next⟩ := by
  induction text generalizing before run column with
  | nil =>
    have hrun : run = [] := by
      by_contra hne
      rw [List.append_nil, List.getLast?_eq_some_getLast hne] at hlast
      exact hlast (congrArg some (hrun _ (List.getLast_mem hne)))
    subst hrun
    exact readPlain_end (Int.ofNat_lt.mpr hcount) column hnext
  | cons c text ih =>
    rw [hasInnerMark, Bool.or_eq_false_iff, Bool.or_eq_false_iff] at hmark
    obtain ⟨⟨hcolon, hsharp⟩, hmark⟩ := hmark
    have hc : isBreak c = false := hbreak c List.mem_cons_self
    have ih := @ih (fun d hd => hwritable d (List.mem_cons_of_mem _ hd))
      (fun d hd => hbreak d (List.mem_cons_of_mem _ hd)) c hmark
    rw [List.cons_append, readPlain, hc, if_neg Bool.false_ne_true]
    cases hblank : isBlank c with
    | true =>
      have hspace : isSpace c = true := by rw [isSpace, hblank, Bool.true_or]
      obtain rfl : c = ' ' :=
        (eq_space_or_isBreak (hwritable c List.mem_cons_self) hspace).resolve_right
          (by rw [hc]; exact Bool.false_ne_true)
      rw [if_pos rfl, if_neg (by simp),
        ih hrun.append (fun _ => rfl) (by simpa using hlast) (by omega) (by omega),
        List.append_assoc, List.singleton_append]
    | false =>
      have hends := endsPlain_within hcolon hsharp hbefore hcolumn hpositive
        (List.replicate count ' ' ++ next)
      have hlast : ([] ++ text).getLast? ≠ some ' ' := by
        intro h
        rw [List.nil_append] at h
        rw [List.getLast?_append, List.getLast?_cons, h] at hlast
        exact hlast rfl
      rw [if_neg Bool.false_ne_true, hends, if_neg Bool.false_ne_true, if_neg (by simp),
        ih (fun _ h => absurd h List.not_mem_nil) (fun h => absurd rfl h) hlast (by omega)
          (by omega), hrun.fold]
      rfl

/-- What is known of a text that can stand without quotes. -/
structure IsPlain (text : List Char) : Prop where
  writable : ∀ c ∈ text, isWritable c = true
  line : ∀ c ∈ text, isBreak c = false
  start : text.head? ≠ some ' '
  finish : text.getLast? ≠ some ' '
  leading : hasLeadingMark text = false
  inner : ∀ c rest, text = c :: rest → hasInnerMark c rest = false

theorem isPlain_of_canBePlain {text : List Char} (hplain : canBePlain text = true) :
    IsPlain text := by
  simp only [canBePlain, needsDouble, Bool.and_eq_true, Bool.not_eq_true', Bool.or_eq_false_iff,
    Bool.not_eq_false', List.all_eq_true, List.any_eq_false, Bool.not_eq_true, ne_eq,
    decide_not, decide_eq_false_iff_not] at hplain
  obtain ⟨⟨⟨⟨⟨⟨hwritable, -⟩, hbreak⟩, hstart⟩, hfinish⟩, hleading⟩, hinner⟩ := hplain
  refine ⟨hwritable, hbreak, hstart, hfinish, hleading, ?_⟩
  rintro c rest rfl
  simpa using hinner

/-- No text that can stand without quotes begins with a space or a break. -/
theorem IsPlain.startsWord {text : List Char} (hplain : IsPlain text) : StartsWord text := by
  rintro c rest rfl
  by_contra hspace
  rw [Bool.not_eq_false] at hspace
  rcases eq_space_or_isBreak (hplain.writable c List.mem_cons_self) hspace with rfl | hbreak
  · exact hplain.start rfl
  · rw [hplain.line c List.mem_cons_self] at hbreak
    contradiction

/-- A text that can stand without quotes is read up to the end of its line. -/
theorem IsPlain.read {text : List Char} (hplain : IsPlain text) {indent column : Nat}
    (hcolumn : indent ≤ column) (hpositive : 0 < column) {count : Nat} (hcount : count < indent)
    {next : List Char} (hnext : StartsWord next) :
    readPlain false indent [] column (text ++ '\n' :: (List.replicate count ' ' ++ next)) =
      some ⟨text, true, next⟩ := by
  have hmark : hasInnerMark 'a' text = false := by
    cases text with
    | nil => rfl
    | cons c rest =>
      have hleading := hplain.leading
      have hfirst : (c = ':' && isFollowed rest) = false := by
        by_contra h
        simp only [Bool.not_eq_false, Bool.and_eq_true, decide_eq_true_eq] at h
        obtain ⟨rfl, hfollowed⟩ := h
        simp [hasLeadingMark, hfollowed] at hleading
      rw [hasInnerMark, hfirst, hplain.inner c rest rfl]
      simp [isSpace, isBlank, isBreak]
  exact readPlain_chars hplain.writable hplain.line hmark (fun _ h => absurd h List.not_mem_nil)
    (fun h => absurd rfl h) hplain.finish hcolumn hpositive hcount hnext

/-! ### Texts between single quotes -/

/-- The characters right before the rest of a text between single quotes: breaks where a line has
just ended, else spaces. -/
def IsRun : Bool → List Char → Prop
  | true, run => run ≠ [] ∧ IsBreakRun run
  | false, run => IsBlankRun run

/-- Indentation that is written before a character. -/
def indentation (indent : Nat) (broke : Bool) : List Char :=
  if broke then List.replicate indent ' ' else []

/-- A space or a break is added to the run. -/
theorem readSingle_space {c : Char} (hc : isSpace c = true) (run rest : List Char) :
    readSingle run (c :: rest) = readSingle (run ++ [c]) rest := by
  rw [readSingle.eq_def]
  exact if_pos hc

/-- Any other character is read as itself, a quote apart. -/
theorem readSingle_char {c : Char} (hc : isSpace c = false) (hquote : c ≠ '\'')
    {run : List Char} (hrun : atLineStart run = false) (rest : List Char) :
    readSingle run (c :: rest) =
      (readSingle [] rest).map fun read => (foldRun run ++ c :: read.1, read.2) := by
  rw [readSingle.eq_def]
  simp only [hc, hrun, hquote, Bool.false_and, Bool.false_eq_true, if_false]
  rw [Option.map_eq_bind]
  rfl

/-- Two quotes are read as one. -/
theorem readSingle_quotes {run : List Char} (hrun : atLineStart run = false) (rest : List Char) :
    readSingle run ('\'' :: '\'' :: rest) =
      (readSingle [] rest).map fun read => (foldRun run ++ '\'' :: read.1, read.2) := by
  have hspace : isSpace '\'' = false := by decide
  rw [readSingle.eq_def]
  simp only [hspace, hrun, Bool.false_and, Bool.false_eq_true, if_false, if_true]
  rw [Option.map_eq_bind]
  rfl

/-- A single quote ends the text. -/
theorem readSingle_end {run : List Char} (hrun : atLineStart run = false) {rest : List Char}
    (hrest : rest.head? ≠ some '\'') :
    readSingle run ('\'' :: rest) = some (foldRun run, rest) := by
  have hspace : isSpace '\'' = false := by decide
  rw [readSingle.eq_def]
  simp only [hspace, hrun, Bool.false_and, Bool.false_eq_true, if_false, if_true]
  split
  · exact absurd rfl hrest
  · rfl

/-- Indentation is added to the run before a text. -/
theorem readSingle_indentation (indent : Nat) (broke : Bool) (run rest : List Char) :
    readSingle run (indentation indent broke ++ rest) =
      readSingle (run ++ indentation indent broke) rest := by
  cases broke with
  | false => rw [indentation, if_neg Bool.false_ne_true, List.nil_append, List.append_nil]
  | true =>
    rw [indentation, if_pos rfl]
    induction indent generalizing run with
    | zero => rw [List.replicate_zero, List.nil_append, List.append_nil]
    | succ indent ih =>
      rw [List.replicate_succ, List.cons_append, readSingle_space isSpace_space, ih,
        List.append_assoc, List.singleton_append]

/-- With the indentation of its line, a run stands for itself and is followed by text. -/
theorem IsRun.indented {broke : Bool} {run : List Char} (hrun : IsRun broke run) {indent : Nat}
    (hindent : 0 < indent) :
    foldRun (run ++ indentation indent broke) = run ∧
      atLineStart (run ++ indentation indent broke) = false := by
  cases broke with
  | true => exact ⟨hrun.2.fold_indented hrun.1 indent, atLineStart_indented run hindent⟩
  | false =>
    have hnone : run ++ indentation indent false = run := List.append_nil run
    rw [hnone]
    exact ⟨IsBlankRun.fold hrun, IsBlankRun.atLineStart hrun⟩

/-- The end of a text without certain neighbours has none of them. -/
theorem hasNeighbours_of_append {first second : Char → Bool} {run rest : List Char}
    (h : hasNeighbours first second (run ++ rest) = false) :
    hasNeighbours first second rest = false := by
  induction run with
  | nil => exact h
  | cons c run ih =>
    refine ih ?_
    cases hrest : run ++ rest with
    | nil => rfl
    | cons d tail =>
      rw [List.cons_append, hrest, hasNeighbours, Bool.or_eq_false_iff] at h
      exact h.2

theorem not_neighbours {first second : Char → Bool} {run rest : List Char} {a b : Char}
    (h : hasNeighbours first second (run ++ a :: b :: rest) = false) :
    (first a && second b) = false := by
  have hend := hasNeighbours_of_append h
  rw [hasNeighbours, Bool.or_eq_false_iff] at hend
  exact hend.1

/-- What is known of a text that can stand between single quotes. -/
structure IsSingle (text : List Char) : Prop where
  writable : ∀ c ∈ text, isWritable c = true
  noFeed : '\n' ∉ text
  noSpaceBreak : hasSpaceBreak text = false
  noBreakSpace : hasBreakSpace text = false

theorem IsSingle.of_append {run text : List Char} (hsingle : IsSingle (run ++ text)) :
    IsSingle text where
  writable c hc := hsingle.writable c (List.mem_append_right _ hc)
  noFeed h := hsingle.noFeed (List.mem_append_right _ h)
  noSpaceBreak := hasNeighbours_of_append hsingle.noSpaceBreak
  noBreakSpace := hasNeighbours_of_append hsingle.noBreakSpace

theorem isSingle_of_canBeSingle {text : List Char} (hsingle : canBeSingle text = true)
    (hfeed : text.contains '\n' = false) : IsSingle text := by
  simp only [canBeSingle, needsDouble, Bool.and_eq_true, Bool.not_eq_true', Bool.or_eq_false_iff,
    Bool.not_eq_false', List.all_eq_true] at hsingle
  obtain ⟨⟨hwritable, hspace⟩, hbreak⟩ := hsingle
  exact ⟨hwritable, by simpa using hfeed, hspace, hbreak⟩

/-- A run that one more space or break belongs to is kept up by it. -/
theorem IsRun.concat {broke : Bool} {run text : List Char} {c : Char} (hrun : IsRun broke run)
    (hsingle : IsSingle (run ++ c :: text)) (hspace : isSpace c = true) :
    IsRun (isBreak c) (run ++ [c]) := by
  have hfeed : c ≠ '\n' := by
    rintro rfl
    exact hsingle.noFeed (by simp)
  have hsplit (init : List Char) (last : Char) (hinit : run = init ++ [last]) :
      run ++ c :: text = init ++ last :: c :: text := by
    rw [hinit, List.append_assoc, List.singleton_append]
  rcases eq_space_or_isBreak (hsingle.writable c (by simp)) hspace with rfl | hbreak
  · -- A break right before the space would be a mixed neighbour.
    cases broke with
    | false => exact IsBlankRun.append hrun
    | true =>
      obtain ⟨init, last, hinit⟩ := (List.eq_nil_or_concat' run).resolve_left hrun.1
      have hlast := not_neighbours ((hsplit init last hinit) ▸ hsingle.noBreakSpace)
      rw [(hrun.2 last (by rw [hinit]; simp)).1] at hlast
      exact absurd hlast (by decide)
  · rw [hbreak]
    refine ⟨List.append_ne_nil_of_right_ne_nil _ (List.cons_ne_nil _ _), fun d hd => ?_⟩
    rcases List.mem_append.mp hd with hd | hd
    · cases broke with
      | true => exact hrun.2 d hd
      | false =>
        obtain ⟨init, last, hinit⟩ :=
          (List.eq_nil_or_concat' run).resolve_left (List.ne_nil_of_mem hd)
        have hlast := not_neighbours ((hsplit init last hinit) ▸ hsingle.noSpaceBreak)
        rw [hrun last (by rw [hinit]; simp), hbreak] at hlast
        exact absurd hlast (by decide)
    · rw [List.mem_singleton.mp hd]
      exact ⟨hbreak, hfeed⟩

/-- No text between single quotes has a space at the start of a later line. -/
theorem IsRun.eq_false {broke : Bool} {run : List Char} (hrun : IsRun broke run)
    (hblank : IsBlankRun (run ++ [' '])) : broke = false := by
  cases broke with
  | false => rfl
  | true =>
    obtain ⟨c, rest, rfl⟩ := List.exists_cons_of_ne_nil hrun.1
    have hc := (hrun.2 c List.mem_cons_self).1
    rw [hblank c List.mem_cons_self] at hc
    exact absurd hc (by decide)

/-- The body of a text between single quotes is read up to the closing quote. -/
theorem readSingle_body {indent : Nat} (hindent : 0 < indent) {rest : List Char}
    (hrest : rest.head? ≠ some '\'') {text run : List Char} {broke : Bool}
    (hrun : IsRun broke run) (hsingle : IsSingle (run ++ text)) :
    readSingle run (singleBody indent broke text ++ '\'' :: rest) = some (run ++ text, rest) := by
  induction text generalizing run broke with
  | nil =>
    obtain ⟨hfold, hstart⟩ := hrun.indented hindent
    have hbody : singleBody indent broke [] = indentation indent broke := rfl
    rw [hbody, readSingle_indentation, readSingle_end hstart hrest, hfold, List.append_nil]
  | cons c text ih =>
    have happend : run ++ c :: text = run ++ [c] ++ text := by
      rw [List.append_assoc, List.singleton_append]
    cases hspace : isSpace c with
    | true =>
      have hnext := hrun.concat hsingle hspace
      have ih := ih hnext (happend ▸ hsingle)
      rw [happend, ← ih]
      rcases eq_space_or_isBreak (hsingle.writable c (by simp)) hspace with rfl | hbreak
      · have hbroke := hrun.eq_false hnext
        rw [hbroke, singleBody, if_neg (by decide), if_neg Bool.false_ne_true,
          if_neg (by decide)]
        exact readSingle_space hspace _ _
      · rw [singleBody, if_pos hbreak, List.cons_append, readSingle_space hspace, hbreak]
    | false =>
      have hbreak : isBreak c = false := (isSpace_eq_false_iff.mp hspace).2
      obtain ⟨hfold, hstart⟩ := hrun.indented hindent
      have hlater : IsSingle text := (happend ▸ hsingle).of_append
      have ih := @ih [] false (fun _ h => absurd h List.not_mem_nil) hlater
      rw [singleBody, hbreak, if_neg Bool.false_ne_true, List.append_assoc, List.append_assoc]
      change readSingle run (indentation indent broke ++ _) = _
      rw [readSingle_indentation]
      split_ifs with hquote
      · rw [hquote, List.cons_append, List.cons_append, List.nil_append, readSingle_quotes hstart,
          ih, hfold]
        rfl
      · rw [List.cons_append, List.nil_append, readSingle_char hspace hquote hstart, ih, hfold]
        rfl

/-! ### Texts between double quotes -/

/-- Characters that are escaped by a letter, with the letters. -/
def letterEscapes : List (Char × Char) :=
  [('\x00', '0'), ('\x07', 'a'), ('\x08', 'b'), ('\t', 't'), ('\n', 'n'), ('\x0b', 'v'),
    ('\x0c', 'f'), ('\r', 'r'), ('\x1b', 'e'), ('"', '"'), ('\\', '\\'), ('\u0085', 'N'),
    ('\u2028', 'L'), ('\u2029', 'P')]

/-- Every letter is written for its character, and read as it. -/
theorem escapeOf_letter : ∀ pair ∈ letterEscapes,
    escapeOf pair.1 = ['\\', pair.2] ∧ isBreak pair.2 = false ∧ codeLength? pair.2 = none ∧
      escaped? pair.2 = some pair.1 := by
  decide

/-- A character without a letter is written as it is or by its number. -/
theorem escapeOf_other {c : Char} (hc : c ∉ letterEscapes.map Prod.fst) :
    escapeOf c =
      if isWritable c then [c]
      else if c.toNat ≤ 0xff then '\\' :: 'x' :: Text.toUpperHex 2 c.toNat
      else if c.toNat ≤ 0xffff then '\\' :: 'u' :: Text.toUpperHex 4 c.toNat
      else '\\' :: 'U' :: Text.toUpperHex 8 c.toNat := by
  simp only [letterEscapes, List.map_cons, List.map_nil, List.mem_cons, List.not_mem_nil,
    or_false, not_or] at hc
  simp only [escapeOf, hc, if_false]

/-- A character is escaped by a letter or by its number, or stands for itself. -/
theorem escapeOf_cases (c : Char) :
    (∃ mark, escapeOf c = ['\\', mark] ∧ isBreak mark = false ∧ codeLength? mark = none ∧
      escaped? mark = some c) ∨
    (∃ mark width, escapeOf c = '\\' :: mark :: Text.toUpperHex width c.toNat ∧
      isBreak mark = false ∧ codeLength? mark = some width ∧ 0 < width ∧ c.toNat < 16 ^ width) ∨
    (escapeOf c = [c] ∧ c ≠ '"' ∧ c ≠ '\\' ∧ (isSpace c = true → c = ' ')) := by
  by_cases hletter : c ∈ letterEscapes.map Prod.fst
  · obtain ⟨pair, hpair, rfl⟩ := List.mem_map.mp hletter
    exact .inl ⟨pair.2, escapeOf_letter pair hpair⟩
  rw [escapeOf_other hletter]
  split_ifs with hwritable hshort hmiddle
  · simp only [letterEscapes, List.map_cons, List.map_nil, List.mem_cons, List.not_mem_nil,
      or_false, not_or] at hletter
    obtain ⟨-, -, -, -, hline, -, -, -, -, hquote, hslash, -, hseparator, hparagraph⟩ := hletter
    refine .inr (.inr ⟨rfl, hquote, hslash, fun hspace => ?_⟩)
    refine (eq_space_or_isBreak hwritable hspace).resolve_right ?_
    simp [isBreak, hline, hseparator, hparagraph]
  · exact .inr (.inl ⟨'x', 2, rfl, by decide, rfl, by decide, by omega⟩)
  · exact .inr (.inl ⟨'u', 4, rfl, by decide, rfl, by decide, by omega⟩)
  · have hlarge : c.toNat < 16 ^ 8 := UInt32.toNat_lt c.val
    exact .inr (.inl ⟨'U', 8, rfl, by decide, rfl, by decide, hlarge⟩)

/-- Digits that spell a character are read as the character. -/
theorem readDouble_code (rest : List Char) {c : Char} {digits : List Char} {value : Nat}
    (hne : digits ≠ [])
    (hdigits : digits.foldlM (fun number d => (Text.hexValue? d).map (number * 16 + ·)) value =
      some c.toNat) :
    readDouble (.code digits.length value) (digits ++ rest) =
      (readDouble (.run false []) rest).map fun read => (c :: read.1, read.2) := by
  refine @Text.read_code (fun missing value => readDouble (.code missing value))
    (readDouble (.run false [])) (fun missing value d input => ?_) rest c digits value hne hdigits
  rw [readDouble]
  simp only [Option.map_eq_bind]
  rfl

/-- An escape after a run of spaces is read behind the run. -/
theorem readDouble_slash {run : List Char} (hrun : IsBlankRun run) (rest : List Char) :
    readDouble (.run false run) ('\\' :: rest) =
      (readDouble .escape rest).map fun read => (run ++ read.1, read.2) := by
  have hspace : isSpace '\\' = false := by decide
  rw [readDouble.eq_def]
  simp only [hspace, hrun.atLineStart, hrun.fold, Bool.false_and, Bool.or_self, Bool.false_eq_true,
    if_false, if_true]
  rw [if_neg (by decide), Option.map_eq_bind]
  rfl

/-- A space is added to the run. -/
theorem readDouble_space (run rest : List Char) :
    readDouble (.run false run) (' ' :: rest) = readDouble (.run false (run ++ [' '])) rest := by
  rw [readDouble.eq_def]
  exact if_pos isSpace_space

/-- What a character was written as is read as the character. The run holds the spaces right
before it. -/
theorem readDouble_escapeOf {run : List Char} (hrun : IsBlankRun run) {c : Char}
    (hspace : c ≠ ' ') (rest : List Char) :
    readDouble (.run false run) (escapeOf c ++ rest) =
      (readDouble (.run false []) rest).map fun read => (run ++ c :: read.1, read.2) := by
  rcases escapeOf_cases c with ⟨mark, hmark, hbreak, hlength, hescaped⟩ |
    ⟨mark, width, hmark, hbreak, hlength, hwidth, hc⟩ | ⟨hmark, hquote, hslash, hplain⟩
  · have hread : readDouble .escape (mark :: rest) =
        (readDouble (.run false []) rest).map fun read => (c :: read.1, read.2) := by
      rw [readDouble.eq_def]
      simp only [hbreak, Bool.false_eq_true, if_false, hlength, hescaped]
      rw [Option.map_eq_bind]
      rfl
    rw [hmark, List.cons_append, List.cons_append, List.nil_append, readDouble_slash hrun, hread,
      Option.map_map]
    rfl
  · have hnumber : (Text.toUpperHex width c.toNat).foldlM
        (fun number d => (Text.hexValue? d).map (number * 16 + ·)) 0 = some c.toNat := by
      have hread := Text.ofHex?_toUpperHex width c.toNat
      rwa [Nat.mod_eq_of_lt hc] at hread
    have hdigits := Text.length_toUpperHex width c.toNat
    have hne : Text.toUpperHex width c.toNat ≠ [] := by
      rw [← List.length_pos_iff, hdigits]
      exact hwidth
    have hcode := readDouble_code rest hne hnumber
    rw [hdigits] at hcode
    have hread : readDouble .escape (mark :: (Text.toUpperHex width c.toNat ++ rest)) =
        (readDouble (.run false []) rest).map fun read => (c :: read.1, read.2) := by
      rw [readDouble.eq_def]
      simp only [hbreak, Bool.false_eq_true, if_false, hlength, hcode]
    rw [hmark, List.cons_append, List.cons_append, readDouble_slash hrun, hread, Option.map_map]
    rfl
  · have hword : isSpace c = false := by
      rw [← Bool.not_eq_true]
      exact fun h => hspace (hplain h)
    rw [hmark, List.cons_append, List.nil_append, readDouble.eq_def]
    simp only [hword, hrun.atLineStart, hrun.fold, hquote, hslash, Bool.false_and, Bool.or_self,
      Bool.false_eq_true, if_false]
    rw [Option.map_eq_bind]
    rfl

/-- A text between double quotes is read up to the closing quote. -/
theorem readDouble_text {run : List Char} (hrun : IsBlankRun run) (text rest : List Char) :
    readDouble (.run false run) (text.flatMap escapeOf ++ '"' :: rest) =
      some (run ++ text, rest) := by
  induction text generalizing run with
  | nil =>
    have hspace : isSpace '"' = false := by decide
    rw [List.flatMap_nil, List.nil_append, readDouble.eq_def]
    simp only [hspace, hrun.atLineStart, hrun.fold, Bool.false_and, Bool.or_self,
      Bool.false_eq_true, if_false, if_true, List.append_nil]
  | cons c text ih =>
    rw [List.flatMap_cons, List.append_assoc]
    by_cases hspace : c = ' '
    · have hescape : escapeOf ' ' = [' '] := by decide
      have happend : run ++ c :: text = run ++ [' '] ++ text := by
        rw [hspace, List.append_assoc, List.singleton_append]
      rw [happend, ← ih hrun.append, hspace, hescape, List.singleton_append, readDouble_space]
    · rw [readDouble_escapeOf hrun hspace, ih (fun _ h => absurd h List.not_mem_nil)]
      rfl

end ForeignMatrix.Yaml
