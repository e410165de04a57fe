import ForeignMatrix.Proofs.Document.Yaml.Scalars
import Mathlib

/-!
# Written YAML blocks are read back

The reader of a literal block cuts it into lines, which together hold every
character that was written but the indentation. What the marks on its first line
say about the breaks at its end makes up for the break that is written after a
text that has none there.
-/

namespace ForeignMatrix.Yaml

/-! ### Lines of a block -/

/-- The characters of a line and of the empty lines after it. -/
def BlockLine.chars (line : BlockLine) : List Char := line.content ++ line.ending ++ line.blanks

/-- A line with text that a break ends. -/
structure BlockLine.IsWhole (line : BlockLine) : Prop where
  nonempty : line.content ≠ []
  content : ∀ c ∈ line.content, isBreak c = false
  ending : ∃ c, line.ending = [c] ∧ isBreak c = true
  blanks : ∀ c ∈ line.blanks, isBreak c = true

namespace BlockBody

/-- The characters of a body. -/
def chars (body : BlockBody) : List Char :=
  body.content ++ body.ending ++ body.blanks ++ body.lines.flatMap BlockLine.chars

/-- A body that begins with a line, or within one where `broke` is false. -/
structure IsWhole (broke : Bool) (body : BlockBody) : Prop where
  content : ∀ c ∈ body.content, isBreak c = false
  ending : broke = false → ∃ c, body.ending = [c] ∧ isBreak c = true
  start : broke = true → body.content = [] ∧ body.ending = []
  blanks : ∀ c ∈ body.blanks, isBreak c = true
  lines : ∀ line ∈ body.lines, line.IsWhole

/-- Whole lines make up a body that begins with a line. -/
theorem isWhole_of_lines {lines : List BlockLine} (hlines : ∀ line ∈ lines, line.IsWhole) :
    IsWhole true { lines := lines } where
  content _ hmem := absurd hmem List.not_mem_nil
  ending hbroke := absurd hbroke.symm Bool.false_ne_true
  start _ := ⟨rfl, rfl⟩
  blanks _ hmem := absurd hmem List.not_mem_nil
  lines := hlines

end BlockBody

/-- The break that is written after a text that does not end with one. -/
def closing (broke : Bool) (text : List Char) : List Char :=
  if text.getLast?.elim broke isBreak then [] else ['\n']

theorem closing_cons (broke : Bool) (c : Char) (text : List Char) :
    closing broke (c :: text) = closing (isBreak c) text := by
  rw [closing, closing, List.getLast?_cons]
  cases text.getLast? <;> rfl

/-- Column in which a reader of a block is after a break or within a line. -/
def startColumn (broke : Bool) : Option Nat := if broke then some 0 else none

/-- The indentation of a line is passed over. -/
theorem readBlockBody_replicate {indent column count : Nat} (hcount : column + count ≤ indent)
    (rest : List Char) :
    readBlockBody indent (some column) (List.replicate count ' ' ++ rest) =
      readBlockBody indent (some (column + count)) rest := by
  induction count generalizing column with
  | zero => rfl
  | succ count ih =>
    rw [List.replicate_succ, List.cons_append, readBlockBody]
    dsimp only
    rw [if_neg (by decide), if_pos (by omega), if_pos rfl, ih (by omega), Nat.add_right_comm,
      Nat.add_assoc]

/-- A block ends before a word that is indented less. -/
theorem readBlockBody_end {indent count : Nat} (hcount : count < indent) {next : List Char}
    (hnext : StartsWord next) :
    readBlockBody indent (some 0) (List.replicate count ' ' ++ next) = some ({}, next) := by
  rw [readBlockBody_replicate (by omega)]
  cases next with
  | nil => rfl
  | cons c rest =>
    obtain ⟨hblank, hbreak⟩ := isSpace_eq_false_iff.mp (hnext c rest rfl)
    simp only [isBlank, Bool.or_eq_false_iff, decide_eq_false_iff_not] at hblank
    rw [readBlockBody]
    dsimp only
    rw [hbreak, if_neg Bool.false_ne_true, if_pos (by omega), if_neg hblank.1, if_neg hblank.2]

/-- The input is read as whole lines that together are the text, up to what follows. -/
def ReadsLines (indent : Nat) (broke : Bool) (input text next : List Char) : Prop :=
  ∃ body : BlockBody, readBlockBody indent (startColumn broke) input = some (body, next) ∧
    body.chars = text ∧ body.IsWhole broke

/-- A break ends the current line, or is an empty line. -/
theorem ReadsLines.break {indent : Nat} {broke : Bool} {input text next : List Char} {c : Char}
    (hc : isBreak c = true) (h : ReadsLines indent true input text next) :
    ReadsLines indent broke (c :: input) (c :: text) next := by
  obtain ⟨body, hread, hchars, hwhole⟩ := h
  obtain ⟨hcontent, hending⟩ := hwhole.start rfl
  rw [startColumn, if_pos rfl] at hread
  rw [BlockBody.chars, hcontent, hending] at hchars
  cases broke with
  | true =>
    refine ⟨{ body with blanks := c :: body.blanks }, ?_, ?_, ?_⟩
    · rw [startColumn, if_pos rfl, readBlockBody]
      dsimp only
      rw [hc, if_pos rfl, hread]
      rfl
    · rw [BlockBody.chars, hcontent, hending]
      exact congrArg (c :: ·) hchars
    · refine ⟨hwhole.content, nofun, hwhole.start, ?_, hwhole.lines⟩
      exact List.forall_mem_cons.mpr ⟨hc, hwhole.blanks⟩
  | false =>
    refine ⟨{ body with ending := [c] }, ?_, ?_, ?_⟩
    · rw [startColumn, if_neg Bool.false_ne_true, readBlockBody]
      dsimp only
      rw [hc, if_pos rfl, hread]
      rfl
    · rw [BlockBody.chars, hcontent]
      exact congrArg (c :: ·) hchars
    · exact ⟨hwhole.content, fun _ => ⟨c, rfl, hc⟩, nofun, hwhole.blanks, hwhole.lines⟩

/-- Any other character belongs to the current line, or begins one after its indentation. -/
theorem ReadsLines.char {indent : Nat} {broke : Bool} {input text next : List Char} {c : Char}
    (hc : isBreak c = false) (h : ReadsLines indent false input text next) :
    ReadsLines indent broke (indentation indent broke ++ c :: input) (c :: text) next := by
  obtain ⟨body, hread, rfl, hwhole⟩ := h
  rw [startColumn, if_neg Bool.false_ne_true] at hread
  have hcontent : ∀ d ∈ c :: body.content, isBreak d = false :=
    List.forall_mem_cons.mpr ⟨hc, hwhole.content⟩
  cases broke with
  | true =>
    refine ⟨{ lines := ⟨c :: body.content, body.ending, body.blanks⟩ :: body.lines }, ?_, ?_, ?_⟩
    · rw [startColumn, if_pos rfl, indentation, if_pos rfl, readBlockBody_replicate (by omega),
        Nat.zero_add, readBlockBody]
      dsimp only
      rw [hc, if_neg Bool.false_ne_true, if_neg (Nat.lt_irrefl _), hread]
      rfl
    · simp [BlockBody.chars, BlockLine.chars]
    · refine BlockBody.isWhole_of_lines (List.forall_mem_cons.mpr ⟨?_, hwhole.lines⟩)
      exact ⟨List.cons_ne_nil _ _, hcontent, hwhole.ending rfl, hwhole.blanks⟩
  | false =>
    refine ⟨{ body with content := c :: body.content }, ?_, rfl, ?_⟩
    · rw [startColumn, if_neg Bool.false_ne_true, indentation, if_neg Bool.false_ne_true,
        List.nil_append, readBlockBody]
      dsimp only
      rw [hc, if_neg Bool.false_ne_true, hread]
      rfl
    · exact ⟨hcontent, hwhole.ending, fun h => absurd h Bool.false_ne_true, hwhole.blanks,
        hwhole.lines⟩

/-- The body of a block is read as lines that together are its text. -/
theorem readsLines_literalBody {indent count : Nat} (hcount : count < indent)
    {next : List Char} (hnext : StartsWord next) (broke : Bool) (text : List Char) :
    ReadsLines indent broke
      (literalBody indent broke text ++ (closing broke text ++ (List.replicate count ' ' ++ next)))
      (text ++ closing broke text) next := by
  induction text generalizing broke with
  | nil =>
    have hempty : ReadsLines indent true (List.replicate count ' ' ++ next) [] next :=
      ⟨{}, readBlockBody_end hcount hnext, rfl,
        BlockBody.isWhole_of_lines fun _ hmem => absurd hmem List.not_mem_nil⟩
    cases broke with
    | true => exact hempty
    | false => exact hempty.break (by decide)
  | cons c text ih =>
    rw [closing_cons, literalBody]
    cases hc : isBreak c with
    | true => exact (ih true).break hc
    | false =>
      rw [if_neg Bool.false_ne_true, List.append_assoc]
      exact (ih false).char hc

/-! ### Text of the lines -/

/-- Only what follows the last line depends on the marks. -/
theorem joinLines_concat (chomping : Chomping) (lines : List BlockLine) (last : BlockLine) :
    joinLines true chomping (lines ++ [last]) =
      lines.flatMap BlockLine.chars ++ joinLines true chomping [last] := by
  induction lines with
  | nil => rfl
  | cons line lines ih =>
    have hstep (next : BlockLine) (rest : List BlockLine) :
        joinLines true chomping (line :: next :: rest) =
          line.chars ++ joinLines true chomping (next :: rest) := by
      simp [joinLines, joint, BlockLine.chars]
    rw [List.flatMap_cons, List.append_assoc, ← ih]
    cases lines <;> exact hstep _ _

/-- A text whose last character is no break. -/
def EndsLine (text : List Char) : Prop := ∃ init c, text = init ++ [c] ∧ isBreak c = false

/-- Breaks at the end of a text are told apart from the text before them. -/
theorem EndsLine.append_inj {text other breaks more : List Char} (htext : EndsLine text)
    (hother : EndsLine other) (hbreaks : ∀ c ∈ breaks, isBreak c = true)
    (hmore : ∀ c ∈ more, isBreak c = true) (h : text ++ breaks = other ++ more) :
    text = other ∧ breaks = more := by
  have hdrop {text breaks : List Char} (htext : EndsLine text)
      (hbreaks : ∀ c ∈ breaks, isBreak c = true) : (text ++ breaks).rdropWhile isBreak = text := by
    obtain ⟨init, c, rfl, hc⟩ := htext
    induction breaks using List.reverseRecOn with
    | nil =>
      rw [List.append_nil, List.rdropWhile_concat_neg]
      rw [hc]
      exact Bool.false_ne_true
    | append_singleton breaks last ih =>
      rw [← List.append_assoc, List.rdropWhile_concat_pos _ _ _ (hbreaks last (by simp))]
      exact ih fun d hd => hbreaks d (List.mem_append_left _ hd)
  obtain rfl : text = other := by rw [← hdrop htext hbreaks, h, hdrop hother hmore]
  exact ⟨rfl, List.append_cancel_left h⟩

/-- What becomes of the breaks at the end of a written text. -/
def chompingOf (text : List Char) : Chomping :=
  match text.reverse with
  | [] => .strip
  | c :: before =>
    if !isBreak c then .strip else if before.head?.all isBreak then .keep else .clip

/-- Breaks at the end of a text are kept, unless there is one alone or none. -/
theorem chompingOf_cases {text : List Char} (hne : text ≠ []) :
    (EndsLine text ∧ closing true text = ['\n'] ∧ chompingOf text = .strip) ∨
    (closing true text = [] ∧ chompingOf text = .keep) ∨
    (∃ init c, text = init ++ [c] ∧ EndsLine init ∧ isBreak c = true ∧ closing true text = [] ∧
      chompingOf text = .clip) := by
  obtain ⟨init, c, rfl⟩ := (List.eq_nil_or_concat' text).resolve_left hne
  have hclosing : closing true (init ++ [c]) = if isBreak c then [] else ['\n'] := by
    rw [closing, List.getLast?_concat]
    rfl
  have hchomping : chompingOf (init ++ [c]) =
      if !isBreak c then .strip else if init.getLast?.all isBreak then .keep else .clip := by
    rw [chompingOf, List.reverse_concat', ← List.head?_reverse]
  rw [hclosing, hchomping]
  by_cases hc : isBreak c = true
  · rw [if_pos hc, if_neg (by rw [hc]; exact Bool.false_ne_true)]
    by_cases hbefore : init.getLast?.all isBreak = true
    · exact .inr (.inl ⟨rfl, if_pos hbefore⟩)
    · have hinit : EndsLine init := by
        rcases List.eq_nil_or_concat' init with rfl | ⟨front, d, rfl⟩
        · exact absurd rfl hbefore
        · rw [List.getLast?_concat] at hbefore
          exact ⟨front, d, rfl, Bool.eq_false_iff.mpr hbefore⟩
      exact .inr (.inr ⟨init, c, rfl, hinit, hc, rfl, if_neg hbefore⟩)
  · rw [if_neg hc]
    rw [Bool.not_eq_true] at hc
    exact .inl ⟨⟨init, c, rfl, hc⟩, rfl, by rw [hc]; rfl⟩

/-- A text that is not made up of breaks alone ends with the last line, whatever its breaks. -/
theorem BlockBody.IsWhole.exists_last {body : BlockBody} (hwhole : body.IsWhole true)
    {text breaks : List Char} (htext : EndsLine text) (hbreaks : ∀ c ∈ breaks, isBreak c = true)
    (hchars : body.chars = text ++ breaks) :
    ∃ lines last, body.lines = lines ++ [last] ∧
      text = body.blanks ++ lines.flatMap BlockLine.chars ++ last.content ∧
      breaks = last.ending ++ last.blanks := by
  obtain ⟨hcontent, hending⟩ := hwhole.start rfl
  rw [BlockBody.chars, hcontent, hending, List.append_nil, List.nil_append] at hchars
  rcases List.eq_nil_or_concat' body.lines with hlines | ⟨lines, last, hlines⟩
  · obtain ⟨init, c, rfl, hc⟩ := htext
    have hmem : c ∈ body.blanks := by
      rw [hlines, List.flatMap_nil, List.append_nil] at hchars
      rw [hchars]
      simp
    rw [hwhole.blanks c hmem] at hc
    contradiction
  · have hlast : last.IsWhole := hwhole.lines last (by rw [hlines]; simp)
    obtain ⟨front, c, hfront⟩ := (List.eq_nil_or_concat' last.content).resolve_left hlast.nonempty
    have hends : EndsLine (body.blanks ++ lines.flatMap BlockLine.chars ++ last.content) := by
      refine ⟨body.blanks ++ lines.flatMap BlockLine.chars ++ front, c, ?_, ?_⟩
      · rw [hfront, List.append_assoc _ front]
      · exact hlast.content c (by rw [hfront]; simp)
    have hall : ∀ c ∈ last.ending ++ last.blanks, isBreak c = true := by
      obtain ⟨d, hd, hbreak⟩ := hlast.ending
      rw [hd]
      exact List.forall_mem_cons.mpr ⟨hbreak, hlast.blanks⟩
    refine ⟨lines, last, hlines, htext.append_inj hends hbreaks hall ?_⟩
    rw [← hchars, hlines]
    simp [BlockLine.chars]

/-- Whole lines that hold a text, and the break that was written after it, have the text. -/
theorem blockText_of_chars {body : BlockBody} (hwhole : body.IsWhole true) {text : List Char}
    (hne : text ≠ []) (hchars : body.chars = text ++ closing true text) :
    blockText true (chompingOf text) body = text := by
  have hlast (chomping : Chomping) {lines : List BlockLine} {last : BlockLine}
      (hlines : body.lines = lines ++ [last]) :
      blockText true chomping body =
        body.blanks ++ lines.flatMap BlockLine.chars ++ joinLines true chomping [last] := by
    have hlines' : body.lines.isEmpty = false := by simp [hlines]
    rw [blockText, hlines', if_neg Bool.false_ne_true, hlines, joinLines_concat,
      List.append_assoc]
  rcases chompingOf_cases hne with ⟨htext, hclosing, hchomping⟩ | ⟨hclosing, hchomping⟩ |
    ⟨init, c, rfl, hinit, hc, hclosing, hchomping⟩
  · rw [hclosing] at hchars
    obtain ⟨lines, last, hlines, htext, -⟩ := 
      hwhole.exists_last htext (List.forall_mem_singleton.mpr (by decide)) hchars
    rw [hchomping, hlast _ hlines, htext, joinLines, List.append_nil]
  · obtain ⟨hcontent, hending⟩ := hwhole.start rfl
    rw [hclosing, List.append_nil, BlockBody.chars, hcontent, hending, List.append_nil,
      List.nil_append] at hchars
    rw [hchomping]
    rcases List.eq_nil_or_concat' body.lines with hlines | ⟨lines, last, hlines⟩
    · rw [← hchars, blockText, hlines]
      simp
    · rw [hlast _ hlines, ← hchars, hlines]
      simp [joinLines, BlockLine.chars]
  · rw [hclosing, List.append_nil] at hchars
    obtain ⟨lines, last, hlines, htext, hbreaks⟩ :=
      hwhole.exists_last hinit (List.forall_mem_singleton.mpr hc) hchars
    obtain ⟨d, hd, -⟩ := (hwhole.lines last (by rw [hlines]; simp)).ending
    rw [hd] at hbreaks
    obtain ⟨rfl, -⟩ := List.cons.inj hbreaks
    rw [hchomping, hlast _ hlines, htext, joinLines, hd, List.append_assoc _ last.content]

/-! ### Whole blocks -/

/-- Indentation that is given on the first line of a block. -/
def markedIndent (text : List Char) : Option Nat :=
  if text.head?.any fun c => c = ' ' || isBreak c then some 2 else none

theorem markedIndent_cases (text : List Char) :
    markedIndent text = none ∨ markedIndent text = some 2 := by
  rw [markedIndent]
  split_ifs
  · exact .inr rfl
  · exact .inl rfl

/-- Mark that says what becomes of the breaks at the end of a block. -/
def chompingMark : Chomping → List Char
  | .strip => ['-']
  | .clip => []
  | .keep => ['+']

theorem literalMarks_eq (text : List Char) :
    literalMarks text =
      (markedIndent text).elim [] (fun _ => ['2']) ++ chompingMark (chompingOf text) := by
  have hindent : (if text.head?.any fun c => c = ' ' || isBreak c then ['2'] else []) =
      (markedIndent text).elim [] fun _ => ['2'] := by
    rw [markedIndent]
    split_ifs <;> rfl
  rw [literalMarks, hindent, chompingOf]
  congr 1
  cases text.reverse with
  | nil => rfl
  | cons c before =>
    dsimp only
    split_ifs <;> rfl

/-- The marks of a block are read. -/
theorem readBlockHeader_literalMarks (text rest : List Char) :
    readBlockHeader (literalMarks text ++ '\n' :: rest) =
      some ({ chomping := chompingOf text, indent := markedIndent text }, rest) := by
  have hread (chomping : Chomping) :
      readBlockHeader (chompingMark chomping ++ '\n' :: rest) = some ({ chomping }, rest) ∧
      readBlockHeader ('2' :: (chompingMark chomping ++ '\n' :: rest)) =
        some ({ chomping, indent := some 2 }, rest) := by
    cases chomping <;> exact ⟨rfl, rfl⟩
  rw [literalMarks_eq]
  rcases markedIndent_cases text with hindent | hindent
  · rw [hindent]
    exact (hread (chompingOf text)).1
  · rw [hindent]
    exact (hread (chompingOf text)).2

/-- Spaces move on the column in which the first text of a block is found. -/
theorem detectIndent_replicate (least column deepest count : Nat) (rest : List Char) :
    detectIndent least column deepest (List.replicate count ' ' ++ rest) =
      detectIndent least (column + count) deepest rest := by
  induction count generalizing column with
  | zero => rfl
  | succ count ih =>
    rw [List.replicate_succ, List.cons_append, detectIndent, if_pos rfl, ih, Nat.add_right_comm,
      Nat.add_assoc]

/-- Indentation that is not given on the first line of a block is found. -/
theorem detectIndent_literalBody {text : List Char} (hne : text ≠ [])
    (hwritable : ∀ c ∈ text, isWritable c = true) (hindent : markedIndent text = none)
    (parent : Nat) (rest : List Char) :
    detectIndent (parent + 1) 0 0 (literalBody (parent + 2) true text ++ rest) =
      some (parent + 2) := by
  obtain ⟨c, tail, rfl⟩ := List.exists_cons_of_ne_nil hne
  have hc : c ≠ ' ' ∧ isBreak c = false := by
    rw [markedIndent] at hindent
    simpa using hindent
  have htab : c ≠ '\t' := by
    rintro rfl
    exact absurd (hwritable _ List.mem_cons_self) (by decide)
  rw [literalBody, hc.2, if_neg Bool.false_ne_true, if_pos rfl, List.append_assoc,
    detectIndent_replicate, List.cons_append, detectIndent, if_neg hc.1, if_neg htab, hc.2,
    if_neg Bool.false_ne_true]
  congr 1
  omega

/-- A text that is written as a literal block is read up to the next word that is indented less
than the block. -/
theorem readBlock_literal {text : List Char} (hne : text ≠ [])
    (hwritable : ∀ c ∈ text, isWritable c = true) {parent count : Nat}
    (hcount : count < parent + 2) {next : List Char} (hnext : StartsWord next) :
    readBlock true parent
      (literalMarks text ++ '\n' :: (literalBody (parent + 2) true text ++
        (closing true text ++ (List.replicate count ' ' ++ next)))) = some (text, next) := by
  obtain ⟨body, hread, hchars, hwhole⟩ := readsLines_literalBody hcount hnext true text
  have htext := blockText_of_chars hwhole hne hchars
  rw [startColumn, if_pos rfl] at hread
  rw [readBlock, readBlockHeader_literalMarks, Option.bind_eq_bind, Option.bind_some]
  dsimp only
  rcases markedIndent_cases text with hindent | hindent
  · have hleast : (max ((parent : Int) + 1) 1).toNat = parent + 1 := by omega
    rw [hindent]
    dsimp only
    rw [hleast, detectIndent_literalBody hne hwritable hindent, Option.bind_eq_bind,
      Option.bind_some, hread, Option.bind_eq_bind, Option.bind_some, htext]
    rfl
  · have hparent : (max (parent : Int) 0).toNat = parent := by omega
    rw [hindent]
    dsimp only
    rw [hparent, Option.bind_eq_bind, Option.bind_some, hread, Option.bind_eq_bind,
      Option.bind_some, htext]
    rfl

end ForeignMatrix.Yaml
