import ForeignMatrix.Document.Yaml.Written
import ForeignMatrix.Proofs.Document.Yaml.Layout
import Mathlib

/-!
# Written YAML values are taken in as their texts

In whatever style a text is written as the value of a key, one step takes it in,
and the next token is the first word of the line after it. Every character that
is written may occur in a document and is left as it is.
-/

namespace ForeignMatrix.Yaml

/-! ### Values -/

/-- Behind a key in the given column, the characters are taken in as one text, up to the first
word of the next line. -/
structure Spells (column : Nat) (chars : List Char) (style : ScalarStyle) (text : String) :
    Prop where
  /-- The value begins with its line. -/
  start : StartsToken chars
  /-- The value is not missing. -/
  nonempty : chars ≠ []
  /-- Every character may be written. -/
  writable : ∀ c ∈ chars, isWritable c = true
  /-- The value takes one step. -/
  read : ∀ {layout : Layout} {place : Place} {tokens : List Token} {outer : List Nat} {count : Nat}
    {next : List Char},
    layout.advance = blockLayout (chars ++ (List.replicate count ' ' ++ next)) place tokens
      (column :: outer) false →
    column < place.column → count ≤ column → StartsToken next →
    ∃ (taken : Layout) (after : Place),
      (∀ steps, Layout.finish (steps + 1) layout = Layout.finish steps taken) ∧
      after.column = count ∧
      taken.advance = (blockLayout next after (tokens ++ [.scalar style text]) (column :: outer)
        true).closeTo count

namespace Layout

/-- Taking in a text behind a colon. -/
theorem takeNode_scalar {passed rest : List Char} (style : ScalarStyle) (text : List Char)
    (place : Place) (tokens : List Token) (indents : List Nat) :
    (blockLayout (passed ++ rest) place tokens indents false).takeNode
        (some (scalarOf style (text, rest))) =
      some (blockLayout rest (passed.foldl Place.after place)
        (tokens ++ [.scalar style (String.ofList text)]) indents false) := by
  change some (emit (moveTo (blockLayout (passed ++ rest) place tokens indents false) rest)
    (.scalar style (String.ofList text))) = _
  rw [moveTo_block]
  rfl

/-- A layout that has come to the start of a line stays there. -/
theorem advance_next {next : List Char} (hnext : StartsToken next) (passed : List Char) {c : Char}
    (hc : isBreak c = true) (count : Nat) (place : Place) (tokens : List Token)
    (indents : List Nat) :
    ∃ after : Place, after.column = count ∧
      (blockLayout next ((passed ++ c :: List.replicate count ' ').foldl Place.after place) tokens
        indents true).advance = (blockLayout next after tokens indents true).closeTo count := by
  have hcolumn := column_after_break hc passed count place
  refine ⟨_, hcolumn, (advance_word rfl hnext).trans ?_⟩
  change (blockLayout next _ tokens indents true).closeTo
    ((passed ++ c :: List.replicate count ' ').foldl Place.after place).column = _
  rw [hcolumn]

end Layout

/-! ### Styles -/

/-- A text without a mark at its start means nothing else there. -/
theorem not_leadingMark {c : Char} {rest : List Char} (h : hasLeadingMark (c :: rest) = false) :
    c ∉ leadingMarks ∧ (c = '-' ∨ c = '?' ∨ c = ':' → isFollowed rest = false) := by
  unfold hasLeadingMark at h
  split at h
  · contradiction
  · contradiction
  · rename_i heq
    obtain ⟨rfl, rfl⟩ := List.cons.inj heq
    rw [Bool.or_eq_false_iff] at h
    obtain ⟨hmark, hword⟩ := h
    refine ⟨fun hmem => ?_, fun hc => ?_⟩
    · rw [List.contains_iff_mem.mpr hmem] at hmark
      contradiction
    · rcases hc with rfl | rfl | rfl <;> simpa using hword
  · contradiction

/-- A text without quotes is taken in. -/
theorem spells_plain {text : List Char} (hplain : IsPlain text) (hne : text ≠ []) (column : Nat) :
    Spells column (text ++ ['\n']) .plain (String.ofList text) := by
  obtain ⟨c, tail, rfl⟩ := List.exists_cons_of_ne_nil hne
  have hspace : isSpace c = false := hplain.startsWord c tail rfl
  obtain ⟨hmark, hfollowed⟩ := not_leadingMark hplain.leading
  have hwritable : isWritable c = true := hplain.writable c List.mem_cons_self
  refine ⟨startsToken_cons hspace ?_ ?_ _, List.cons_ne_nil _ _, ?_, ?_⟩
  · rintro rfl
    exact hmark (List.mem_cons_self)
  · rintro rfl
    exact absurd hwritable (by decide)
  · intro d hd
    rcases List.mem_append.mp hd with hd | hd
    · exact hplain.writable d hd
    · rw [List.mem_singleton.mp hd]
      decide
  · intro layout place tokens outer count next hready hcolumn hcount hnext
    let passed := c :: tail ++ '\n' :: List.replicate count ' '
    let ready := blockLayout (passed ++ next) place tokens (column :: outer) false
    have hchars : c :: tail ++ ['\n'] ++ (List.replicate count ' ' ++ next) = passed ++ next := by
      simp [passed]
    have hpassed : passed ++ next = c :: tail ++ '\n' :: (List.replicate count ' ' ++ next) := by
      simp [passed]
    rw [hchars] at hready
    have hread : readPlain ready.inFlow (ready.indent + 1) [] ready.place.column ready.rest =
        some ⟨c :: tail, true, next⟩ := by
      change readPlain false ((column : Int) + 1) [] place.column (passed ++ next) = _
      rw [hpassed]
      exact @IsPlain.read _ hplain (column + 1) _ hcolumn (by omega) _ (by omega) _
        hnext.startsWord
    have htaken : ready.takePlain =
        some (blockLayout next (passed.foldl Place.after place)
          (tokens ++ [.scalar .plain (String.ofList (c :: tail))]) (column :: outer) true) := by
      rw [Layout.takePlain, hread, Option.bind_eq_bind, Option.bind_some, Layout.takeNode_scalar]
      rfl
    have hfollow :
        isFollowed tail = endsWord (tail ++ '\n' :: (List.replicate count ' ' ++ next)) :=
      (endsWord_append_break tail _).symm
    have hbreak : isBreak '\n' = true := by decide
    obtain ⟨after, hafter, hadvance⟩ := Layout.advance_next hnext (c :: tail) hbreak count place
      (tokens ++ [.scalar .plain (String.ofList (c :: tail))]) (column :: outer)
    refine ⟨_, after, Layout.finish_step hready hpassed ?_, hafter, hadvance⟩
    rw [← htaken]
    exact Layout.takeToken_plain rfl hspace hmark (fun hc => hfollow ▸ hfollowed hc)
      (.inl (Nat.ne_zero_of_lt hcolumn))

/-! ### Characters of values -/

/-- Letters and digits can be written. -/
theorem isWritable_of_isAlphanum {c : Char} (hc : c.isAlphanum = true) : isWritable c = true := by
  have hrange : 0x30 ≤ c.toNat ∧ c.toNat ≤ 0x7a := by
    simp only [Char.isAlphanum, Char.isAlpha, Char.isUpper, Char.isLower, Char.isDigit,
      ge_iff_le, Bool.or_eq_true, Bool.and_eq_true, decide_eq_true_eq, UInt32.le_iff_toNat_le] at hc
    change ((65 ≤ c.toNat ∧ c.toNat ≤ 90) ∨ 97 ≤ c.toNat ∧ c.toNat ≤ 122) ∨
      48 ≤ c.toNat ∧ c.toNat ≤ 57 at hc
    omega
  have hlow : 0x20 ≤ c.toNat ∧ c.toNat ≤ 0x7e := by omega
  simp [isWritable, hlow]

/-- Indentation before a character is spaces. -/
theorem eq_space_of_mem_indentation {indent : Nat} {broke : Bool} {c : Char}
    (hc : c ∈ indentation indent broke) : c = ' ' := by
  rw [indentation] at hc
  split_ifs at hc
  · exact List.eq_of_mem_replicate hc
  · exact absurd hc List.not_mem_nil

/-- Between single quotes there are spaces and quotes besides the text. -/
theorem mem_singleBody {indent : Nat} {broke : Bool} {text : List Char} {c : Char}
    (hc : c ∈ singleBody indent broke text) : c ∈ text ∨ c = ' ' ∨ c = '\'' := by
  induction text generalizing broke with
  | nil => exact .inr (.inl (eq_space_of_mem_indentation hc))
  | cons d text ih =>
    rw [singleBody] at hc
    by_cases hbreak : isBreak d = true
    · rw [if_pos hbreak, List.mem_cons] at hc
      rcases hc with rfl | hc
      · exact .inl List.mem_cons_self
      · exact (ih hc).imp_left (List.mem_cons_of_mem d)
    · rw [if_neg hbreak, List.mem_append, List.mem_append] at hc
      rcases hc with (hc | hc) | hc
      · exact .inr (.inl (eq_space_of_mem_indentation hc))
      · split_ifs at hc with hquote
        · simp only [List.mem_cons, List.not_mem_nil, or_false, or_self] at hc
          exact .inr (.inr hc)
        · exact .inl (List.mem_singleton.mp hc ▸ List.mem_cons_self)
      · exact (ih hc).imp_left (List.mem_cons_of_mem d)

/-- In a literal block there are spaces besides the text. -/
theorem mem_literalBody {indent : Nat} {broke : Bool} {text : List Char} {c : Char}
    (hc : c ∈ literalBody indent broke text) : c ∈ text ∨ c = ' ' := by
  induction text generalizing broke with
  | nil => exact absurd hc List.not_mem_nil
  | cons d text ih =>
    rw [literalBody] at hc
    by_cases hbreak : isBreak d = true
    · rw [if_pos hbreak, List.mem_cons] at hc
      rcases hc with rfl | hc
      · exact .inl List.mem_cons_self
      · exact (ih hc).imp_left (List.mem_cons_of_mem d)
    · rw [if_neg hbreak, List.mem_append, List.mem_cons] at hc
      rcases hc with hc | rfl | hc
      · exact .inr (eq_space_of_mem_indentation hc)
      · exact .inl List.mem_cons_self
      · exact (ih hc).imp_left (List.mem_cons_of_mem d)

/-- A literal block ends with the last character of its text. -/
theorem getLast?_literalBody (indent : Nat) (broke : Bool) (text : List Char) :
    (literalBody indent broke text).getLast? = text.getLast? := by
  induction text generalizing broke with
  | nil => rfl
  | cons c text ih =>
    rw [literalBody]
    split_ifs
    · rw [List.getLast?_cons, List.getLast?_cons, ih]
    · rw [List.getLast?_append, List.getLast?_cons, List.getLast?_cons, ih]
      rfl
    · rw [List.nil_append, List.getLast?_cons, List.getLast?_cons, ih]

/-- An escape is made up of characters that can be written. -/
theorem writable_escapeOf {c d : Char} (hd : d ∈ escapeOf c) : isWritable d = true := by
  have hdigits {mark : Char} (hmark : isWritable mark = true) {width : Nat}
      (hd : d ∈ '\\' :: mark :: Text.toUpperHex width c.toNat) : isWritable d = true := by
    simp only [List.mem_cons] at hd
    rcases hd with rfl | rfl | hd
    · decide
    · exact hmark
    · exact isWritable_of_isAlphanum (Text.isAlphanum_of_mem_toUpperHex hd)
  by_cases hletter : c ∈ letterEscapes.map Prod.fst
  · have hall : letterEscapes.all (fun pair => isWritable pair.2) = true := by decide
    obtain ⟨pair, hpair, rfl⟩ := List.mem_map.mp hletter
    rw [(escapeOf_letter pair hpair).1, List.mem_cons, List.mem_singleton] at hd
    rcases hd with rfl | rfl
    · decide
    · exact List.all_eq_true.mp hall pair hpair
  · rw [escapeOf_other hletter] at hd
    split_ifs at hd with hwritable
    · rw [List.mem_singleton.mp hd]
      exact hwritable
    · exact hdigits (by decide) hd
    · exact hdigits (by decide) hd
    · exact hdigits (by decide) hd

theorem writable_literalMarks {text : List Char} {c : Char} (hc : c ∈ literalMarks text) :
    isWritable c = true := by
  have hmark (chomping : Chomping) : (chompingMark chomping).all isWritable = true := by
    cases chomping <;> decide
  rw [literalMarks_eq, List.mem_append] at hc
  rcases hc with hc | hc
  · rcases markedIndent_cases text with hindent | hindent
    · rw [hindent] at hc
      exact absurd hc List.not_mem_nil
    · rw [hindent] at hc
      rw [List.mem_singleton.mp hc]
      decide
  · exact List.all_eq_true.mp (hmark _) c hc

theorem eq_break_of_mem_closing {broke : Bool} {text : List Char} {c : Char}
    (hc : c ∈ closing broke text) : c = '\n' := by
  rw [closing] at hc
  split_ifs at hc
  · exact absurd hc List.not_mem_nil
  · exact List.mem_singleton.mp hc

/-- What is read from behind a quote up to the end of its line is taken in. -/
theorem spells_quoted {quote : Char} (hspace : isSpace quote = false) (hsharp : quote ≠ '#')
    {body text : List Char} (hwritable : ∀ c ∈ quote :: body, isWritable c = true)
    {style : ScalarStyle} (read : List Char → Option (List Char × List Char))
    (htake : ∀ (layout : Layout) (rest : List Char),
      layout.takeToken quote rest = layout.takeNode ((read rest).map (Layout.scalarOf style)))
    (hread : ∀ rest, read (body ++ '\n' :: rest) = some (text, '\n' :: rest)) (column : Nat) :
    Spells column (quote :: body ++ ['\n']) style (String.ofList text) := by
  refine ⟨startsToken_cons hspace hsharp ?_ _, List.cons_ne_nil _ _, ?_, ?_⟩
  · rintro rfl
    exact absurd (hwritable _ List.mem_cons_self) (by decide)
  · intro d hd
    rcases List.mem_append.mp hd with hd | hd
    · exact hwritable d hd
    · rw [List.mem_singleton.mp hd]
      decide
  · intro layout place tokens outer count next hready hcolumn hcount hnext
    let rest := '\n' :: (List.replicate count ' ' ++ next)
    have hchars : quote :: body ++ ['\n'] ++ (List.replicate count ' ' ++ next) =
        quote :: body ++ rest := by
      rw [List.append_assoc]
      rfl
    have hrest : quote :: body ++ rest = quote :: (body ++ rest) := rfl
    rw [hchars] at hready
    obtain ⟨after, hafter, hadvance⟩ := Layout.advance_break hnext
      ((quote :: body).foldl Place.after place)
      (tokens ++ [.scalar style (String.ofList text)]) (column :: outer) false count
    refine ⟨_, after, Layout.finish_step hready hrest ?_, hafter, hadvance⟩
    rw [htake, hread]
    exact Layout.takeNode_scalar style text place tokens (column :: outer)

/-- A text between single quotes is taken in. -/
theorem spells_single {text : List Char} (hsingle : IsSingle text) {indent : Nat}
    (hindent : 0 < indent) (column : Nat) :
    Spells column (['\''] ++ singleBody indent false text ++ ['\'', '\n']) .single
      (String.ofList text) := by
  have hchars : ['\''] ++ singleBody indent false text ++ ['\'', '\n'] =
      '\'' :: (singleBody indent false text ++ ['\'']) ++ ['\n'] := by simp
  rw [hchars]
  refine spells_quoted (by decide) (by decide) ?_ (readSingle []) ?_ ?_ column
  · intro c hc
    rw [List.mem_cons, List.mem_append, List.mem_singleton] at hc
    rcases hc with rfl | hc | rfl
    · decide
    · rcases mem_singleBody hc with hc | rfl | rfl
      · exact hsingle.writable c hc
      · decide
      · decide
    · decide
  · intro layout rest
    simp [Layout.takeToken, startsDocument, endsDocument]
  · intro rest
    rw [List.append_assoc]
    have hrun : IsRun false [] := fun _ h => absurd h List.not_mem_nil
    exact readSingle_body hindent (by simp) hrun hsingle

/-- A text between double quotes is taken in. -/
theorem spells_double (text : List Char) (column : Nat) :
    Spells column (['"'] ++ text.flatMap escapeOf ++ ['"', '\n']) .double
      (String.ofList text) := by
  have hchars : ['"'] ++ text.flatMap escapeOf ++ ['"', '\n'] =
      '"' :: (text.flatMap escapeOf ++ ['"']) ++ ['\n'] := by simp
  rw [hchars]
  refine spells_quoted (by decide) (by decide) ?_ (readDouble (.run false [])) ?_ ?_ column
  · intro c hc
    rw [List.mem_cons, List.mem_append, List.mem_flatMap, List.mem_singleton] at hc
    rcases hc with rfl | ⟨d, -, hc⟩ | rfl
    · decide
    · exact writable_escapeOf hc
    · decide
  · intro layout rest
    simp [Layout.takeToken, startsDocument, endsDocument]
  · intro rest
    rw [List.append_assoc]
    exact readDouble_text (fun _ h => absurd h List.not_mem_nil) text ('\n' :: rest)

/-- A literal block ends with a break: with the last character of the text, or with one more. -/
theorem literalBody_closing {text : List Char} (hne : text ≠ []) (indent : Nat) :
    ∃ body c, literalBody indent true text ++ closing true text = body ++ [c] ∧
      isBreak c = true := by
  obtain ⟨init, c, hlast⟩ := (List.eq_nil_or_concat' text).resolve_left hne
  have htext : text.getLast? = some c := by rw [hlast, List.getLast?_concat]
  by_cases hc : isBreak c = true
  · have hclosing : closing true text = [] := by
      rw [closing, htext]
      exact if_pos hc
    obtain ⟨front, hfront⟩ := List.getLast?_eq_some_iff.mp
      ((getLast?_literalBody indent true text).trans htext)
    exact ⟨front, c, by rw [hclosing, List.append_nil, hfront], hc⟩
  · have hclosing : closing true text = ['\n'] := by
      rw [closing, htext]
      exact if_neg hc
    exact ⟨_, '\n', by rw [hclosing], by decide⟩

/-- A literal block is taken in. -/
theorem spells_literal {text : List Char} (hne : text ≠ [])
    (hwritable : ∀ c ∈ text, isWritable c = true) (column : Nat) :
    Spells column (['|'] ++ literalMarks text ++ ['\n'] ++ literalBody (column + 2) true text ++
      closing true text) .literal (String.ofList text) := by
  refine ⟨startsToken_cons (by decide) (by decide) (by decide) _, List.cons_ne_nil _ _, ?_, ?_⟩
  · intro c hc
    simp only [List.mem_append, List.mem_singleton] at hc
    rcases hc with (((rfl | hc) | rfl) | hc) | hc
    · decide
    · exact writable_literalMarks hc
    · decide
    · rcases mem_literalBody hc with hc | rfl
      · exact hwritable c hc
      · decide
    · rw [eq_break_of_mem_closing hc]
      decide
  · intro layout place tokens outer count next hready hcolumn hcount hnext
    obtain ⟨front, c, hfront, hc⟩ := literalBody_closing hne (column + 2)
    let body := ['|'] ++ literalMarks text ++ ['\n'] ++ front
    let passed := body ++ c :: List.replicate count ' '
    let ready := blockLayout (passed ++ next) place tokens (column :: outer) false
    have hpassed : passed ++ next = ['|'] ++ literalMarks text ++ ['\n'] ++
        literalBody (column + 2) true text ++ closing true text ++
          (List.replicate count ' ' ++ next) := by
      rw [List.append_assoc _ (literalBody _ _ _), hfront]
      simp [passed, body]
    rw [← hpassed] at hready
    have hrest : passed ++ next = '|' :: (literalMarks text ++ '\n' ::
        (literalBody (column + 2) true text ++
          (closing true text ++ (List.replicate count ' ' ++ next)))) := by
      rw [hpassed]
      simp
    have hread : readBlock true ready.indent (ready.rest.drop 1) = some (text, next) := by
      change readBlock true column ((passed ++ next).drop 1) = _
      rw [hrest]
      exact readBlock_literal hne hwritable (by omega) hnext.startsWord
    obtain ⟨after, hafter, hadvance⟩ := Layout.advance_next hnext body hc count place
      (tokens ++ [.scalar .literal (String.ofList text)]) (column :: outer)
    refine ⟨_, after, Layout.finish_step hready hrest ?_, hafter, hadvance⟩
    have htake : ready.takeToken '|' (literalMarks text ++ '\n' ::
        (literalBody (column + 2) true text ++
          (closing true text ++ (List.replicate count ' ' ++ next)))) = ready.takeBlock true := by
      simp [Layout.takeToken, startsDocument, endsDocument, ready, blockLayout, Layout.inFlow]
    rw [htake, Layout.takeBlock, hread, Option.bind_eq_bind, Option.bind_some]
    change some (Layout.emit (Layout.moveTo (blockLayout (passed ++ next) place tokens
      (column :: outer) true) next) (.scalar .literal (String.ofList text))) = _
    rw [Layout.moveTo_block]
    rfl

/-- A text is taken in, in the style in which it is written. -/
theorem spells_written (column : Nat) (text : String) :
    Spells column (written (column + 2) text).toList (styleOf text.toList) text := by
  have htext : String.ofList text.toList = text := String.ofList_toList
  rw [written, String.toList_ofList, ← htext, String.toList_ofList, writtenChars]
  generalize text.toList = chars
  unfold styleOf
  split_ifs with hlines hliteral hplain hsingle
  · have hne : chars ≠ [] := by
      rintro rfl
      exact absurd hlines (by decide)
    simp only [canBeLiteral, needsDouble, Bool.and_eq_true, Bool.not_eq_true',
      Bool.or_eq_false_iff, Bool.not_eq_false', List.all_eq_true] at hliteral
    have hclosing : (if (literalBody (column + 2) true chars).getLast?.any isBreak then []
        else ['\n']) = closing true chars := by
      obtain ⟨init, c, rfl⟩ := (List.eq_nil_or_concat' chars).resolve_left hne
      rw [getLast?_literalBody, closing, List.getLast?_concat]
      rfl
    dsimp only
    rw [hclosing]
    exact spells_literal hne hliteral.1.1 column
  · exact spells_double chars column
  · rw [Bool.and_eq_true, Bool.not_eq_true'] at hplain
    have hne : chars ≠ [] := by
      rintro rfl
      exact absurd hplain.1 (by decide)
    exact spells_plain (isPlain_of_canBePlain hplain.2) hne column
  · exact spells_single (isSingle_of_canBeSingle hsingle (Bool.not_eq_true _ ▸ hlines))
      (Nat.succ_pos _) column
  · exact spells_double chars column

end ForeignMatrix.Yaml
