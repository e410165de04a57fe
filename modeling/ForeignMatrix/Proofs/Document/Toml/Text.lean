import ForeignMatrix.Document.Toml.Text
import ForeignMatrix.Proofs.Encoding
import Mathlib

/-!
# Written TOML strings are read back

A text is written in one of five forms, and is read back from each of them. With
escapes that takes one step for each character. In the forms over several lines
a quote is read with all the quotes after it, so what has to be known there is
how many of them stand in a row, and whether they reach up to the closing ones.
-/

namespace ForeignMatrix.Toml

/-! ### Escapes -/

/-- A character is escaped by a letter or by its number. -/
theorem escapeOf_cases (c : Char) :
    (∃ mark, escapeOf c = ['\\', mark] ∧ mark ∉ ['u', 'U', '\n', ' ', '\t', '\r'] ∧
      escaped? mark = some c) ∨
    escapeOf c = '\\' :: 'u' :: Text.toUpperHex 4 c.toNat := by
  unfold escapeOf
  split_ifs with hback htab hline hform hreturn hquote hslash
  · exact .inl ⟨'b', rfl, by decide, by rw [hback]; rfl⟩
  · exact .inl ⟨'t', rfl, by decide, by rw [htab]; rfl⟩
  · exact .inl ⟨'n', rfl, by decide, by rw [hline]; rfl⟩
  · exact .inl ⟨'f', rfl, by decide, by rw [hform]; rfl⟩
  · exact .inl ⟨'r', rfl, by decide, by rw [hreturn]; rfl⟩
  · exact .inl ⟨'"', rfl, by decide, by rw [hquote]; rfl⟩
  · exact .inl ⟨'\\', rfl, by decide, by rw [hslash]; rfl⟩
  · exact .inr rfl

/-- Digits that spell a character are read as the character. -/
theorem readBasic_code (multiline : Bool) (rest : List Char) {c : Char} {digits : List Char}
    {value : Nat} (hne : digits ≠ [])
    (hdigits : digits.foldlM (fun number d => (Text.hexValue? d).map (number * 16 + ·)) value =
      some c.toNat) :
    readBasic multiline (.code digits.length value) (digits ++ rest) =
      (readBasic multiline .plain rest).map fun read => (c :: read.1, read.2) := by
  refine @Text.read_code (fun missing value => readBasic multiline (.code missing value))
    (readBasic multiline .plain) (fun missing value d input => ?_) rest c digits value hne hdigits
  rw [readBasic]
  simp only [Option.map_eq_bind]
  rfl

/-- An escape is read as the character it was written for. -/
theorem readBasic_escape (multiline : Bool) {c : Char} (hc : c.toNat < 0x10000)
    (rest : List Char) :
    readBasic multiline .plain (escapeOf c ++ rest) =
      (readBasic multiline .plain rest).map fun read => (c :: read.1, read.2) := by
  have hslash (input : List Char) :
      readBasic multiline .plain ('\\' :: input) = readBasic multiline .escape input := by
    rw [readBasic.eq_def]
    rfl
  rcases escapeOf_cases c with ⟨mark, hmark, hplain, hescaped⟩ | hcode
  · simp only [List.mem_cons, List.not_mem_nil, or_false, not_or] at hplain
    obtain ⟨hu, hU, hline, hspace, htab, -⟩ := hplain
    rw [hmark, List.cons_append, hslash, List.cons_append, List.nil_append, readBasic, if_neg hu,
      if_neg hU, if_neg (by simp [hline]), if_neg (by simp [isBlank, hspace, htab]), hescaped,
      Option.map_eq_bind]
    rfl
  · have hnumber : (Text.toUpperHex 4 c.toNat).foldlM
        (fun number d => (Text.hexValue? d).map (number * 16 + ·)) 0 = some c.toNat := by
      have hread := Text.ofHex?_toUpperHex 4 c.toNat
      rwa [Nat.mod_eq_of_lt (by omega)] at hread
    have hlength := Text.length_toUpperHex 4 c.toNat
    have hne : Text.toUpperHex 4 c.toNat ≠ [] := List.ne_nil_of_length_eq_add_one hlength
    have hread := readBasic_code multiline rest hne hnumber
    rw [hlength] at hread
    rw [hcode, List.cons_append, hslash, List.cons_append, readBasic, if_pos rfl, hread]

/-- A character that needs no escape is read as it is. -/
theorem readBasic_plain {multiline : Bool} {c : Char} (hquote : c ≠ '"')
    (hc : needsEscape multiline c = false) (rest : List Char) :
    readBasic multiline .plain (c :: rest) =
      (readBasic multiline .plain rest).map fun read => (c :: read.1, read.2) := by
  simp only [needsEscape, isControl, Bool.or_eq_false_iff, Bool.and_eq_false_iff,
    decide_eq_false_iff_not] at hc
  obtain ⟨⟨⟨htab, hslash⟩, hcontrol⟩, hline⟩ := hc
  have hplain : (isPlain c || (multiline && c = '\n')) = true := by
    cases hp : isPlain c with
    | true => rfl
    | false =>
      rw [hp] at hcontrol
      have hbreak : c = '\n' := by simpa using hcontrol
      cases multiline with
      | true => simp [hbreak]
      | false => simp [hbreak] at hline
  rw [readBasic.eq_def]
  simp only [hslash, hquote, hplain, reduceCtorEq, decide_false, Bool.false_and, if_false, if_true,
    Bool.false_eq_true]
  rw [Option.map_eq_bind]
  rfl

/-- Only characters of the first plane need an escape. -/
theorem toNat_lt_of_needsEscape {multiline : Bool} {c : Char}
    (hc : needsEscape multiline c = true) : c.toNat < 0x10000 := by
  simp only [needsEscape, isControl, isPlain, Bool.or_eq_true, Bool.and_eq_true,
    decide_eq_true_eq, Bool.not_eq_true', Bool.or_eq_false_iff, Bool.and_eq_false_iff,
    decide_eq_false_iff_not] at hc
  rcases hc with ((rfl | rfl) | ⟨⟨-, hc⟩, -⟩) | ⟨rfl, -⟩
  · decide
  · decide
  · omega
  · decide

/-- A body with escapes goes on with a quote as it is, with an escape, or with a character that
needs none. -/
theorem basicBody_cons (multiline : Bool) (allowed run : Nat) (c : Char) (text : List Char) :
    (c = '"' ∧ run < allowed ∧
      basicBody multiline allowed run (c :: text) =
        '"' :: basicBody multiline allowed (run + 1) text) ∨
    (c.toNat < 0x10000 ∧
      basicBody multiline allowed run (c :: text) =
        escapeOf c ++ basicBody multiline allowed 0 text) ∨
    (c ≠ '"' ∧ needsEscape multiline c = false ∧
      basicBody multiline allowed run (c :: text) = c :: basicBody multiline allowed 0 text) := by
  rw [basicBody]
  split_ifs with hquote hrun hescape
  · exact .inl ⟨hquote, hrun, by rw [hquote]⟩
  · exact .inr (.inl ⟨by rw [hquote]; decide, rfl⟩)
  · exact .inr (.inl ⟨toNat_lt_of_needsEscape hescape, rfl⟩)
  · exact .inr (.inr ⟨hquote, Bool.not_eq_true _ ▸ hescape, rfl⟩)

/-! ### Strings on one line -/

/-- A body with every quote escaped is read up to the closing quote. -/
theorem readBasic_line (text rest : List Char) :
    readBasic false .plain (basicBody false 0 0 text ++ '"' :: rest) = some (text, rest) := by
  induction text with
  | nil =>
    rw [basicBody, List.nil_append, readBasic.eq_def]
    rfl
  | cons c text ih =>
    rcases basicBody_cons false 0 0 c text with
      ⟨-, hrun, -⟩ | ⟨hplane, hbody⟩ | ⟨hquote, hescape, hbody⟩
    · exact absurd hrun (Nat.lt_irrefl 0)
    · rw [hbody, List.append_assoc, readBasic_escape false hplane, ih, Option.map_some]
    · rw [hbody, List.cons_append, readBasic_plain hquote hescape, ih, Option.map_some]

/-- A body without the quote of its kind is read up to the closing quote. -/
theorem readLiteral_line {text : List Char} (hplain : ∀ c ∈ text, isPlain c = true)
    (hquote : '\'' ∉ text) (rest : List Char) :
    readLiteral false (text ++ '\'' :: rest) = some (text, rest) := by
  induction text with
  | nil =>
    rw [List.nil_append, readLiteral, if_pos rfl]
    rfl
  | cons c text ih =>
    rw [List.mem_cons, not_or] at hquote
    have hc : isPlain c = true := hplain c List.mem_cons_self
    have htext := ih (fun d hd => hplain d (List.mem_cons_of_mem _ hd)) hquote.2
    rw [List.cons_append, readLiteral, if_neg (Ne.symm hquote.1), hc, Bool.true_or, if_pos rfl,
      htext]
    rfl

/-! ### Runs of quotes -/

/-- A text that begins with something else has no quotes at its front. -/
theorem quoteRun_eq_zero {quote : Char} {text : List Char} (h : text.head? ≠ some quote) :
    quoteRun quote text = 0 := by
  cases text with
  | nil => rfl
  | cons c text =>
    have hc : (c == quote) = false := beq_false_of_ne fun hc => h (by rw [hc]; rfl)
    rw [quoteRun, List.takeWhile_cons_of_neg (by rw [hc]; exact Bool.false_ne_true)]
    rfl

theorem quoteRun_cons (quote : Char) (text : List Char) :
    quoteRun quote (quote :: text) = quoteRun quote text + 1 := by
  simp [quoteRun]

theorem quoteRun_replicate (quote : Char) (count : Nat) (text : List Char) :
    quoteRun quote (List.replicate count quote ++ text) = count + quoteRun quote text := by
  induction count with
  | zero => rw [List.replicate_zero, List.nil_append, Nat.zero_add]
  | succ count ih =>
    rw [List.replicate_succ, List.cons_append, quoteRun_cons, ih]
    omega

/-- What follows a text adds to the quotes at its front only if the text is quotes throughout. -/
theorem quoteRun_append (quote : Char) (text tail : List Char) :
    text = List.replicate text.length quote ∨
      quoteRun quote (text ++ tail) = quoteRun quote text := by
  induction text with
  | nil => exact .inl rfl
  | cons c text ih =>
    by_cases hc : c = quote
    · subst hc
      rcases ih with hall | hrun
      · exact .inl (by rw [List.length_cons, List.replicate_succ, ← hall])
      · exact .inr (by rw [List.cons_append, quoteRun_cons, quoteRun_cons, hrun])
    · have hhead (rest : List Char) : (c :: rest).head? ≠ some quote :=
        fun h => hc (Option.some.inj h)
      exact .inr ((quoteRun_eq_zero (hhead _)).trans (quoteRun_eq_zero (hhead _)).symm)

/-- Up to two quotes before the closing ones belong to the string. -/
theorem closing?_replicate {quote : Char} {count : Nat} (hcount : count ≤ 2) {rest : List Char}
    (hrest : rest.head? ≠ some quote) :
    closing? quote (List.replicate (count + 3) quote ++ rest) =
      some (some (List.replicate count quote, rest)) := by
  have hrun : quoteRun quote (List.replicate (count + 3) quote ++ rest) = count + 3 := by
    rw [quoteRun_replicate, quoteRun_eq_zero hrest, Nat.add_zero]
  have hlength : (List.replicate (count + 3) quote).length = count + 3 := List.length_replicate
  rw [closing?, hrun, if_neg (by omega), if_pos (by omega), Nat.add_sub_cancel,
    List.drop_left' hlength]

/-- Fewer than three quotes close nothing. -/
theorem closing?_eq_none {quote : Char} {text : List Char} (h : quoteRun quote text < 3) :
    closing? quote text = none := by
  rw [closing?]
  exact if_pos h

/-- The quotes that open or close a string over several lines. -/
def tripled (quote : Char) : List Char := [quote, quote, quote]

/-- A text that is a short run of quotes reaches up to the closing ones; one in which no run is
longer than two does not close the string. -/
theorem closing?_text {quote : Char} {text rest : List Char} (hrun : quoteRun quote text < 3)
    (hrest : rest.head? ≠ some quote) :
    (text = List.replicate text.length quote ∧
      closing? quote (text ++ (tripled quote ++ rest)) = some (some (text, rest))) ∨
    closing? quote (text ++ (tripled quote ++ rest)) = none := by
  rcases quoteRun_append quote text (tripled quote ++ rest) with hall | hfront
  · have hcount : text.length ≤ 2 := by
      rw [hall, ← List.append_nil (List.replicate _ _), quoteRun_replicate] at hrun
      omega
    have hclose := closing?_replicate hcount hrest
    rw [List.replicate_add, List.append_assoc, ← hall] at hclose
    exact .inl ⟨hall, hclose⟩
  · exact .inr (closing?_eq_none (hfront ▸ hrun))

/-! ### Strings over several lines -/

/-- In a body with escapes no more quotes stand in a row than are allowed. -/
theorem quoteRun_basicBody {run allowed : Nat} (hrun : run ≤ allowed) (multiline : Bool)
    (text : List Char) :
    quoteRun '"' (basicBody multiline allowed run text) + run ≤ allowed := by
  induction text generalizing run with
  | nil =>
    rw [basicBody]
    exact (Nat.zero_add run).le.trans hrun
  | cons c text ih =>
    have hother {body : List Char} (hhead : body.head? ≠ some '"') :
        quoteRun '"' body + run ≤ allowed := by
      rw [quoteRun_eq_zero hhead, Nat.zero_add]
      exact hrun
    rcases basicBody_cons multiline allowed run c text with
      ⟨rfl, hlt, hbody⟩ | ⟨-, hbody⟩ | ⟨hquote, -, hbody⟩
    · have hnext :
          quoteRun '"' (basicBody multiline allowed (run + 1) text) + (run + 1) ≤ allowed :=
        ih hlt
      rw [hbody, quoteRun_cons]
      omega
    · rw [hbody]
      refine hother ?_
      rcases escapeOf_cases c with ⟨mark, hmark, -⟩ | hcode
      · rw [hmark]
        exact fun h => absurd (Option.some.inj h) (by decide)
      · rw [hcode]
        exact fun h => absurd (Option.some.inj h) (by decide)
    · rw [hbody]
      exact hother fun h => hquote (Option.some.inj h)

/-- A body that is quotes throughout was written for just these quotes. -/
theorem eq_of_basicBody_replicate {multiline : Bool} {allowed run count : Nat} {text : List Char}
    (h : basicBody multiline allowed run text = List.replicate count '"') :
    text = List.replicate count '"' := by
  induction text generalizing run count with
  | nil => rwa [basicBody] at h
  | cons c text ih =>
    rcases basicBody_cons multiline allowed run c text with
      ⟨rfl, -, hbody⟩ | ⟨-, hbody⟩ | ⟨hquote, -, hbody⟩
    · rw [hbody] at h
      cases count with
      | zero => contradiction
      | succ count =>
        rw [List.replicate_succ] at h ⊢
        rw [ih (List.cons.inj h).2]
    · rw [hbody] at h
      have hslash : '\\' ∈ List.replicate count '"' := by
        rw [← h]
        rcases escapeOf_cases c with ⟨mark, hmark, -⟩ | hcode
        · simp [hmark]
        · simp [hcode]
      exact absurd (List.eq_of_mem_replicate hslash) (by decide)
    · rw [hbody] at h
      have hc : c ∈ List.replicate count '"' := h ▸ List.mem_cons_self
      exact absurd (List.eq_of_mem_replicate hc) hquote

/-- At a quote the reader looks at all of those that follow, those of the closing included. -/
theorem readBasic_quote (input : List Char) :
    readBasic true .plain ('"' :: input) =
      match closing? '"' ('"' :: input) with
      | some ending => ending
      | none => (readBasic true .plain input).map fun read => ('"' :: read.1, read.2) := by
  rw [readBasic.eq_def, Option.map_eq_bind]
  rfl

/-- A body with escapes and up to two quotes in a row is read up to the closing quotes. -/
theorem readBasic_lines {rest : List Char} (hrest : rest.head? ≠ some '"') {run : Nat}
    (hrun : run ≤ 2) (text : List Char) :
    readBasic true .plain (basicBody true 2 run text ++ (tripled '"' ++ rest)) =
      some (text, rest) := by
  induction text generalizing run with
  | nil =>
    have hclose : closing? '"' ('"' :: (['"', '"'] ++ rest)) = some (some ([], rest)) :=
      closing?_replicate (Nat.zero_le 2) hrest
    rw [basicBody, List.nil_append, tripled, List.cons_append, readBasic_quote, hclose]
  | cons c text ih =>
    rcases basicBody_cons true 2 run c text with
      ⟨rfl, hlt, hbody⟩ | ⟨hplane, hbody⟩ | ⟨hother, hescape, hbody⟩
    · have hfew := quoteRun_basicBody hrun true ('"' :: text)
      have hshort : quoteRun '"' (basicBody true 2 run ('"' :: text)) < 3 := by omega
      rcases closing?_text hshort hrest with ⟨hall, hclose⟩ | hopen
      · have hsame := hall.trans (eq_of_basicBody_replicate hall).symm
        rw [hsame] at hclose ⊢
        rw [List.cons_append, readBasic_quote, ← List.cons_append, hclose]
      · rw [hbody] at hopen ⊢
        rw [List.cons_append, readBasic_quote, ← List.cons_append, hopen, ih hlt]
        rfl
    · rw [hbody, List.append_assoc, readBasic_escape true hplane, ih (Nat.zero_le 2),
        Option.map_some]
    · rw [hbody, List.cons_append, readBasic_plain hother hescape, ih (Nat.zero_le 2),
        Option.map_some]

/-- Quotes at the front of a text are a run of it. -/
theorem quoteRun_le_longestRun (quote : Char) (text : List Char) :
    quoteRun quote text ≤ longestRun quote text := by
  cases text with
  | nil => exact Nat.le_refl 0
  | cons c text => exact Nat.le_max_left _ _

/-- A text without long runs of its quote is read up to the closing quotes. -/
theorem readLiteral_lines {rest : List Char} (hrest : rest.head? ≠ some '\'') {text : List Char}
    (hplain : ∀ c ∈ text, (isPlain c || c = '\n') = true) (hruns : longestRun '\'' text < 3) :
    readLiteral true (text ++ (tripled '\'' ++ rest)) = some (text, rest) := by
  have hquote (input : List Char) : readLiteral true ('\'' :: input) =
      match closing? '\'' ('\'' :: input) with
      | some ending => ending
      | none => (readLiteral true input).map fun read => ('\'' :: read.1, read.2) := by
    rw [readLiteral, Option.map_eq_bind]
    rfl
  induction text with
  | nil =>
    have hclose : closing? '\'' ('\'' :: (['\'', '\''] ++ rest)) = some (some ([], rest)) :=
      closing?_replicate (Nat.zero_le 2) hrest
    rw [List.nil_append, tripled, List.cons_append, hquote, hclose]
  | cons c text ih =>
    have hc := hplain c List.mem_cons_self
    have hbelow : longestRun '\'' text < 3 := lt_of_le_of_lt (Nat.le_max_right _ _) hruns
    have htext := ih (fun d hd => hplain d (List.mem_cons_of_mem _ hd)) hbelow
    by_cases hsingle : c = '\''
    · subst hsingle
      have hshort := lt_of_le_of_lt (quoteRun_le_longestRun '\'' ('\'' :: text)) hruns
      rw [List.cons_append, hquote, ← List.cons_append]
      rcases closing?_text hshort hrest with ⟨-, hclose⟩ | hopen
      · rw [hclose]
      · rw [hopen, htext]
        rfl
    · rw [List.cons_append, readLiteral, if_neg hsingle, Bool.true_and, hc, if_pos rfl, htext]
      rfl

/-! ### All forms -/

/-- A text without any run of a character does not hold it. -/
theorem not_mem_of_longestRun {quote : Char} {text : List Char} (h : longestRun quote text = 0) :
    quote ∉ text := by
  induction text with
  | nil => exact List.not_mem_nil
  | cons c text ih =>
    rw [longestRun, Nat.max_eq_zero_iff] at h
    rw [List.mem_cons, not_or]
    refine ⟨?_, ih h.2⟩
    rintro rfl
    rw [quoteRun_cons] at h
    exact Nat.succ_ne_zero _ h.1

/-- What each form needs of a text. -/
def StringForm.Fits (text : List Char) : StringForm → Prop
  | .basic _ => True
  | .literal false => (∀ c ∈ text, isPlain c = true) ∧ '\'' ∉ text
  | .literal true =>
    (∀ c ∈ text, (isPlain c || c = '\n') = true) ∧ longestRun '\'' text < 3

/-- The form chosen for a text fits it. -/
theorem StringForm.ofText_fits (text : List Char) : (ofText text).Fits text := by
  have hshown (h : (!text.any isControl) = true) : ∀ c ∈ text, (isPlain c || c = '\n') = true := by
    intro c hc
    rw [Bool.not_eq_true'] at h
    have hcontrol := List.any_eq_false.mp h c hc
    cases hp : isPlain c with
    | true => rfl
    | false => simpa [isControl, hp] using hcontrol
  unfold ofText
  simp only [Bool.and_eq_true, decide_eq_true_eq]
  split_ifs with hfirst hsecond hthird hfourth
  · trivial
  · obtain ⟨⟨hcontrols, hsingles⟩, hbreaks⟩ := hsecond
    refine ⟨fun c hc => ?_, not_mem_of_longestRun hsingles⟩
    have hline : c ≠ '\n' := by
      rintro rfl
      rw [List.contains_iff_mem.mpr hc] at hbreaks
      contradiction
    simpa [hline] using hshown hcontrols c hc
  · trivial
  · exact ⟨hshown hfourth.1, hfourth.2⟩
  · trivial

/-- A break that opens a text over several lines is passed over, and no other one. -/
theorem skipBreak_opening (quote : Char) {text body : List Char}
    (hbody : '\n' ∉ text → body.head? ≠ some '\n') :
    ∃ input, opening (tripled quote) text ++ body = tripled quote ++ input ∧
      skipBreak input = body := by
  unfold opening
  split_ifs with hbreak
  · exact ⟨'\n' :: body, by rw [List.append_assoc]; rfl, rfl⟩
  · have hhead := hbody fun hmem => hbreak (List.contains_iff_mem.mpr hmem)
    refine ⟨body, rfl, ?_⟩
    unfold skipBreak
    split
    · exact absurd rfl hhead
    · rfl

theorem head?_cons_ne {c d : Char} (hc : c ≠ d) (rest : List Char) : (c :: rest).head? ≠ some d :=
  fun h => hc (Option.some.inj h)

/-- An escape begins with a backslash. -/
theorem head?_escapeOf_append (c : Char) (rest : List Char) :
    (escapeOf c ++ rest).head? = some '\\' := by
  rcases escapeOf_cases c with ⟨mark, hmark, -⟩ | hcode
  · rw [hmark]
    rfl
  · rw [hcode]
    rfl

/-- A body with escapes begins with a break only if its text does. -/
theorem head?_basicBody_lines {text : List Char} (hbreak : '\n' ∉ text) (rest : List Char) :
    (basicBody true 2 0 text ++ (tripled '"' ++ rest)).head? ≠ some '\n' := by
  cases text with
  | nil => exact head?_cons_ne (by decide) _
  | cons c text =>
    rcases basicBody_cons true 2 0 c text with ⟨-, -, hbody⟩ | ⟨-, hbody⟩ | ⟨-, -, hbody⟩
    · rw [hbody]
      exact head?_cons_ne (by decide) _
    · rw [hbody, List.append_assoc, head?_escapeOf_append]
      decide
    · rw [hbody]
      exact head?_cons_ne (fun hc => hbreak (List.mem_cons.mpr (.inl hc.symm))) _

/-- A quote and a line of a basic string do not open a string of several lines. -/
theorem basicBody_line_ne (text rest input : List Char) :
    basicBody false 0 0 text ++ '"' :: '\n' :: rest ≠ '"' :: '"' :: input := by
  cases text with
  | nil => exact fun h => absurd (List.cons.inj (List.cons.inj h).2).1 (by decide)
  | cons c text =>
    rcases basicBody_cons false 0 0 c text with ⟨-, hrun, -⟩ | ⟨-, hbody⟩ | ⟨hquote, -, hbody⟩
    · exact absurd hrun (Nat.lt_irrefl 0)
    · intro h
      have hhead := congrArg List.head? h
      rw [hbody, List.append_assoc, head?_escapeOf_append] at hhead
      exact absurd (Option.some.inj hhead) (by decide)
    · rw [hbody]
      exact fun h => hquote (List.cons.inj h).1

/-- Nor do a quote and a line of a literal string. -/
theorem literal_line_ne {text : List Char} (hquote : '\'' ∉ text) (rest input : List Char) :
    text ++ '\'' :: '\n' :: rest ≠ '\'' :: '\'' :: input := by
  cases text with
  | nil => exact fun h => absurd (List.cons.inj (List.cons.inj h).2).1 (by decide)
  | cons c text => exact fun h => hquote (List.mem_cons.mpr (.inl (List.cons.inj h).1.symm))

/-- A written string is read as its text, up to the end of the line. -/
theorem readString_quotedChars (text rest : List Char) :
    readString (quotedChars text ++ '\n' :: rest) = some (text, '\n' :: rest) := by
  have hend {quote : Char} (hquote : '\n' ≠ quote) : ('\n' :: rest).head? ≠ some quote :=
    head?_cons_ne hquote rest
  have hfits := StringForm.ofText_fits text
  unfold quotedChars
  match hform : StringForm.ofText text, hfits with
  | .basic false, _ =>
    have hread := readBasic_line text ('\n' :: rest)
    dsimp only
    rw [List.append_assoc, List.append_assoc, List.singleton_append, List.singleton_append,
      readString.eq_2 _ (basicBody_line_ne text rest), hread]
  | .literal false, ⟨hplain, hquote⟩ =>
    have hread := readLiteral_line hplain hquote ('\n' :: rest)
    dsimp only
    rw [List.append_assoc, List.append_assoc, List.singleton_append, List.singleton_append,
      readString.eq_4 _ (literal_line_ne hquote rest), hread]
  | .basic true, _ =>
    have hread := readBasic_lines (hend (by decide)) (Nat.zero_le 2) text
    obtain ⟨input, hinput, hskip⟩ :=
      skipBreak_opening '"' fun hbreak => head?_basicBody_lines hbreak ('\n' :: rest)
    dsimp only
    rw [List.append_assoc, List.append_assoc]
    change readString (opening (tripled '"') text ++ (_ ++ (tripled '"' ++ _))) = _
    rw [hinput, tripled, List.cons_append, List.cons_append, List.singleton_append, readString,
      hskip, hread]
  | .literal true, ⟨hplain, hruns⟩ =>
    have hread := readLiteral_lines (hend (by decide)) hplain hruns
    have hhead (hbreak : '\n' ∉ text) :
        (text ++ (tripled '\'' ++ '\n' :: rest)).head? ≠ some '\n' := by
      cases text with
      | nil => exact head?_cons_ne (by decide) _
      | cons c text => exact head?_cons_ne (fun hc => hbreak (List.mem_cons.mpr (.inl hc.symm))) _
    obtain ⟨input, hinput, hskip⟩ := skipBreak_opening '\'' hhead
    dsimp only
    rw [List.append_assoc, List.append_assoc]
    change readString (opening (tripled '\'') text ++ (_ ++ (tripled '\'' ++ _))) = _
    rw [hinput, tripled, List.cons_append, List.cons_append, List.singleton_append, readString,
      hskip, hread]

/-! ### No carriage returns -/

/-- A carriage return is written by an escape wherever it occurs. -/
theorem return_not_mem_basicBody (multiline : Bool) (allowed run : Nat) (text : List Char) :
    '\r' ∉ basicBody multiline allowed run text := by
  have hescape (c : Char) : '\r' ∉ escapeOf c := by
    rcases escapeOf_cases c with ⟨mark, hmark, hplain, -⟩ | hcode
    · rw [hmark]
      rintro (_ | ⟨_, _ | ⟨_, h⟩⟩)
      · exact hplain (by simp)
      · contradiction
    · rw [hcode]
      rintro (_ | ⟨_, _ | ⟨_, h⟩⟩)
      exact absurd (Text.isAlphanum_of_mem_toUpperHex h) (by decide)
  induction text generalizing run with
  | nil => exact List.not_mem_nil
  | cons c text ih =>
    rcases basicBody_cons multiline allowed run c text with
      ⟨-, -, hbody⟩ | ⟨-, hbody⟩ | ⟨-, hplain, hbody⟩
    · rw [hbody, List.mem_cons, not_or]
      exact ⟨by decide, ih _⟩
    · rw [hbody, List.mem_append, not_or]
      exact ⟨hescape c, ih _⟩
    · rw [hbody, List.mem_cons, not_or]
      refine ⟨?_, ih _⟩
      rintro rfl
      exact absurd hplain (by cases multiline <;> decide)

/-- No written string holds a carriage return, so joining pairs of breaks does not change it. -/
theorem return_not_mem_quotedChars (text : List Char) : '\r' ∉ quotedChars text := by
  have hfits := StringForm.ofText_fits text
  have hopening (quotes : List Char) (h : '\r' ∉ quotes) : '\r' ∉ opening quotes text := by
    unfold opening
    split_ifs
    · rw [List.mem_append, not_or]
      exact ⟨h, by decide⟩
    · exact h
  unfold quotedChars
  match hform : StringForm.ofText text, hfits with
  | .basic false, _ =>
    simp [return_not_mem_basicBody]
  | .literal false, ⟨hplain, hquote⟩ =>
    have htext : '\r' ∉ text := fun hmem => absurd (hplain _ hmem) (by decide)
    simp [htext]
  | .basic true, _ =>
    simp [return_not_mem_basicBody, hopening]
  | .literal true, ⟨hplain, hruns⟩ =>
    have htext : '\r' ∉ text := fun hmem => absurd (hplain _ hmem) (by decide)
    simp [htext, hopening]

end ForeignMatrix.Toml
