import ForeignMatrix.Document.Json
import ForeignMatrix.Element.Shortest
import Mathlib

/-!
# Numbers that documents read

What a number looks like in a JSON document, and that integers in decimal and the shortest texts
of doubles look like that. A document that consists of such a text is read as this number.
-/

namespace ForeignMatrix.JsonValue

/-! ### The parts of a number -/

/-- At least one character, and digits only. -/
structure IsDigits (digits : List Char) : Prop where
  /-- There is one. -/
  nonempty : digits ≠ []
  /-- All are digits. -/
  digit : ∀ c ∈ digits, c.isDigit = true

/-- Digits in front of a point. A zero among them does not come first unless it is alone. -/
structure IsWhole (digits : List Char) : Prop extends IsDigits digits where
  /-- No needless zero. -/
  lead : digits = ['0'] ∨ digits.head? ≠ some '0'

/-- A point with digits behind it, or nothing. -/
inductive IsFraction : List Char → Prop
  /-- Nothing. -/
  | absent : IsFraction []
  /-- Point and digits. -/
  | point {digits : List Char} (h : IsDigits digits) : IsFraction ('.' :: digits)

/-- The mark of an exponent with digits behind it, or nothing. -/
inductive IsExponent : List Char → Prop
  /-- Nothing. -/
  | absent : IsExponent []
  /-- Mark and digits. -/
  | positive {digits : List Char} (h : IsDigits digits) : IsExponent ('e' :: digits)
  /-- Mark, sign and digits. -/
  | negative {digits : List Char} (h : IsDigits digits) : IsExponent ('e' :: '-' :: digits)

/-- What follows does not begin with a digit. -/
def Stops (rest : List Char) : Prop := ∀ c ∈ rest.head?, c.isDigit = false

theorem IsFraction.stops {fraction : List Char} (h : IsFraction fraction) : Stops fraction := by
  cases h with
  | absent => simp [Stops]
  | point _ => simp [Stops]

theorem IsExponent.stops {exponent : List Char} (h : IsExponent exponent) : Stops exponent := by
  cases h with
  | absent => simp [Stops]
  | positive _ => simp [Stops]
  | negative _ => simp [Stops]

/-- A run of digits is read to its end. -/
theorem readDigits_append {digits rest : List Char} (hd : IsDigits digits) (hr : Stops rest) :
    readDigits (digits ++ rest) = some (digits, rest) := by
  have htake : (digits ++ rest).takeWhile Char.isDigit = digits := by
    rw [List.takeWhile_append_of_pos hd.digit]
    cases rest with
    | nil => simp
    | cons c rest =>
      have hc : c.isDigit = false := hr c rfl
      simp [hc]
  have hdrop : (digits ++ rest).dropWhile Char.isDigit = rest := by
    rw [List.dropWhile_append_of_pos hd.digit]
    cases rest with
    | nil => rfl
    | cons c rest =>
      have hc : c.isDigit = false := hr c rfl
      simp [hc]
  rw [readDigits, htake, hdrop]
  cases digits with
  | nil => exact absurd rfl hd.nonempty
  | cons c digits => rfl

theorem readWhole_append {digits rest : List Char} (hw : IsWhole digits) (hr : Stops rest) :
    readWhole (digits ++ rest) = some (digits, rest) := by
  rcases hw.lead with rfl | hlead
  · have hnone : rest.head?.any Char.isDigit = false := by
      cases rest with
      | nil => rfl
      | cons c rest => exact hr c rfl
    rw [List.singleton_append, readWhole, hnone]
    rfl
  · rw [← readDigits_append hw.toIsDigits hr]
    cases digits with
    | nil => exact absurd rfl hw.nonempty
    | cons c digits =>
      have hc : c ≠ '0' := fun h => hlead (by rw [h]; rfl)
      rw [List.cons_append, readWhole.eq_2]
      simp [hc]

theorem readFraction_append {fraction exponent : List Char} (hf : IsFraction fraction)
    (he : IsExponent exponent) :
    readFraction (fraction ++ exponent) = some (fraction, exponent) := by
  cases hf with
  | absent =>
    cases he <;> rfl
  | point hd =>
    rw [List.cons_append, readFraction, readDigits_append hd he.stops]
    rfl

theorem readExponent_eq {exponent : List Char} (he : IsExponent exponent) :
    readExponent exponent = some (exponent, []) := by
  have hread {digits : List Char} (hd : IsDigits digits) :
      readDigits digits = some (digits, []) := by
    have hstop : Stops [] := by simp [Stops]
    have h := readDigits_append hd hstop
    rwa [List.append_nil] at h
  cases he with
  | absent => rfl
  | negative hd =>
    rw [readExponent, if_pos (.inl rfl)]
    dsimp only
    rw [if_pos (.inr rfl), hread hd]
    rfl
  | @positive digits hd =>
    cases digits with
    | nil => exact absurd rfl hd.nonempty
    | cons c digits =>
      have hdigit := hd.digit c List.mem_cons_self
      have hsign : ¬ (c = '+' ∨ c = '-') := by
        rintro (rfl | rfl) <;> exact absurd hdigit (by decide)
      rw [readExponent, if_pos (.inl rfl)]
      dsimp only
      rw [if_neg hsign, hread hd]
      rfl

/-! ### Whole numbers -/

/-- A sign or none, digits, a fraction and an exponent. -/
inductive IsNumber : List Char → Prop
  /-- One after the other. -/
  | parts {sign whole fraction exponent : List Char} (hs : sign = [] ∨ sign = ['-'])
      (hw : IsWhole whole) (hf : IsFraction fraction) (he : IsExponent exponent) :
      IsNumber (sign ++ (whole ++ (fraction ++ exponent)))

theorem IsFraction.stops_append {fraction exponent : List Char} (hf : IsFraction fraction)
    (he : IsExponent exponent) : Stops (fraction ++ exponent) := by
  cases hf with
  | absent => exact he.stops
  | point hd => exact (IsFraction.point hd).stops

/-- Behind a sign and the digits, a number is read to its end. -/
theorem readParts {whole fraction exponent : List Char} (hw : IsWhole whole)
    (hf : IsFraction fraction) (he : IsExponent exponent) (sign : List Char) :
    (do
      let (whole, rest) ← readWhole (whole ++ (fraction ++ exponent))
      let (fraction, rest) ← readFraction rest
      let (exponent, rest) ← readExponent rest
      pure (JsonValue.number (String.ofList (sign ++ whole ++ fraction ++ exponent)), rest)) =
      some (.number (String.ofList (sign ++ (whole ++ (fraction ++ exponent)))), []) := by
  simp only [readWhole_append hw (hf.stops_append he), readFraction_append hf he,
    readExponent_eq he, Option.bind_eq_bind, Option.bind_some, List.append_assoc]
  rfl

/-- A number is read as it stands. -/
theorem readNumber_eq {chars : List Char} (h : IsNumber chars) :
    readNumber chars = some (.number (String.ofList chars), []) := by
  obtain ⟨hs, hw, hf, he⟩ := h
  rename_i sign whole fraction exponent
  have hread := readParts hw hf he sign
  rcases hs with rfl | rfl
  · obtain ⟨c, rest, rfl⟩ := List.exists_cons_of_ne_nil hw.nonempty
    have hc : c ≠ '-' := by
      rintro rfl
      exact absurd (hw.digit '-' List.mem_cons_self) (by decide)
    rw [List.nil_append, readNumber]
    · exact hread
    · exact fun _ hsign => hc (List.cons.inj hsign).1
  · exact hread

/-- The ten digits. -/
theorem mem_digits {c : Char} (hc : c.isDigit = true) : c ∈ "0123456789".toList := by
  obtain ⟨hlow, hhigh⟩ : 48 ≤ c.toNat ∧ c.toNat ≤ 57 := by
    simp [Char.isDigit] at hc
    exact hc
  rw [← Char.ofNat_toNat c]
  generalize c.toNat = code at hlow hhigh ⊢
  interval_cases code <;> decide

/-- A value that begins like a number is read as one. -/
theorem readValue_of_digit {c : Char} (hc : c = '-' ∨ c.isDigit = true) (rest : List Char)
    (steps : Nat) : readValue (steps + 1) (c :: rest) = readNumber (c :: rest) := by
  have hmem : c ∈ "-0123456789".toList := by
    rcases hc with rfl | hc
    · exact List.mem_cons_self
    · exact List.mem_cons_of_mem _ (mem_digits hc)
  rw [readValue]
  fin_cases hmem <;> rfl

/-- A document that consists of a number is read as it. -/
theorem parse?_number {chars : List Char} (h : IsNumber chars) :
    parse? (String.ofList chars) = some (.number (String.ofList chars)) := by
  obtain ⟨c, rest, hchars, hc⟩ :
      ∃ c rest, chars = c :: rest ∧ (c = '-' ∨ c.isDigit = true) := by
    obtain ⟨rfl | rfl, hw, hf, he⟩ := h
    · obtain ⟨c, rest, rfl⟩ := List.exists_cons_of_ne_nil hw.nonempty
      exact ⟨c, _, rfl, .inr (hw.digit c List.mem_cons_self)⟩
    · exact ⟨'-', _, rfl, .inl rfl⟩
  have hread (steps : Nat) :
      readValue (steps + 1) chars = some (.number (String.ofList chars), []) := by
    rw [← readNumber_eq h, hchars]
    exact readValue_of_digit hc rest steps
  unfold parse?
  simp only [String.toList_ofList, hread, Option.bind_eq_bind, Option.bind_some]
  rfl

/-! ### Integers -/

theorem isDigits_toDigits (n : Nat) : IsDigits (Nat.toDigits 10 n) where
  nonempty := Nat.toDigits_ne_nil
  digit _ hc := Nat.isDigit_of_mem_toDigits (by decide) (by decide) hc

/-- The first digit of a positive number is not zero. -/
theorem head?_toDigits {n : Nat} (hn : 0 < n) : (Nat.toDigits 10 n).head? ≠ some '0' := by
  induction n using Nat.strong_induction_on with
  | _ n ih =>
    by_cases hsmall : n < 10
    · rw [Nat.toDigits_of_lt_base hsmall]
      interval_cases n <;> decide
    · have hrest := ih (n / 10) (by omega) (by omega)
      rw [Nat.toDigits_of_base_le (by decide) (by omega),
        List.head?_append_of_ne_nil _ Nat.toDigits_ne_nil]
      exact hrest

theorem isWhole_toDigits (n : Nat) : IsWhole (Nat.toDigits 10 n) where
  toIsDigits := isDigits_toDigits n
  lead := by
    rcases Nat.eq_zero_or_pos n with rfl | hn
    · exact .inl rfl
    · exact .inr (head?_toDigits hn)

/-- An integer is written as its digits, with a sign if it is negative. -/
theorem toList_toString_int (n : Int) :
    (toString n).toList = Nat.toDigits 10 n.natAbs ∨
      (toString n).toList = '-' :: Nat.toDigits 10 n.natAbs := by
  cases n with
  | ofNat n => exact .inl Nat.toList_repr
  | negSucc n =>
    right
    change ("-" ++ n.succ.repr).toList = _
    rw [String.toList_append, Nat.toList_repr]
    rfl

/-- A document that consists of an integer is read as it. -/
theorem parse?_int (n : Int) : parse? (toString n) = some (.number (toString n)) := by
  have hnumber : IsNumber (toString n).toList := by
    rcases toList_toString_int n with h | h <;> rw [h]
    · simpa using IsNumber.parts (.inl rfl) (isWhole_toDigits n.natAbs) .absent .absent
    · simpa using IsNumber.parts (.inr rfl) (isWhole_toDigits n.natAbs) .absent .absent
  simpa using parse?_number hnumber

theorem isExponent_int (n : Int) : IsExponent ('e' :: (toString n).toList) := by
  rcases toList_toString_int n with h | h <;> rw [h]
  · exact .positive (isDigits_toDigits _)
  · exact .negative (isDigits_toDigits _)

end ForeignMatrix.JsonValue

namespace ForeignMatrix.Element

open JsonValue

/-! ### Doubles -/

namespace Binary

variable {format : BinaryFormat}

/-- The significand of a pattern that is no zero is positive. -/
theorem significand_pos {x : Binary format} (hx : x.magnitude ≠ 0) : 0 < x.significand := by
  have hpow : 0 < Nat.pow 2 format.fractionBits := Nat.two_pow_pos _
  rw [significand]
  split_ifs with hfield
  · have hsmall : x.magnitude < Nat.pow 2 format.fractionBits :=
      (Nat.div_eq_zero_iff_lt hpow).mp hfield
    rw [fractionField, Nat.mod_eq_of_lt hsmall]
    omega
  · omega

theorem ratio_pos {m : Nat} (hm : 0 < m) (e : Int) : 0 < (ratio m e).1 := by
  rw [ratio]
  split_ifs
  · exact Nat.mul_pos hm (Nat.two_pow_pos _)
  · exact hm

/-- Zero does not round to such a pattern. -/
theorem pos_of_roundsTo {x : Binary format} (hx : 0 < x.significand) {d : Nat} {k : Int}
    (h : x.roundsTo d k = true) : 0 < d := by
  by_contra hzero
  obtain rfl : d = 0 := by omega
  have hpow : 0 < Nat.pow 10 (-k).toNat := Nat.pow_pos (by decide)
  obtain ⟨low, scale, hlower⟩ : ∃ low scale, ratio (4 * x.significand -
      if x.fractionField = 0 ∧ 1 < x.exponentField then 1 else 2) (x.exponent - 2) =
        (low, scale) := ⟨_, _, rfl⟩
  have hlow : 0 < low := by
    have hpos : 0 < 4 * x.significand -
        if x.fractionField = 0 ∧ 1 < x.exponentField then 1 else 2 := by split_ifs <;> omega
    have h := ratio_pos hpos (x.exponent - 2)
    rwa [hlower] at h
  rw [roundsTo, hlower] at h
  have hbelow : 0 < low * Nat.pow 10 (-k).toNat := Nat.mul_pos hlow hpow
  by_cases hk : 0 ≤ k <;> simp only [hk, if_true, if_false, Nat.zero_mul, Nat.mul_one] at h <;>
    split_ifs at h <;> simp only [decide_eq_true_eq] at h <;> omega

/-- Nor is it the candidate for one. -/
theorem pos_of_candidate {x : Binary format} (hx : 0 < x.significand) {d : Nat} {k : Int}
    (h : x.candidate k = some d) : 0 < d := by
  rw [candidate] at h
  dsimp only at h
  split_ifs at h <;> cases h <;> exact pos_of_roundsTo hx ‹_›

/-- The shortest digits of such a pattern are not all zeros. -/
theorem shortestDigits_pos {x : Binary format} (hs : 0 < x.significand) :
    0 < x.shortestDigits.1 := by
  rw [shortestDigits]
  dsimp only
  cases hfound : (List.range 18).findSome? fun (count : Nat) =>
      (x.candidate (x.pointPosition - (count + 1 : Nat))).map
        (·, x.pointPosition - (count + 1 : Nat)) with
  | none => exact hs
  | some found =>
    obtain ⟨count, -, hcount⟩ := List.exists_of_findSome?_eq_some hfound
    obtain ⟨d, hd, rfl⟩ := Option.map_eq_some_iff.mp hcount
    exact pos_of_candidate hs hd

end Binary

/-- Digits that do not begin with a zero. -/
structure IsLed (digits : List Char) : Prop extends IsDigits digits where
  /-- The first digit is not zero. -/
  head : digits.head? ≠ some '0'

theorem IsLed.take {digits : List Char} (hd : IsLed digits) (count : Nat) (hc : 0 < count) :
    IsLed (digits.take count) where
  nonempty h := by
    rcases List.take_eq_nil_iff.mp h with h | h
    · omega
    · exact hd.nonempty h
  digit c hmem := hd.digit c (List.mem_of_mem_take hmem)
  head := by
    rw [List.head?_take, if_neg (by omega)]
    exact hd.head

theorem IsLed.append {digits more : List Char} (hd : IsLed digits)
    (hmore : ∀ c ∈ more, c.isDigit = true) : IsLed (digits ++ more) where
  nonempty := List.append_ne_nil_of_left_ne_nil hd.nonempty more
  digit c hc := (List.mem_append.mp hc).elim (hd.digit c) (hmore c)
  head := by
    rw [List.head?_append_of_ne_nil _ hd.nonempty]
    exact hd.head

theorem IsLed.isWhole {digits : List Char} (hd : IsLed digits) : IsWhole digits :=
  ⟨hd.toIsDigits, .inr hd.head⟩

/-- Not all digits are dropped as trailing zeros. -/
theorem isLed_trimZeros {digits : List Char} (hd : IsLed digits) (k : Int) :
    IsLed (trimZeros digits k).1 := by
  have hzeros : (digits.reverse.takeWhile (· == '0')).length < digits.length := by
    have hlength : digits.reverse.length = digits.length := List.length_reverse
    rw [← hlength]
    refine lt_of_le_of_ne (List.takeWhile_prefix _).length_le fun heq => hd.head ?_
    have hall := (List.takeWhile_prefix (· == '0')).eq_of_length heq
    rw [List.takeWhile_eq_self_iff] at hall
    obtain ⟨c, rest, rfl⟩ := List.exists_cons_of_ne_nil hd.nonempty
    have hc := hall c (by simp)
    rw [List.head?_cons, beq_iff_eq.mp hc]
  exact hd.take _ (by omega)

/-- Digits times a power of ten are written as a number. -/
theorem DecimalStyle.isNumber_write (style : DecimalStyle) {digits : List Char} (hd : IsLed digits)
    (k : Int) {sign : List Char} (hsign : sign = [] ∨ sign = ['-']) :
    IsNumber (sign ++ style.write digits k) := by
  have hzeros (count : Nat) : ∀ c ∈ List.replicate count '0', c.isDigit = true := by
    intro c hc
    rw [List.eq_of_mem_replicate hc]
    rfl
  unfold write
  dsimp only
  split_ifs with hlarge hpoint hsmall
  · have hwhole := (hd.append (hzeros k.toNat)).isWhole
    have hfraction : IsFraction ['.', '0'] := .point ⟨by simp, by simp⟩
    simpa using IsNumber.parts hsign hwhole hfraction .absent
  · have hwhole := (hd.take (digits.length + k).toNat (by omega)).isWhole
    have hfraction : IsFraction ('.' :: digits.drop (digits.length + k).toNat) := by
      refine .point ⟨fun h => ?_, fun c hc => hd.digit c (List.mem_of_mem_drop hc)⟩
      have hlong := List.drop_eq_nil_iff.mp h
      omega
    simpa using IsNumber.parts hsign hwhole hfraction .absent
  · have hwhole : IsWhole ['0'] := ⟨⟨by simp, by simp⟩, .inl rfl⟩
    have hfraction : IsFraction
        ('.' :: (List.replicate (-(digits.length + k)).toNat '0' ++ digits)) := by
      refine .point ⟨List.append_ne_nil_of_right_ne_nil _ hd.nonempty, fun c hc => ?_⟩
      exact (List.mem_append.mp hc).elim (hzeros _ c) (hd.digit c)
    simpa using IsNumber.parts hsign hwhole hfraction .absent
  · have hexponent := isExponent_int (digits.length + k - 1)
    match digits, hd with
    | [], hd => exact absurd rfl hd.nonempty
    | [digit], hd => simpa using IsNumber.parts hsign hd.isWhole .absent hexponent
    | digit :: next :: rest, hd =>
      have hwhole := (hd.take 1 (by decide)).isWhole
      have hfraction : IsFraction ('.' :: next :: rest) :=
        .point ⟨List.cons_ne_nil _ _, fun c hc => hd.digit c (List.mem_cons_of_mem _ hc)⟩
      simpa using IsNumber.parts hsign hwhole hfraction hexponent

/-- A document that consists of the shortest text of a double is read as this number. -/
theorem parse?_shortest (x : Binary .double) :
    parse? (shortest x) = some (.number (shortest x)) := by
  have hsign : (if x.negative then ['-'] else []) = [] ∨
      (if x.negative then ['-'] else []) = ['-'] := by
    cases x.negative
    · exact .inl rfl
    · exact .inr rfl
  rw [shortest]
  generalize (if x.negative then ['-'] else []) = sign at hsign ⊢
  dsimp only
  split_ifs with hzero
  · have hwhole : IsWhole ['0'] := ⟨⟨by simp, by simp⟩, .inl rfl⟩
    have hfraction : IsFraction ['.', '0'] := .point ⟨by simp, by simp⟩
    exact parse?_number (.parts hsign hwhole hfraction .absent)
  · have hpos := Binary.shortestDigits_pos (Binary.significand_pos hzero)
    have hled : IsLed (Nat.toDigits 10 x.shortestDigits.1) :=
      ⟨isDigits_toDigits _, head?_toDigits hpos⟩
    exact parse?_number (documentStyle.isNumber_write (isLed_trimZeros hled _) _ hsign)

end ForeignMatrix.Element
