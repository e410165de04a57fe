import ForeignMatrix.Element.Kind
import ForeignMatrix.Proofs.Element.Rounding

/-!
# Narrowing and widening

Where one format fits into another, widening keeps every value and narrowing takes
the nearest one. What the nearest one is follows the standard: the sign stays, a
tie goes to the pattern whose last bit is zero, and from half a step above the
greatest finite value on it is infinity. Infinities behave as if they had the next
value of the scale, and so narrowing is monotone over them as well. A pattern that
is not a number has no value and is left out.
-/

namespace ForeignMatrix.Element

namespace BinaryFormat

/-- Every value of the first format is one of the second. -/
structure Fits (small large : BinaryFormat) : Prop where
  /-- Both have an exponent field for subnormal values, one for infinity and one in between. -/
  normal : 2 ≤ small.exponentBits
  /-- Both have a fraction. -/
  fraction : 0 < small.fractionBits
  /-- The second has no fewer exponents. -/
  exponents : small.exponentBits ≤ large.exponentBits
  /-- The second has no fewer significands. -/
  fractions : small.fractionBits ≤ large.fractionBits

/-- Half a step above the greatest finite value, where rounding to infinity begins. -/
def overflow (format : BinaryFormat) : ℚ :=
  (2 - 2 ^ (-(format.fractionBits + 1 : Nat) : Int)) * 2 ^ format.bias

variable {format small large : BinaryFormat} {n : Nat} {q : ℚ}

theorem bias_succ (hnormal : 2 ≤ format.exponentBits) :
    2 ^ format.exponentBits = 2 * (format.bias + 1) := by
  obtain ⟨bits, hbits⟩ := Nat.exists_eq_add_of_le' hnormal
  have hpos : 0 < 2 ^ (bits + 1) := Nat.two_pow_pos _
  unfold bias
  rw [hbits, Nat.pow_eq, show bits + 2 - 1 = bits + 1 from rfl, pow_succ]
  omega

theorem Fits.bias_le (h : small.Fits large) : small.bias ≤ large.bias := by
  have hpower : 2 ^ small.exponentBits ≤ 2 ^ large.exponentBits :=
    Nat.pow_le_pow_right two_pos h.exponents
  rw [bias_succ h.normal, bias_succ (h.normal.trans h.exponents)] at hpower
  omega

theorem infinity_lt (format : BinaryFormat) :
    format.infinity < Nat.pow 2 format.magnitudeBits := by
  have hexponents : 0 < 2 ^ format.exponentBits := Nat.two_pow_pos _
  have hfractions : 0 < 2 ^ format.fractionBits := Nat.two_pow_pos _
  unfold infinity magnitudeBits
  rw [Nat.pow_eq, Nat.pow_eq, Nat.pow_eq, pow_add]
  exact Nat.mul_lt_mul_of_pos_right (Nat.sub_lt hexponents one_pos) hfractions

/-- Infinity ends an octave. -/
theorem infinity_eq (hnormal : 2 ≤ format.exponentBits) :
    format.infinity =
      (2 ^ format.exponentBits - 3) * 2 ^ format.fractionBits + 2 * 2 ^ format.fractionBits := by
  have hmany : 4 ≤ 2 ^ format.exponentBits := Nat.pow_le_pow_right two_pos hnormal
  have hfields : 2 ^ format.exponentBits - 1 = 2 ^ format.exponentBits - 3 + 2 := by omega
  unfold infinity
  rw [Nat.pow_eq, Nat.pow_eq, hfields, add_mul]

theorem infinity_pos (hnormal : 2 ≤ format.exponentBits) : 0 < format.infinity := by
  have hpos : 0 < 2 ^ format.fractionBits := Nat.two_pow_pos _
  rw [infinity_eq hnormal]
  omega

theorem infinity_even (hfraction : 0 < format.fractionBits) : Even format.infinity := by
  have hwhole : Even (2 ^ format.fractionBits) := even_two.pow_of_ne_zero hfraction.ne'
  exact hwhole.mul_left _

/-- The last octave before infinity, in terms of the bias. -/
theorem spacing_last (hnormal : 2 ≤ format.exponentBits) :
    2 ^ format.fractionBits * format.spacing (2 ^ format.exponentBits - 3) = 2 ^ format.bias := by
  have hbias := bias_succ hnormal
  have hmany : 4 ≤ 2 ^ format.exponentBits := Nat.pow_le_pow_right two_pos hnormal
  unfold spacing
  rw [← zpow_natCast, ← zpow_natCast, ← zpow_add₀ two_ne_zero]
  congr 1
  omega

theorem scale_infinity (hnormal : 2 ≤ format.exponentBits) :
    format.scale format.infinity = 2 ^ (format.bias + 1) := by
  rw [infinity_eq hnormal, scale_line (.inr (Nat.le_mul_of_pos_left _ two_pos)) le_rfl, pow_succ,
    ← spacing_last hnormal]
  push_cast
  ring

/-- Rounding to infinity begins in the middle between it and the greatest finite magnitude. -/
theorem overflow_mid (hnormal : 2 ≤ format.exponentBits) :
    format.scale (format.infinity - 1) + format.scale format.infinity = 2 * format.overflow := by
  have hpos : 0 < 2 ^ format.fractionBits := Nat.two_pow_pos _
  have hlast : format.infinity - 1 = (2 ^ format.exponentBits - 3) * 2 ^ format.fractionBits +
      (2 * 2 ^ format.fractionBits - 1) := by
    rw [infinity_eq hnormal]
    omega
  have hcast : ((2 * 2 ^ format.fractionBits - 1 : Nat) : ℚ) = 2 * 2 ^ format.fractionBits - 1 := by
    rw [Nat.cast_sub (by omega)]
    push_cast
    rfl
  rw [scale_infinity hnormal, hlast, scale_line (.inr (by omega)) (by omega), hcast]
  unfold overflow
  rw [zpow_neg, zpow_natCast, pow_succ, pow_succ, ← spacing_last hnormal]
  field_simp
  ring

theorem Fits.scale_infinity_le (h : small.Fits large) :
    small.scale small.infinity ≤ large.scale large.infinity := by
  rw [scale_infinity h.normal, scale_infinity (h.normal.trans h.exponents)]
  exact pow_le_pow_right₀ one_le_two (Nat.succ_le_succ h.bias_le)

/-- A significand can be kept in any octave. -/
theorem exists_scale (format : BinaryFormat) (octave : Nat) : ∀ significand : Nat,
    significand ≤ 2 * 2 ^ format.fractionBits →
      ∃ k, format.scale k = significand * format.spacing octave := by
  induction octave with
  | zero => exact fun significand hle => ⟨_, scale_line (.inl rfl) hle⟩
  | succ octave ih =>
    intro significand hle
    rcases Nat.lt_or_ge significand (2 ^ format.fractionBits) with hless | hleast
    · -- Half the distance needs twice the significand.
      obtain ⟨k, hk⟩ := ih (2 * significand) (by omega)
      refine ⟨k, hk.trans ?_⟩
      rw [spacing_succ]
      push_cast
      ring
    · exact ⟨_, scale_line (.inr hleast) hle⟩

/-- Every finite value of a format is one of a format that it fits into. -/
theorem Fits.exists_scale_eq (h : small.Fits large) (hn : n < small.infinity) :
    ∃ k < large.infinity, large.scale k = small.scale n := by
  obtain ⟨octave, steps, rfl, hlow, hhigh⟩ := small.exists_octave n
  have hwidth : 2 ^ small.fractionBits ≤ 2 ^ large.fractionBits :=
    Nat.pow_le_pow_right two_pos h.fractions
  obtain ⟨more, hmore⟩ := Nat.exists_eq_add_of_le (Nat.add_le_add h.bias_le h.fractions)
  have hspacing : large.spacing (octave + more) = small.spacing octave := by
    unfold spacing
    congr 1
    omega
  obtain ⟨k, hk⟩ := large.exists_scale (octave + more) steps (by omega)
  rw [hspacing, ← scale_line hlow hhigh.le] at hk
  refine ⟨k, large.scale_strictMono.lt_iff_lt.mp ?_, hk⟩
  rw [hk]
  exact (small.scale_strictMono hn).trans_le h.scale_infinity_le

/-- Infinity is the nearest magnitude to its own value and to greater ones. -/
theorem nearest_infinity (h : format.scale format.infinity ≤ q) :
    format.Nearest (Set.Iic format.infinity) q format.infinity := by
  refine ⟨Set.self_mem_Iic, fun k hk => ?_, fun k hk hne he => ?_⟩
  · have hle := format.scale_strictMono.monotone (Set.mem_Iic.mp hk)
    rw [abs_of_nonneg (by linarith), abs_of_nonneg (by linarith)]
    linarith
  · have hlt := format.scale_strictMono (lt_of_le_of_ne (Set.mem_Iic.mp hk) hne)
    rw [abs_of_nonneg (by linarith), abs_of_nonneg (by linarith)] at he
    linarith

/-- Infinity is the nearest magnitude from half a step above the greatest finite value on. -/
theorem Nearest.eq_infinity_iff (hnormal : 2 ≤ format.exponentBits)
    (hfraction : 0 < format.fractionBits) (h : format.Nearest (Set.Iic format.infinity) q n) :
    n = format.infinity ↔ format.overflow ≤ q := by
  have hmid := overflow_mid hnormal
  have hpos := infinity_pos hnormal
  have hstep := format.scale_strictMono (Nat.sub_lt hpos one_pos)
  constructor
  · rintro rfl
    have hle := (abs_sub_le_iff_mid hstep).mp (h.closest _ (Nat.sub_le _ _))
    linarith
  · intro hle
    by_contra hne
    have hlt : n < format.infinity := lt_of_le_of_ne h.mem hne
    have hscale := format.scale_strictMono hlt
    have hlast := format.scale_strictMono.monotone (Nat.le_sub_one_of_lt hlt)
    have hclosest := h.closest format.infinity Set.self_mem_Iic
    have hupper := (abs_sub_ge_iff_mid hscale).mp hclosest
    -- In the middle itself infinity is even and what precedes it is not.
    have hlower : |q - format.scale format.infinity| ≤ |q - format.scale n| :=
      (abs_sub_le_iff_mid hscale).mpr (by linarith)
    have hsame : format.scale n = format.scale (format.infinity - 1) := by linarith
    have hindex := format.scale_strictMono.injective hsame
    obtain ⟨a, ha⟩ := h.even _ Set.self_mem_Iic hlt.ne' (le_antisymm hclosest hlower)
    obtain ⟨b, hb⟩ := infinity_even hfraction
    omega

end BinaryFormat

namespace Binary

open BinaryFormat

variable {format source target small large : BinaryFormat}

/-! ### Values -/

/-- Value of a finite pattern. An infinity gets the value that the scale would go on with. -/
def amount (x : Binary format) : ℚ :=
  (if x.negative then -1 else 1) * (x.significand * 2 ^ x.exponent)

/-- Value of a pattern that is a number. Both zeros have the same one. -/
def value (x : Binary format) : WithBot (WithTop ℚ) :=
  if x.isInfinite then if x.negative then ⊥ else ⊤ else ((x.amount : WithTop ℚ) : WithBot _)

/-- What rounding to nearest makes of a number in another format. -/
structure IsNearest (x : Binary source) (y : Binary target) : Prop where
  /-- The result is a number. -/
  number : y.isNaN = false
  /-- The sign is kept, that of zero too. -/
  sign : y.negative = x.negative
  /-- It is infinite for infinities and from the overflow threshold on. -/
  infinite : y.isInfinite = true ↔ x.isInfinite = true ∨ target.overflow ≤ |x.amount|
  /-- If it is finite, no finite number is nearer. -/
  closest : y.isInfinite = false → ∀ z : Binary target, z.isNaN = false → z.isInfinite = false →
    |x.amount - y.amount| ≤ |x.amount - z.amount|
  /-- If another finite number is as near, the last bit of the result is zero. -/
  even : y.isInfinite = false → ∀ z : Binary target, z.isNaN = false → z.isInfinite = false →
    z ≠ y → |x.amount - y.amount| = |x.amount - z.amount| → Even y.magnitude

variable {x y : Binary format}

theorem isNaN_eq_false : x.isNaN = false ↔ x.magnitude ≤ format.infinity := by
  simp [isNaN]

theorem isInfinite_iff : x.isInfinite = true ↔ x.magnitude = format.infinity := by
  simp [isInfinite]

theorem isInfinite_eq_false (hx : x.isNaN = false) :
    x.isInfinite = false ↔ x.magnitude < format.infinity := by
  have hle := isNaN_eq_false.mp hx
  rw [← Bool.not_eq_true, isInfinite_iff]
  omega

theorem amount_eq : x.amount =
    if x.negative then -format.scale x.magnitude else format.scale x.magnitude := by
  have hscale : (x.significand * 2 ^ x.exponent : ℚ) = format.scale x.magnitude := rfl
  unfold amount
  rw [hscale]
  split_ifs
  · exact neg_one_mul _
  · exact one_mul _

@[simp] theorem abs_amount : |x.amount| = format.scale x.magnitude := by
  rw [amount_eq]
  split_ifs
  · rw [abs_neg, abs_of_nonneg (format.scale_nonneg _)]
  · exact abs_of_nonneg (format.scale_nonneg _)

/-- Patterns of one sign are as far apart as their magnitudes. -/
theorem abs_amount_sub {x : Binary source} {y : Binary target} (h : y.negative = x.negative) :
    |x.amount - y.amount| = |source.scale x.magnitude - target.scale y.magnitude| := by
  rw [amount_eq, amount_eq, h]
  split_ifs
  · rw [neg_sub_neg, abs_sub_comm]
  · rfl

/-- Patterns of different signs are apart by both magnitudes. -/
theorem abs_amount_sub_opposite {x : Binary source} {y : Binary target}
    (h : y.negative ≠ x.negative) :
    |x.amount - y.amount| = source.scale x.magnitude + target.scale y.magnitude := by
  have hx := source.scale_nonneg x.magnitude
  have hy := target.scale_nonneg y.magnitude
  rw [amount_eq, amount_eq]
  cases hxs : x.negative <;> cases hys : y.negative <;> simp only [hxs, hys, ne_eq, not_true] at h
  · rw [if_neg Bool.false_ne_true, if_pos rfl, sub_neg_eq_add, abs_of_nonneg (add_nonneg hx hy)]
  · rw [if_pos rfl, if_neg Bool.false_ne_true, neg_sub_left, abs_neg, add_comm,
      abs_of_nonneg (add_nonneg hx hy)]

/-- A number is an infinity or lies strictly between the two. -/
theorem value_cases (hx : x.isNaN = false) :
    (x.value = ⊥ ∧ x.amount = -format.scale format.infinity) ∨
      (x.value = ⊤ ∧ x.amount = format.scale format.infinity) ∨
      (x.value = ((x.amount : WithTop ℚ) : WithBot (WithTop ℚ)) ∧
        |x.amount| < format.scale format.infinity) := by
  unfold value
  cases hinfinite : x.isInfinite with
  | false =>
    rw [abs_amount]
    exact .inr (.inr ⟨rfl, format.scale_strictMono ((isInfinite_eq_false hx).mp hinfinite)⟩)
  | true =>
    rw [amount_eq, isInfinite_iff.mp hinfinite]
    cases x.negative with
    | true => exact .inl ⟨rfl, rfl⟩
    | false => exact .inr (.inl ⟨rfl, rfl⟩)

/-- Numbers compare as their places on the scale do, also where they are infinite. -/
theorem value_le_iff (hnormal : 2 ≤ format.exponentBits) (hx : x.isNaN = false)
    (hy : y.isNaN = false) : x.value ≤ y.value ↔ x.amount ≤ y.amount := by
  have hpos := format.scale_strictMono (infinity_pos hnormal)
  rw [scale_zero] at hpos
  have hxbound : |x.amount| ≤ format.scale format.infinity := by
    rw [abs_amount]
    exact format.scale_strictMono.monotone (isNaN_eq_false.mp hx)
  have hybound : |y.amount| ≤ format.scale format.infinity := by
    rw [abs_amount]
    exact format.scale_strictMono.monotone (isNaN_eq_false.mp hy)
  rcases value_cases hx with ⟨hxv, hxa⟩ | ⟨hxv, hxa⟩ | ⟨hxv, hxa⟩
  · rw [hxv, hxa]
    exact iff_of_true bot_le (abs_le.mp hybound).1
  · rw [hxv, hxa, top_le_iff]
    rcases value_cases hy with ⟨hyv, hya⟩ | ⟨hyv, hya⟩ | ⟨hyv, hya⟩ <;> rw [hyv]
    · exact iff_of_false bot_ne_top (not_le.mpr (by linarith))
    · exact iff_of_true rfl hya.ge
    · exact iff_of_false (by simp) (not_le.mpr (abs_lt.mp hya).2)
  · rcases value_cases hy with ⟨hyv, hya⟩ | ⟨hyv, hya⟩ | ⟨hyv, hya⟩ <;> rw [hxv, hyv]
    · rw [hya]
      exact iff_of_false (by simp) (not_le.mpr (abs_lt.mp hxa).1)
    · rw [hya]
      exact iff_of_true le_top (abs_lt.mp hxa).2.le
    · rw [WithBot.coe_le_coe, WithTop.coe_le_coe]

/-! ### Widening -/

@[simp] theorem convert_negative (target : BinaryFormat) (x : Binary source) :
    (x.convert target).negative = x.negative := by
  unfold convert
  split_ifs <;> rfl

theorem ofMagnitude_magnitude {negative : Bool} {n : Nat} (hn : n ≤ format.infinity) :
    (ofMagnitude format negative n).magnitude = n :=
  Nat.mod_eq_of_lt (hn.trans_lt format.infinity_lt)

/-- Infinities stay infinite. -/
theorem convert_magnitude_infinite {x : Binary source} (hx : x.isInfinite = true) :
    (x.convert target).magnitude = target.infinity := by
  have hnumber : x.isNaN = false := isNaN_eq_false.mpr (isInfinite_iff.mp hx).le
  unfold convert
  rw [if_neg (Bool.not_eq_true _ ▸ hnumber), if_pos hx]
  exact ofMagnitude_magnitude le_rfl

/-- A finite number gets the magnitude that is nearest to its own value. -/
theorem convert_nearest {x : Binary source} (hfraction : 0 < target.fractionBits)
    (hx : x.isNaN = false) (hfinite : x.isInfinite = false) :
    target.Nearest (Set.Iic target.infinity) (source.scale x.magnitude)
      (x.convert target).magnitude := by
  have hnearest := nearest_nearestMagnitude target hfraction x.significand x.exponent
  unfold convert nearest
  rw [if_neg (Bool.not_eq_true _ ▸ hx), if_neg (Bool.not_eq_true _ ▸ hfinite),
    ofMagnitude_magnitude hnearest.mem]
  exact hnearest

/-- Widening keeps the place on the scale. -/
theorem scale_widened (h : small.Fits large) {x : Binary small} (hx : x.isNaN = false)
    (hfinite : x.isInfinite = false) :
    large.scale (x.convert large).magnitude = small.scale x.magnitude ∧
      (x.convert large).magnitude < large.infinity := by
  have hnearest := convert_nearest (h.fraction.trans_le h.fractions) hx hfinite
  obtain ⟨k, hk, hscale⟩ := h.exists_scale_eq ((isInfinite_eq_false hx).mp hfinite)
  rw [← hscale] at hnearest ⊢
  rw [hnearest.eq_of_scale hk.le]
  exact ⟨rfl, hk⟩

theorem isNaN_widened (h : small.Fits large) {x : Binary small} (hx : x.isNaN = false) :
    (x.convert large).isNaN = false := by
  rw [isNaN_eq_false]
  cases hinfinite : x.isInfinite with
  | true => exact (convert_magnitude_infinite hinfinite).le
  | false => exact (scale_widened h hx hinfinite).2.le

theorem isInfinite_widened (h : small.Fits large) {x : Binary small} (hx : x.isNaN = false) :
    (x.convert large).isInfinite = x.isInfinite := by
  cases hinfinite : x.isInfinite with
  | true => exact isInfinite_iff.mpr (convert_magnitude_infinite hinfinite)
  | false =>
    exact (isInfinite_eq_false (isNaN_widened h hx)).mpr (scale_widened h hx hinfinite).2

/-- Widening keeps the value. -/
theorem value_widened (h : small.Fits large) {x : Binary small} (hx : x.isNaN = false) :
    (x.convert large).value = x.value := by
  unfold value
  rw [isInfinite_widened h hx, convert_negative]
  split_ifs with hinfinite
  · rfl
  · rfl
  · rw [amount_eq, amount_eq, convert_negative,
      (scale_widened h hx (Bool.not_eq_true _ ▸ hinfinite)).1]

/-! ### Narrowing -/

/-- Narrowing answers the nearest magnitude, for infinities too. -/
theorem narrowed_nearest (h : small.Fits large) {x : Binary large} (hx : x.isNaN = false) :
    small.Nearest (Set.Iic small.infinity) (large.scale x.magnitude)
      (x.convert small).magnitude := by
  cases hinfinite : x.isInfinite with
  | true =>
    rw [convert_magnitude_infinite hinfinite, isInfinite_iff.mp hinfinite]
    exact nearest_infinity h.scale_infinity_le
  | false => exact convert_nearest h.fraction hx hinfinite

theorem isNaN_narrowed (h : small.Fits large) {x : Binary large} (hx : x.isNaN = false) :
    (x.convert small).isNaN = false :=
  isNaN_eq_false.mpr (narrowed_nearest h hx).mem

/-- Patterns with one sign and one magnitude are the same. -/
theorem eq_of_magnitude (hsign : x.negative = y.negative) (h : x.magnitude = y.magnitude) :
    x = y := by
  cases x
  cases y
  cases hsign
  cases h
  rfl

/-- Narrowing takes back what widening did. -/
theorem narrow_widened (h : small.Fits large) {x : Binary small} (hx : x.isNaN = false) :
    (x.convert large).convert small = x := by
  refine eq_of_magnitude (by simp) ?_
  cases hinfinite : x.isInfinite with
  | true =>
    have hwide := (isInfinite_widened h hx).trans hinfinite
    rw [convert_magnitude_infinite hwide, isInfinite_iff.mp hinfinite]
  | false =>
    have hnearest := narrowed_nearest h (isNaN_widened h hx)
    rw [(scale_widened h hx hinfinite).1] at hnearest
    exact hnearest.eq_of_scale (isNaN_eq_false.mp hx)

/-- Narrowing is monotone. -/
theorem value_narrowed_le (h : small.Fits large) {x y : Binary large} (hx : x.isNaN = false)
    (hy : y.isNaN = false) (hle : x.value ≤ y.value) :
    (x.convert small).value ≤ (y.convert small).value := by
  have hxn := narrowed_nearest h hx
  have hyn := narrowed_nearest h hy
  rw [value_le_iff (h.normal.trans h.exponents) hx hy, amount_eq, amount_eq] at hle
  rw [value_le_iff h.normal (isNaN_narrowed h hx) (isNaN_narrowed h hy), amount_eq, amount_eq,
    convert_negative, convert_negative]
  have hxwide := large.scale_nonneg x.magnitude
  have hywide := large.scale_nonneg y.magnitude
  have hxnarrow := small.scale_nonneg (x.convert small).magnitude
  have hynarrow := small.scale_nonneg (y.convert small).magnitude
  cases hxs : x.negative <;> cases hys : y.negative <;>
    simp only [hxs, hys, Bool.false_eq_true, if_true, if_false] at hle ⊢
  · exact small.scale_strictMono.monotone (hxn.le_of_le hyn hle)
  · -- Only zeros compare like this, and zero is nearest to zero.
    have hxzero : large.scale x.magnitude = small.scale 0 := by
      rw [scale_zero]
      linarith
    have hyzero : large.scale y.magnitude = small.scale 0 := by
      rw [scale_zero]
      linarith
    rw [hxzero] at hxn
    rw [hyzero] at hyn
    rw [hxn.eq_of_scale (Nat.zero_le _), hyn.eq_of_scale (Nat.zero_le _), scale_zero, neg_zero]
  · linarith
  · exact neg_le_neg (small.scale_strictMono.monotone (hyn.le_of_le hxn (neg_le_neg_iff.mp hle)))

/-! ### The nearest number -/

/-- What narrowing answers is nearest. -/
theorem isNearest_narrowed (h : small.Fits large) {x : Binary large} (hx : x.isNaN = false) :
    x.IsNearest (x.convert small) := by
  have hnearest := narrowed_nearest h hx
  have hdistance := abs_amount_sub (convert_negative small x)
  have hother : ∀ z : Binary small, |large.scale x.magnitude - small.scale z.magnitude| ≤
      |x.amount - z.amount| := by
    intro z
    rw [← abs_amount, ← abs_amount]
    exact abs_abs_sub_abs_le _ _
  refine ⟨isNaN_narrowed h hx, convert_negative small x, ?_, fun _ z hz _ => ?_,
    fun _ z hz _ hne he => ?_⟩
  · have hthreshold := hnearest.eq_infinity_iff h.normal h.fraction
    rw [isInfinite_iff, hthreshold, abs_amount]
    refine ⟨.inr, fun hor => hor.elim (fun hinfinite => ?_) id⟩
    rw [← hthreshold, convert_magnitude_infinite hinfinite]
  · rw [hdistance]
    exact (hnearest.closest _ (isNaN_eq_false.mp hz)).trans (hother z)
  · rw [hdistance] at he
    have hclosest := hnearest.closest _ (isNaN_eq_false.mp hz)
    rcases eq_or_ne z.magnitude (x.convert small).magnitude with hsame | hdistinct
    · -- The pattern of the other sign is as near only if both are zero.
      have hsign : z.negative ≠ x.negative := fun hs =>
        hne (eq_of_magnitude (hs.trans (convert_negative small x).symm) hsame)
      have hzero := hnearest.closest 0 (Nat.zero_le _)
      rw [he, abs_amount_sub_opposite hsign, scale_zero, sub_zero,
        abs_of_nonneg (large.scale_nonneg _)] at hzero
      have hscale : small.scale z.magnitude = small.scale 0 := by
        rw [scale_zero]
        exact le_antisymm (by linarith) (small.scale_nonneg _)
      rw [← hsame, small.scale_strictMono.injective hscale]
      exact Even.zero
    · exact hnearest.even _ (isNaN_eq_false.mp hz) hdistinct
        (le_antisymm hclosest (he ▸ hother z))

/-- A finite number that is nearest has the nearest of all finite magnitudes. -/
theorem IsNearest.nearest {x : Binary source} {y : Binary target} (h : x.IsNearest y)
    (hfinite : y.isInfinite = false) :
    target.Nearest (Set.Iic (target.infinity - 1)) (source.scale x.magnitude) y.magnitude := by
  have hlt := (isInfinite_eq_false h.number).mp hfinite
  have hdistance := abs_amount_sub h.sign
  -- Every finite magnitude belongs to a finite number with the sign of both.
  have hpattern : ∀ k ≤ target.infinity - 1, ∃ z : Binary target, z.isNaN = false ∧
      z.isInfinite = false ∧ z.magnitude = k ∧
        |x.amount - z.amount| = |source.scale x.magnitude - target.scale k| := by
    intro k hk
    have hmagnitude : (ofMagnitude target x.negative k).magnitude = k :=
      ofMagnitude_magnitude (hk.trans (Nat.sub_le _ _))
    have hnumber : (ofMagnitude target x.negative k).isNaN = false := by
      rw [isNaN_eq_false, hmagnitude]
      omega
    refine ⟨_, hnumber, ?_, hmagnitude, ?_⟩
    · rw [isInfinite_eq_false hnumber, hmagnitude]
      omega
    · have hsign : (ofMagnitude target x.negative k).negative = x.negative := rfl
      rw [abs_amount_sub hsign, hmagnitude]
  refine ⟨Nat.le_sub_one_of_lt hlt, fun k hk => ?_, fun k hk hne he => ?_⟩
  · obtain ⟨z, hnumber, hz, -, hzdistance⟩ := hpattern k hk
    have hclosest := h.closest hfinite z hnumber hz
    rwa [hdistance, hzdistance] at hclosest
  · obtain ⟨z, hnumber, hz, rfl, hzdistance⟩ := hpattern k hk
    refine h.even hfinite z hnumber hz (fun heq => hne (by rw [heq])) ?_
    rw [hdistance, hzdistance, he]

/-- Exactly one number is nearest, and narrowing answers it. -/
theorem isNearest_iff (h : small.Fits large) {x : Binary large} (hx : x.isNaN = false)
    {y : Binary small} : x.IsNearest y ↔ y = x.convert small := by
  have hnarrowed := isNearest_narrowed h hx
  refine ⟨fun hy => eq_of_magnitude (hy.sign.trans hnarrowed.sign.symm) ?_, fun he => he ▸ hnarrowed⟩
  have hinfinite := hy.infinite.trans hnarrowed.infinite.symm
  cases hfinite : y.isInfinite with
  | true => rw [isInfinite_iff.mp hfinite, isInfinite_iff.mp (hinfinite.mp hfinite)]
  | false =>
    have hone := hy.nearest hfinite
    have hother := hnarrowed.nearest (by rwa [← Bool.not_eq_true, ← hinfinite, Bool.not_eq_true])
    exact le_antisymm (hone.le_of_le hother le_rfl) (hother.le_of_le hone le_rfl)

/-- A number is rounded to itself in its own format. -/
theorem convert_self (h : format.Fits format) (hx : x.isNaN = false) : x.convert format = x := by
  refine eq_of_magnitude (convert_negative format x) ?_
  cases hinfinite : x.isInfinite with
  | true => rw [convert_magnitude_infinite hinfinite, isInfinite_iff.mp hinfinite]
  | false => exact format.scale_strictMono.injective (scale_widened h hx hinfinite).1

end Binary

/-! ### Stored elements -/

variable {kind : ElementKind}

/-- Elements of every kind are doubles exactly. -/
theorem fits_double (kind : ElementKind) : kind.format.Fits .double := by
  cases kind <;> constructor <;> decide

theorem widen_eq {x : Element kind} (hx : x.isNaN = false) : widen x = x.convert .double := by
  cases kind with
  | double => exact (Binary.convert_self (fits_double .double) hx).symm
  | single => rfl

theorem narrow_eq {x : Binary .double} (hx : x.isNaN = false) :
    narrow kind x = x.convert kind.format := by
  cases kind with
  | double => exact (Binary.convert_self (fits_double .double) hx).symm
  | single => rfl

/-- Widening keeps the value of an element. -/
theorem widen_value {x : Element kind} (hx : x.isNaN = false) :
    (widen x).isNaN = false ∧ (widen x).value = x.value := by
  rw [widen_eq hx]
  exact ⟨Binary.isNaN_widened (fits_double kind) hx, Binary.value_widened (fits_double kind) hx⟩

/-- An element that was widened is narrowed to the very same pattern. -/
theorem narrow_widen {x : Element kind} (hx : x.isNaN = false) : narrow kind (widen x) = x := by
  have hwide := widen_value hx
  rw [narrow_eq hwide.1, widen_eq hx]
  exact Binary.narrow_widened (fits_double kind) hx

/-- Narrowing answers the one nearest element. -/
theorem isNearest_iff_narrow {x : Binary .double} (hx : x.isNaN = false) {y : Element kind} :
    x.IsNearest y ↔ y = narrow kind x := by
  rw [narrow_eq hx]
  exact Binary.isNearest_iff (fits_double kind) hx

/-- Doubles that are narrowed and widened again compare as before or have become equal. -/
theorem narrow_monotone {x y : Binary .double} (hx : x.isNaN = false) (hy : y.isNaN = false)
    (hle : x.value ≤ y.value) : (widen (narrow kind x)).value ≤ (widen (narrow kind y)).value := by
  have hxn := Binary.isNaN_narrowed (fits_double kind) hx
  have hyn := Binary.isNaN_narrowed (fits_double kind) hy
  rw [narrow_eq hx, narrow_eq hy, (widen_value hxn).2, (widen_value hyn).2]
  exact Binary.value_narrowed_le (fits_double kind) hx hy hle

end ForeignMatrix.Element
