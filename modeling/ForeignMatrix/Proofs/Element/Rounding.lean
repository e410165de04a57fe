import ForeignMatrix.Element.Binary
import Mathlib

/-!
# Magnitudes of a binary format and the values nearest to them

The magnitudes of a format stand for ascending values. Between two powers of two
they lie on a line, so that rounding to the nearest magnitude is rounding to the
nearest integer, and beyond a power of two the neighbours are only farther away.
Rounding is treated without a largest magnitude first; cutting off at infinity
then keeps what is nearest, if infinity takes the value with which the finite
ones would go on. Nothing here depends on the widths of the fields, except that
there is a fraction.
-/

namespace ForeignMatrix.Element

namespace BinaryFormat

/-- Value of a magnitude of the format, as if there were patterns of every magnitude. -/
def scale (format : BinaryFormat) (magnitude : Nat) : ℚ :=
  let field := magnitude / Nat.pow 2 format.fractionBits
  let fraction := magnitude % Nat.pow 2 format.fractionBits
  ((if field = 0 then fraction else Nat.pow 2 format.fractionBits + fraction : Nat) : ℚ) *
    2 ^ ((max field 1 : Nat) - (format.bias + format.fractionBits : Nat) : Int)

/-- Distance of neighbours in an octave. The first octave is that of the smallest normal values,
which have the exponent field one, and includes all that are smaller. -/
def spacing (format : BinaryFormat) (octave : Nat) : ℚ :=
  2 ^ ((octave + 1 : Nat) - (format.bias + format.fractionBits : Nat) : Int)

variable {format : BinaryFormat} {octave steps n : Nat}

theorem spacing_pos : 0 < format.spacing octave := zpow_pos two_pos _

/-- From one octave to the next the distance doubles. -/
theorem spacing_succ : format.spacing (octave + 1) = 2 * format.spacing octave := by
  have hexponent :
      ((octave + 1 + 1 : Nat) : Int) - (format.bias + format.fractionBits : Nat) =
        ((octave + 1 : Nat) - (format.bias + format.fractionBits : Nat)) + 1 := by
    push_cast
    ring
  unfold spacing
  rw [hexponent, zpow_add_one₀ two_ne_zero, mul_comm]

/-- In an octave, and up to the first magnitude of the next one, values go up in equal steps. -/
theorem scale_line (hlow : octave = 0 ∨ 2 ^ format.fractionBits ≤ steps)
    (hhigh : steps ≤ 2 * 2 ^ format.fractionBits) :
    format.scale (octave * 2 ^ format.fractionBits + steps) = steps * format.spacing octave := by
  have hpos : 0 < 2 ^ format.fractionBits := Nat.two_pow_pos _
  have hscale : ∀ field fraction, fraction < 2 ^ format.fractionBits →
      format.scale (field * 2 ^ format.fractionBits + fraction) =
        ((if field = 0 then fraction else 2 ^ format.fractionBits + fraction : Nat) : ℚ) *
          format.spacing (max field 1 - 1) := by
    intro field fraction hfraction
    have hdiv : (field * 2 ^ format.fractionBits + fraction) / 2 ^ format.fractionBits = field := by
      rw [Nat.mul_comm, Nat.mul_add_div hpos, Nat.div_eq_of_lt hfraction, Nat.add_zero]
    have hmod : (field * 2 ^ format.fractionBits + fraction) % 2 ^ format.fractionBits =
        fraction := by
      rw [Nat.mul_comm, Nat.mul_add_mod, Nat.mod_eq_of_lt hfraction]
    have hone : max field 1 - 1 + 1 = max field 1 := Nat.sub_add_cancel (le_max_right _ _)
    unfold scale spacing
    rw [Nat.pow_eq, hdiv, hmod, hone]
  generalize 2 ^ format.fractionBits = width at *
  rcases Nat.lt_or_ge steps width with hbelow | habove
  · -- Below the first octave the significand is the magnitude itself.
    have hzero : octave = 0 := hlow.resolve_right (Nat.not_le.mpr hbelow)
    rw [hzero, hscale 0 steps hbelow, if_pos rfl]
    rfl
  rcases Nat.eq_or_lt_of_le hhigh with rfl | hinside
  · -- The first magnitude of the next octave ends the line.
    have hnext : octave * width + 2 * width = (octave + 2) * width + 0 := by ring
    have hfield : max (octave + 2) 1 - 1 = octave + 1 := by omega
    rw [hnext, hscale (octave + 2) 0 hpos, if_neg (Nat.succ_ne_zero _), hfield, spacing_succ]
    push_cast
    ring
  · obtain ⟨fraction, rfl⟩ := Nat.exists_eq_add_of_le habove
    have hfraction : fraction < width := by omega
    have hsplit : octave * width + (width + fraction) = (octave + 1) * width + fraction := by ring
    have hfield : max (octave + 1) 1 - 1 = octave := by omega
    rw [hsplit, hscale (octave + 1) fraction hfraction, if_neg (Nat.succ_ne_zero _), hfield]

/-- Every magnitude lies in an octave. -/
theorem exists_octave (format : BinaryFormat) (n : Nat) : ∃ octave steps,
    n = octave * 2 ^ format.fractionBits + steps ∧
      (octave = 0 ∨ 2 ^ format.fractionBits ≤ steps) ∧ steps < 2 * 2 ^ format.fractionBits := by
  have hpos : 0 < 2 ^ format.fractionBits := Nat.two_pow_pos _
  generalize 2 ^ format.fractionBits = width at *
  rcases Nat.lt_or_ge n (2 * width) with hfirst | hlater
  · exact ⟨0, n, by omega, .inl rfl, hfirst⟩
  · have hsplit := Nat.div_add_mod' n width
    have hfield : 1 ≤ n / width := (Nat.one_le_div_iff hpos).mpr (by omega)
    obtain ⟨octave, hoctave⟩ := Nat.exists_eq_add_of_le' hfield
    rw [hoctave, Nat.succ_mul] at hsplit
    have hrest := Nat.mod_lt n hpos
    exact ⟨octave, width + n % width, by omega, .inr (by omega), by omega⟩

/-- Greater magnitudes stand for greater values. -/
theorem scale_strictMono (format : BinaryFormat) : StrictMono format.scale := by
  refine strictMono_nat_of_lt_succ fun n => ?_
  obtain ⟨octave, steps, rfl, hlow, hhigh⟩ := format.exists_octave n
  have hlow' : octave = 0 ∨ 2 ^ format.fractionBits ≤ steps + 1 := hlow.imp_right Nat.le_succ_of_le
  have hstep := (spacing_pos : 0 < format.spacing octave)
  rw [Nat.add_assoc, scale_line hlow hhigh.le, scale_line hlow' hhigh]
  push_cast
  linarith

@[simp] theorem scale_zero (format : BinaryFormat) : format.scale 0 = 0 := by
  simp [scale]

theorem scale_nonneg (format : BinaryFormat) (n : Nat) : 0 ≤ format.scale n := by
  rw [← scale_zero format]
  exact format.scale_strictMono.monotone (Nat.zero_le n)

/-! ### The nearest of several magnitudes -/

/-- Of the magnitudes within reach, the one whose value is nearest to the given one. If another is
as near, it is even. -/
structure Nearest (format : BinaryFormat) (reach : Set Nat) (q : ℚ) (n : Nat) : Prop where
  /-- The magnitude is within reach. -/
  mem : n ∈ reach
  /-- None within reach is nearer. -/
  closest : ∀ k ∈ reach, |q - format.scale n| ≤ |q - format.scale k|
  /-- If another one is as near, this one is even. -/
  even : ∀ k ∈ reach, k ≠ n → |q - format.scale n| = |q - format.scale k| → Even n

/-- Of two values the greater one is as near exactly from their middle on. -/
theorem abs_sub_le_iff_mid {a b q : ℚ} (h : a < b) : |q - b| ≤ |q - a| ↔ a + b ≤ 2 * q := by
  rcases abs_cases (q - a) with ⟨ha, ha'⟩ | ⟨ha, ha'⟩ <;>
    rcases abs_cases (q - b) with ⟨hb, hb'⟩ | ⟨hb, hb'⟩ <;> rw [ha, hb] <;>
      constructor <;> intro hle <;> linarith

/-- Of two values the smaller one is as near exactly up to their middle. -/
theorem abs_sub_ge_iff_mid {a b q : ℚ} (h : a < b) : |q - a| ≤ |q - b| ↔ 2 * q ≤ a + b := by
  rcases abs_cases (q - a) with ⟨ha, ha'⟩ | ⟨ha, ha'⟩ <;>
    rcases abs_cases (q - b) with ⟨hb, hb'⟩ | ⟨hb, hb'⟩ <;> rw [ha, hb] <;>
      constructor <;> intro hle <;> linarith

namespace Nearest

variable {reach within : Set Nat} {q r : ℚ} {m bound : Nat}

/-- With fewer magnitudes within reach, what was nearest stays so. -/
theorem restrict (h : format.Nearest reach q n) (hsub : within ⊆ reach) (hn : n ∈ within) :
    format.Nearest within q n :=
  ⟨hn, fun k hk => h.closest k (hsub hk), fun k hk => h.even k (hsub hk)⟩

/-- The nearest magnitude to the value of a magnitude within reach is that one. -/
theorem eq_of_scale (h : format.Nearest reach (format.scale m) n) (hm : m ∈ reach) : n = m := by
  have hle := h.closest m hm
  rw [sub_self, abs_zero] at hle
  have hzero := abs_eq_zero.mp (le_antisymm hle (abs_nonneg _))
  exact (format.scale_strictMono.injective (sub_eq_zero.mp hzero)).symm

/-- Greater values have greater nearest magnitudes. -/
theorem le_of_le (hm : format.Nearest (Set.Iic bound) q m)
    (hn : format.Nearest (Set.Iic bound) r n) (h : q ≤ r) : m ≤ n := by
  by_contra! hlt
  have hscale := format.scale_strictMono hlt
  have hupper := (abs_sub_le_iff_mid hscale).mp (hm.closest n hn.mem)
  have hlower := (abs_sub_ge_iff_mid hscale).mp (hn.closest m hm.mem)
  have hsame : r = q := by linarith
  rw [hsame] at hn hlower
  -- In the middle both are even, and what lies between them is nearer.
  have htie : |q - format.scale m| = |q - format.scale n| :=
    le_antisymm (hm.closest n hn.mem) (hn.closest m hm.mem)
  obtain ⟨a, ha⟩ := hm.even n hn.mem hlt.ne htie
  obtain ⟨b, hb⟩ := hn.even m hm.mem hlt.ne' htie.symm
  have hbetween : n + 1 < m := by omega
  have hless := format.scale_strictMono (Nat.lt_succ_self n)
  have hmore := format.scale_strictMono hbetween
  have hnear := hm.closest (n + 1) (hbetween.le.trans hm.mem)
  rw [abs_sub_le_iff_mid hmore] at hnear
  linarith

/-- A greatest magnitude is nearest to what lies beyond it. -/
theorem cap (h : format.Nearest Set.univ q n) (bound : Nat) :
    format.Nearest (Set.Iic bound) q (min n bound) := by
  rcases Nat.lt_or_ge bound n with hout | hin
  · rw [min_eq_right hout.le]
    have hscale := format.scale_strictMono hout
    have hmid := (abs_sub_le_iff_mid hscale).mp (h.closest bound trivial)
    have hbeyond : ∀ k < bound, |q - format.scale bound| < |q - format.scale k| := by
      intro k hk
      have hless := format.scale_strictMono hk
      rw [abs_of_nonneg (by linarith), abs_of_nonneg (by linarith)]
      linarith
    refine ⟨Set.self_mem_Iic, fun k hk => ?_, fun k hk hne he => ?_⟩
    · rcases Nat.eq_or_lt_of_le hk with rfl | hlt
      · exact le_rfl
      · exact (hbeyond k hlt).le
    · exact absurd he (hbeyond k (lt_of_le_of_ne hk hne)).ne
  · rw [min_eq_left hin]
    exact h.restrict (Set.subset_univ _) hin

end Nearest

/-- Within half a step of an integer no other integer is nearer, and one is as near only at half a
step. -/
theorem abs_sub_le_of_half {t : ℚ} {i : Nat} (h : |t - i| ≤ 1 / 2) (j : Nat) :
    |t - i| ≤ |t - j| ∧ (j ≠ i → |t - i| = |t - j| → |t - i| = 1 / 2) := by
  rcases eq_or_ne j i with rfl | hne
  · exact ⟨le_rfl, fun hne => absurd rfl hne⟩
  have hstep : (1 : ℚ) ≤ |(i : ℚ) - j| := by
    have hint : (1 : Int) ≤ |(i : Int) - j| := Int.one_le_abs (by omega)
    exact_mod_cast hint
  have htriangle : |(i : ℚ) - j| ≤ |t - i| + |t - j| := by
    rw [abs_sub_comm t i]
    exact abs_sub_le _ _ _
  exact ⟨by linarith, fun _ he => by linarith⟩

/-- What is not below an integer is not rounded below it. -/
theorem le_of_half {t : ℚ} {i j : Nat} (h : |t - i| ≤ 1 / 2) (hj : (j : ℚ) ≤ t) : j ≤ i := by
  obtain ⟨-, hbehind⟩ := abs_le.mp h
  have hcast : (j : ℚ) < (i + 1 : Nat) := by
    push_cast
    linarith
  exact Nat.le_of_lt_succ (Nat.cast_lt.mp hcast)

/-- What is not above an integer is not rounded above it. -/
theorem ge_of_half {t : ℚ} {i j : Nat} (h : |t - i| ≤ 1 / 2) (hj : t ≤ j) : i ≤ j := by
  obtain ⟨hbefore, -⟩ := abs_le.mp h
  have hcast : (i : ℚ) < (j + 1 : Nat) := by
    push_cast
    linarith
  exact Nat.le_of_lt_succ (Nat.cast_lt.mp hcast)

/-- A magnitude lies in a given octave, or its value is below or beyond all of the octave. -/
theorem octave_cases (format : BinaryFormat) (octave k : Nat) :
    (∃ j : Nat, k = octave * 2 ^ format.fractionBits + j ∧
      format.scale k = j * format.spacing octave) ∨
      (octave ≠ 0 ∧ format.scale k < (2 ^ format.fractionBits : Nat) * format.spacing octave) ∨
      (2 * 2 ^ format.fractionBits : Nat) * format.spacing octave < format.scale k := by
  rw [← scale_line (.inr le_rfl) (by omega), ← scale_line (.inr (by omega)) le_rfl,
    format.scale_strictMono.lt_iff_lt, format.scale_strictMono.lt_iff_lt]
  by_cases hbelow : octave ≠ 0 ∧ k < octave * 2 ^ format.fractionBits + 2 ^ format.fractionBits
  · exact .inr (.inl hbelow)
  by_cases hbeyond : octave * 2 ^ format.fractionBits + 2 * 2 ^ format.fractionBits < k
  · exact .inr (.inr hbeyond)
  have hstart : octave * 2 ^ format.fractionBits ≤ k := by
    rcases eq_or_ne octave 0 with rfl | hne
    · omega
    · have habove := Nat.not_lt.mp fun hk => hbelow ⟨hne, hk⟩
      omega
  obtain ⟨j, rfl⟩ := Nat.exists_eq_add_of_le hstart
  exact .inl ⟨j, rfl, scale_line (by omega) (by omega)⟩

section Line

variable {t : ℚ}

theorem abs_sub_spacing (t : ℚ) (j : Nat) :
    |t * format.spacing octave - j * format.spacing octave| = |t - j| * format.spacing octave := by
  rw [← sub_mul, abs_mul, abs_of_pos spacing_pos]

/-- What lies outside of an octave is farther away than the end of the octave on its side. -/
theorem line_or_farther (hlow : octave = 0 ∨ ((2 ^ format.fractionBits : Nat) : ℚ) ≤ t)
    (hhigh : t ≤ (2 * 2 ^ format.fractionBits : Nat)) (hhalf : |t - steps| ≤ 1 / 2) (k : Nat) :
    (∃ j : Nat, k = octave * 2 ^ format.fractionBits + j ∧
        format.scale k = j * format.spacing octave) ∨
      |t - steps| * format.spacing octave < |t * format.spacing octave - format.scale k| := by
  have hend : ∀ j : Nat, |t - steps| * format.spacing octave ≤
      |t * format.spacing octave - j * format.spacing octave| := by
    intro j
    rw [abs_sub_spacing]
    exact mul_le_mul_of_nonneg_right (abs_sub_le_of_half hhalf j).1 spacing_pos.le
  have hpos : 0 < format.spacing octave := spacing_pos
  rcases format.octave_cases octave k with hj | ⟨hne, hk⟩ | hk
  · exact .inl hj
  · have hstart := mul_le_mul_of_nonneg_right (hlow.resolve_left hne) hpos.le
    refine .inr ((hend (2 ^ format.fractionBits)).trans_lt ?_)
    rw [abs_of_nonneg (sub_nonneg.mpr hstart), abs_of_pos (sub_pos.mpr (hk.trans_le hstart))]
    exact sub_lt_sub_left hk _
  · have hstop := mul_le_mul_of_nonneg_right hhigh hpos.le
    refine .inr ((hend (2 * 2 ^ format.fractionBits)).trans_lt ?_)
    rw [abs_of_nonpos (sub_nonpos.mpr hstop), abs_of_neg (sub_neg.mpr (hstop.trans_lt hk))]
    linarith

/-- In an octave the nearest magnitude is the one at the nearest number of steps, if that number is
even where two are as near. -/
theorem nearest_line (hwidth : 0 < format.fractionBits)
    (hlow : octave = 0 ∨ ((2 ^ format.fractionBits : Nat) : ℚ) ≤ t)
    (hhigh : t ≤ (2 * 2 ^ format.fractionBits : Nat)) (hhalf : |t - steps| ≤ 1 / 2)
    (heven : |t - steps| = 1 / 2 → Even steps) :
    format.Nearest Set.univ (t * format.spacing octave)
      (octave * 2 ^ format.fractionBits + steps) := by
  have hscale := scale_line (hlow.imp_right (le_of_half hhalf)) (ge_of_half hhalf hhigh)
  refine ⟨trivial, fun k _ => ?_, fun k _ hne he => ?_⟩
  · rw [hscale, abs_sub_spacing]
    rcases line_or_farther hlow hhigh hhalf k with ⟨j, -, hk⟩ | hfar
    · rw [hk, abs_sub_spacing]
      exact mul_le_mul_of_nonneg_right (abs_sub_le_of_half hhalf j).1 spacing_pos.le
    · exact hfar.le
  · rw [hscale, abs_sub_spacing] at he
    rcases line_or_farther hlow hhigh hhalf k with ⟨j, rfl, hk⟩ | hfar
    · rw [hk, abs_sub_spacing] at he
      have htie : |t - steps| = |t - j| := mul_right_cancel₀ spacing_pos.ne' he
      have hdistinct : j ≠ steps := fun hj => hne (by rw [hj])
      have hsteps := heven ((abs_sub_le_of_half hhalf j).2 hdistinct htie)
      have hwhole : Even (2 ^ format.fractionBits) := even_two.pow_of_ne_zero hwidth.ne'
      exact (hwhole.mul_left octave).add hsteps
    · exact absurd he hfar.ne

end Line

end BinaryFormat

namespace Binary

open BinaryFormat

/-- Shifting rounds to an integer at most half a step away, and to an even one if it is as much. -/
theorem roundShift_half (m shift : Nat) :
    |(m / 2 ^ shift : ℚ) - roundShift m shift| ≤ 1 / 2 ∧
      (|(m / 2 ^ shift : ℚ) - roundShift m shift| = 1 / 2 → Even (roundShift m shift)) := by
  have hpos : 0 < 2 ^ shift := Nat.two_pow_pos shift
  have hsplit := Nat.div_add_mod m (2 ^ shift)
  have hrest := Nat.mod_lt m hpos
  have hpower : (2 ^ shift : ℚ) = (2 ^ shift : Nat) := by
    push_cast
    rfl
  unfold roundShift
  rw [Nat.pow_eq, hpower]
  dsimp only
  generalize 2 ^ shift = width at *
  generalize m / width = quotient at *
  generalize m % width = rest at *
  have hcast : (0 : ℚ) < width := Nat.cast_pos.mpr hpos
  have hvalue : (m / width : ℚ) = quotient + rest / width := by
    rw [← hsplit]
    push_cast
    field_simp
  have hbelow : (rest / width : ℚ) ≤ 1 / 2 ↔ 2 * rest ≤ width := by
    rw [div_le_div_iff₀ hcast two_pos, one_mul, mul_comm]
    norm_cast
  have habove : (1 / 2 : ℚ) ≤ rest / width ↔ width ≤ 2 * rest := by
    rw [div_le_div_iff₀ two_pos hcast, one_mul, mul_comm]
    norm_cast
  rw [hvalue]
  split_ifs with hup
  · have hone : (rest / width : ℚ) < 1 := (div_lt_one hcast).mpr (Nat.cast_lt.mpr hrest)
    have hhalf : (1 / 2 : ℚ) ≤ rest / width := habove.mpr (by omega)
    have hdistance : |(quotient + rest / width - (quotient + 1 : Nat) : ℚ)| = 1 - rest / width := by
      push_cast
      rw [abs_of_neg (by linarith)]
      ring
    rw [hdistance]
    refine ⟨by linarith, fun he => ?_⟩
    have hexact := hbelow.mp (by linarith)
    exact Nat.even_iff.mpr (by omega)
  · have hhalf : (rest / width : ℚ) ≤ 1 / 2 := hbelow.mpr (by omega)
    have hdistance : |(quotient + rest / width - quotient : ℚ)| = rest / width := by
      rw [add_sub_cancel_left, abs_of_nonneg (by positivity)]
    rw [hdistance]
    refine ⟨hhalf, fun he => ?_⟩
    have hexact := habove.mp he.ge
    exact Nat.even_iff.mpr (by omega)

/-- What a value is rounded to in an octave is at most half a step away, and even if it is as
much. -/
theorem rounded_half (m : Nat) (e s : Int) :
    let rounded := if e ≤ s then roundShift m (s - e).toNat else m * Nat.pow 2 (e - s).toNat
    |(m * 2 ^ (e - s) : ℚ) - rounded| ≤ 1 / 2 ∧
      (|(m * 2 ^ (e - s) : ℚ) - rounded| = 1 / 2 → Even rounded) := by
  intro rounded
  rcases le_or_gt e s with hle | hlt
  · have hrounded : rounded = roundShift m (s - e).toNat := if_pos hle
    have hshift : e - s = -((s - e).toNat : Int) := by omega
    rw [hrounded, hshift, zpow_neg, zpow_natCast, ← div_eq_mul_inv]
    exact roundShift_half m (s - e).toNat
  · have hrounded : rounded = m * 2 ^ (e - s).toNat := if_neg hlt.not_ge
    have hshift : e - s = ((e - s).toNat : Int) := by omega
    have hexact : (m * 2 ^ (e - s) : ℚ) - rounded = 0 := by
      rw [hrounded, hshift, zpow_natCast]
      push_cast
      exact sub_self _
    rw [hexact, abs_zero]
    exact ⟨by norm_num, fun he => by norm_num at he⟩

/-- A scaled integer lies between the power of two of its leading bit and the next one. -/
theorem leading_bounds {m : Nat} (hm : m ≠ 0) (e : Int) :
    (2 ^ (m.log2 + e) : ℚ) ≤ m * 2 ^ e ∧ (m * 2 ^ e : ℚ) < 2 ^ (m.log2 + e + 1) := by
  have hstep : (0 : ℚ) < 2 ^ e := zpow_pos two_pos _
  have hleading : (2 ^ m.log2 : ℚ) ≤ m := by exact_mod_cast Nat.log2_self_le hm
  have hnext : (m : ℚ) < 2 ^ (m.log2 + 1) := by exact_mod_cast Nat.lt_log2_self
  have hexponent : (m.log2 : Int) + e + 1 = ((m.log2 + 1 : Nat) : Int) + e := by
    push_cast
    ring
  rw [hexponent, zpow_add₀ two_ne_zero, zpow_add₀ two_ne_zero, zpow_natCast, zpow_natCast]
  exact ⟨mul_le_mul_of_nonneg_right hleading hstep.le, mul_lt_mul_of_pos_right hnext hstep⟩

/-- The magnitude that a value is rounded to is the nearest one. -/
theorem nearest_nearestMagnitude (format : BinaryFormat) (hwidth : 0 < format.fractionBits) (m : Nat)
    (e : Int) :
    format.Nearest (Set.Iic format.infinity) (m * 2 ^ e) (nearestMagnitude format m e) := by
  rcases eq_or_ne m 0 with rfl | hm
  · have hzero : format.Nearest Set.univ (0 * format.spacing 0)
        (0 * 2 ^ format.fractionBits + 0) := by
      refine nearest_line hwidth (.inl rfl) (by positivity) ?_ ?_ <;> norm_num
    simpa [nearestMagnitude] using hzero.cap format.infinity
  obtain ⟨octave, hoctave⟩ : ∃ octave : Nat, max (m.log2 + e + format.bias) 1 = octave + 1 :=
    ⟨(max (m.log2 + e + format.bias) 1 - 1).toNat, by omega⟩
  have hindex : ((octave : Int) + 1 - 1).toNat = octave := by omega
  have hcast : (octave : Int) + 1 = (octave + 1 : Nat) := by push_cast; rfl
  unfold nearestMagnitude
  rw [if_neg hm, hoctave]
  dsimp only
  rw [hindex, hcast, Nat.pow_eq]
  generalize hs : ((octave + 1 : Nat) - (format.bias + format.fractionBits : Nat) : Int) = s
  obtain ⟨hhalf, heven⟩ := rounded_half m e s
  obtain ⟨hleading, hnext⟩ := leading_bounds hm (e - s)
  -- In steps of the octave the value lies where a significand does.
  have hvalue : (m * 2 ^ e : ℚ) = m * 2 ^ (e - s) * format.spacing octave := by
    unfold spacing
    rw [hs, mul_assoc, ← zpow_add₀ two_ne_zero, sub_add_cancel]
  have hlow : octave = 0 ∨ ((2 ^ format.fractionBits : Nat) : ℚ) ≤ m * 2 ^ (e - s) := by
    rcases Nat.eq_zero_or_pos octave with hzero | hpos
    · exact .inl hzero
    · have hpower : (m.log2 : Int) + (e - s) = format.fractionBits := by omega
      rw [hpower, zpow_natCast] at hleading
      exact .inr (by exact_mod_cast hleading)
  have hhigh : (m * 2 ^ (e - s) : ℚ) ≤ (2 * 2 ^ format.fractionBits : Nat) := by
    have hpower : (m.log2 : Int) + (e - s) + 1 ≤ (format.fractionBits + 1 : Nat) := by omega
    have hbound := zpow_le_zpow_right₀ (one_le_two : (1 : ℚ) ≤ 2) hpower
    rw [zpow_natCast, pow_succ'] at hbound
    exact_mod_cast hnext.le.trans hbound
  rw [hvalue]
  exact (nearest_line hwidth hlow hhigh hhalf heven).cap format.infinity

end Binary

end ForeignMatrix.Element
