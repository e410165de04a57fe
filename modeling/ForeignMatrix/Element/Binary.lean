/-!
# Binary floating-point patterns

Signed bit patterns of the binary interchange formats, kept as a sign and an
integer magnitude. The magnitude orders the non-negative values of a format
without gaps, so a carry out of the fraction lands in the exponent by itself.
`Binary.nearest` rounds any `m · 2 ^ e` to a format, ties to even; `Binary.convert`
is rounding of the decoded value and serves both for narrowing and widening.
Arithmetic on patterns is not covered.
-/

namespace ForeignMatrix.Element

/-- Field widths of a binary interchange format. -/
structure BinaryFormat where
  /-- Width of the biased exponent. -/
  exponentBits : Nat
  /-- Width of the stored fraction; the leading bit of a normal value is implied. -/
  fractionBits : Nat
  deriving DecidableEq, Repr

namespace BinaryFormat

/-- Single precision: eight exponent bits and twenty-three fraction bits. -/
def single : BinaryFormat := ⟨8, 23⟩

/-- Double precision: eleven exponent bits and fifty-two fraction bits. -/
def double : BinaryFormat := ⟨11, 52⟩

/-- Number of bits below the sign. -/
def magnitudeBits (format : BinaryFormat) : Nat := format.exponentBits + format.fractionBits

/-- Amount added to an exponent before it is stored. -/
def bias (format : BinaryFormat) : Nat := Nat.pow 2 (format.exponentBits - 1) - 1

/-- Magnitude of infinity: all exponent bits set and no fraction bit. -/
def infinity (format : BinaryFormat) : Nat :=
  (Nat.pow 2 format.exponentBits - 1) * Nat.pow 2 format.fractionBits

/-- Magnitude of the quiet not-a-number with an empty payload. -/
def quietNaN (format : BinaryFormat) : Nat :=
  format.infinity + Nat.pow 2 (format.fractionBits - 1)

end BinaryFormat

/-- A pattern of the format: a sign and the bits below it. -/
structure Binary (format : BinaryFormat) where
  /-- Whether the sign bit is set. -/
  negative : Bool
  /-- Exponent and fraction, read as one number. -/
  magnitude : Nat
  /-- The magnitude fits below the sign bit. -/
  magnitude_lt : magnitude < Nat.pow 2 format.magnitudeBits
  deriving DecidableEq, Repr

namespace Binary

/-- The pattern with the given sign and the low bits of the given magnitude. -/
def ofMagnitude (format : BinaryFormat) (negative : Bool) (magnitude : Nat) : Binary format :=
  ⟨negative, magnitude % Nat.pow 2 format.magnitudeBits, Nat.mod_lt _ (Nat.two_pow_pos _)⟩

/-- Positive zero. -/
def zero (format : BinaryFormat) : Binary format := ofMagnitude format false 0

instance (format : BinaryFormat) : Inhabited (Binary format) := ⟨zero format⟩

/-- A pattern whose magnitude lies beyond infinity is not a number. -/
def isNaN {format : BinaryFormat} (x : Binary format) : Bool :=
  format.infinity < x.magnitude

/-- The two infinities share one magnitude. -/
def isInfinite {format : BinaryFormat} (x : Binary format) : Bool :=
  x.magnitude == format.infinity

/-- Pattern stored in a word of the format's width, sign in the top bit. -/
def ofBits (format : BinaryFormat) (word : Nat) : Binary format :=
  ofMagnitude format (word.testBit format.magnitudeBits) word

/-- The word of the format's width that holds this pattern. -/
def toBits {format : BinaryFormat} (x : Binary format) : Nat :=
  (if x.negative then Nat.pow 2 format.magnitudeBits else 0) + x.magnitude

/-- Biased exponent field. -/
def exponentField {format : BinaryFormat} (x : Binary format) : Nat :=
  x.magnitude / Nat.pow 2 format.fractionBits

/-- Fraction field. -/
def fractionField {format : BinaryFormat} (x : Binary format) : Nat :=
  x.magnitude % Nat.pow 2 format.fractionBits

/-- Integer significand of a finite pattern: its absolute value is
`significand · 2 ^ exponent`. -/
def significand {format : BinaryFormat} (x : Binary format) : Nat :=
  if x.exponentField = 0 then x.fractionField
  else Nat.pow 2 format.fractionBits + x.fractionField

/-- Exponent that scales the integer significand. Subnormal patterns share
the scale of the smallest normal ones. -/
def exponent {format : BinaryFormat} (x : Binary format) : Int :=
  (max x.exponentField 1 : Nat) - (format.bias + format.fractionBits : Nat)

/-- The integer nearest to `m / 2 ^ shift`; a tie goes to the even neighbour. -/
def roundShift (m shift : Nat) : Nat :=
  let quotient := m / Nat.pow 2 shift
  let twice := 2 * (m % Nat.pow 2 shift)
  if Nat.pow 2 shift < twice ∨ (twice = Nat.pow 2 shift ∧ quotient % 2 = 1) then quotient + 1
  else quotient

/-- Magnitude nearest to `m · 2 ^ e`. The exponent field is fixed by the
leading bit of `m` and never below one; the significand is then rounded to the
spacing of that field, and a result past the largest finite value is infinity. -/
def nearestMagnitude (format : BinaryFormat) (m : Nat) (e : Int) : Nat :=
  if m = 0 then 0
  else
    let field := max (m.log2 + e + format.bias) 1
    let spacing := field - (format.bias + format.fractionBits : Nat)
    let rounded :=
      if e ≤ spacing then roundShift m (spacing - e).toNat else m * Nat.pow 2 (e - spacing).toNat
    min ((field - 1).toNat * Nat.pow 2 format.fractionBits + rounded) format.infinity

/-- The pattern nearest to `± m · 2 ^ e`, ties to even. -/
def nearest (format : BinaryFormat) (negative : Bool) (m : Nat) (e : Int) : Binary format :=
  ofMagnitude format negative (nearestMagnitude format m e)

/-- The pattern of the target format nearest to the value of `x`. Infinities
keep their sign, and what is not a number stays so. -/
def convert {source : BinaryFormat} (target : BinaryFormat) (x : Binary source) : Binary target :=
  if x.isNaN then ofMagnitude target x.negative target.quietNaN
  else if x.isInfinite then ofMagnitude target x.negative target.infinity
  else nearest target x.negative x.significand x.exponent

/-- Sixteen hexadecimal digits of a double's word; every pattern that is not a
number is written alike. -/
def text (x : Binary .double) : String :=
  if x.isNaN then "nan"
  else
    let digits := Nat.toDigits 16 x.toBits
    String.ofList (List.replicate (16 - digits.length) '0' ++ digits)

/-- The pattern nearest to an integer. -/
def ofInt (format : BinaryFormat) (n : Int) : Binary format :=
  nearest format (n < 0) n.natAbs 0

end Binary

end ForeignMatrix.Element
