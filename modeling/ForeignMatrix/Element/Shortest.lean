import ForeignMatrix.Element.Binary

/-!
# Shortest decimal texts

The decimal text of a finite double with the fewest digits that reads back as
the same double, the nearest of those to its value. Each count of digits is
tried in turn against the interval of values that round to the double, in exact
arithmetic.
-/

namespace ForeignMatrix.Element

/-- Where documents write a point and where an exponent. -/
structure DecimalStyle where
  /-- A number whose point falls at most this many digits after its first digit
  is written without an exponent. -/
  largestPoint : Int
  /-- A number whose point falls more than this many digits before its first
  digit is written with an exponent. -/
  smallestPoint : Int

/-- Numbers of documents: sixteen digits before a point and five zeros after it. -/
def documentStyle : DecimalStyle := ⟨16, -5⟩

namespace Binary

/-- Numerator and denominator of `m · 2 ^ e`. -/
def ratio (m : Nat) (e : Int) : Nat × Nat :=
  if 0 ≤ e then (m * Nat.pow 2 e.toNat, 1) else (m, Nat.pow 2 (-e).toNat)

/-- Whether `d · 10 ^ k` lies in the interval of values that round to `x`. Its
ends, half a step away, belong to it when the significand is even. Below a
power of two the step is half as large. -/
def roundsTo {format : BinaryFormat} (x : Binary format) (d : Nat) (k : Int) : Bool :=
  let m := 4 * x.significand
  let down := if x.fractionField = 0 ∧ 1 < x.exponentField then 1 else 2
  let (low, scale) := ratio (m - down) (x.exponent - 2)
  let (high, _) := ratio (m + 2) (x.exponent - 2)
  let (value, unit) := if 0 ≤ k then (d * Nat.pow 10 k.toNat, 1) else (d, Nat.pow 10 (-k).toNat)
  let (below, tested, above) := (low * unit, value * scale, high * unit)
  if x.significand % 2 = 0 then below ≤ tested ∧ tested ≤ above
  else below < tested ∧ tested < above

/-- Digits of the candidate nearest to `x` among the two multiples of `10 ^ k`
around it that round to `x`; a tie goes to the even one. -/
def candidate {format : BinaryFormat} (x : Binary format) (k : Int) : Option Nat :=
  let (value, scale) := ratio x.significand x.exponent
  let (num, den) :=
    if 0 ≤ k then (value, scale * Nat.pow 10 k.toNat) else (value * Nat.pow 10 (-k).toNat, scale)
  let low := num / den
  let twice := 2 * (num % den)
  let first := if twice < den ∨ (twice = den ∧ low % 2 = 0) then low else low + 1
  let second := if first = low then low + 1 else low
  if x.roundsTo first k then some first else if x.roundsTo second k then some second else none

/-- Position of the point after the first digit of a positive value: the least
`p` for which the value is below `10 ^ p`. It is found from the power of two
with an error of at most one. -/
def pointPosition {format : BinaryFormat} (x : Binary format) : Int :=
  let (value, scale) := ratio x.significand x.exponent
  let below (p : Int) : Bool :=
    if 0 ≤ p then value < scale * Nat.pow 10 p.toNat else value * Nat.pow 10 (-p).toNat < scale
  let guess := ((x.significand.log2 : Int) + x.exponent) * 30103 / 100000 - 1
  if below guess then guess
  else if below (guess + 1) then guess + 1
  else if below (guess + 2) then guess + 2
  else guess + 3

/-- Digits and the power of ten they are multiplied by, for the fewest digits
that read back. -/
def shortestDigits {format : BinaryFormat} (x : Binary format) : Nat × Int :=
  let point := x.pointPosition
  ((List.range 18).findSome? fun (count : Nat) =>
    let k := point - (count + 1 : Nat)
    (x.candidate k).map (·, k)).getD (x.significand, x.exponent)

end Binary

/-- Drops trailing zeros, moving them into the power of ten. -/
def trimZeros (digits : List Char) (k : Int) : List Char × Int :=
  let zeros := (digits.reverse.takeWhile (· == '0')).length
  (digits.take (digits.length - zeros), k + zeros)

/-- Text of positive digits times a power of ten. -/
def DecimalStyle.write (style : DecimalStyle) (digits : List Char) (k : Int) : List Char :=
  let point := digits.length + k
  if 0 ≤ k ∧ point ≤ style.largestPoint then
    digits ++ List.replicate k.toNat '0' ++ ['.', '0']
  else if 0 < point ∧ point ≤ style.largestPoint then
    digits.take point.toNat ++ '.' :: digits.drop point.toNat
  else if style.smallestPoint < point ∧ point ≤ 0 then
    ['0', '.'] ++ List.replicate (-point).toNat '0' ++ digits
  else
    let mantissa := match digits with
      | [] => []
      | [digit] => [digit]
      | digit :: rest => digit :: '.' :: rest
    mantissa ++ 'e' :: (toString (point - 1)).toList

/-- Shortest text of a finite double. -/
def shortest (x : Binary .double) : String :=
  let sign := if x.negative then ['-'] else []
  if x.magnitude = 0 then String.ofList (sign ++ ['0', '.', '0'])
  else
    let (digits, k) := x.shortestDigits
    let (digits, k) := trimZeros (Nat.toDigits 10 digits) k
    String.ofList (sign ++ documentStyle.write digits k)

end ForeignMatrix.Element
