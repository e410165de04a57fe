/-!
# Decimal numbers

Whole numbers that texts of digits spell, and whether a number in decimal digits
lies within the range of double precision, decided in exact arithmetic.
-/

namespace ForeignMatrix.Text

/-- Least number that is rounded beyond the largest double: half a step above it. -/
def doubleLimit : Nat := Nat.pow 2 1024 - Nat.pow 2 970

/-- Number that decimal digits spell, the most significant first. -/
def ofDigits (digits : List Char) : Nat :=
  digits.foldl (fun number c => number * 10 + (c.toNat - '0'.toNat)) 0

/-- Whether `mantissa` times a power of ten is rounded beyond the largest
double. Exponents far out of range are told by the count of digits alone. -/
def exceedsDouble (mantissa : Nat) (exponent : Int) : Bool :=
  let size : Int := (Nat.toDigits 10 mantissa).length + exponent
  if mantissa = 0 || size < 300 then false
  else if 320 < size then true
  else if 0 ≤ exponent then doubleLimit ≤ mantissa * Nat.pow 10 exponent.toNat
  else doubleLimit * Nat.pow 10 (-exponent).toNat ≤ mantissa

/-- Number that an optional sign and digits spell. -/
def ofSignedDigits : List Char → Int
  | '-' :: digits => -ofDigits digits
  | '+' :: digits => ofDigits digits
  | digits => ofDigits digits

/-- Natural number that decimal digits spell, after an optional plus sign. -/
def natural? (text : String) : Option Nat :=
  let digits := match text.toList with
    | '+' :: rest => rest
    | chars => chars
  if digits.isEmpty ∨ !digits.all Char.isDigit then none else some (ofDigits digits)

/-- Integer that decimal digits spell, after an optional sign. -/
def integer? (text : String) : Option Int :=
  match text.toList with
  | '-' :: digits =>
    if digits.isEmpty ∨ !digits.all Char.isDigit then none else some (-ofDigits digits)
  | _ => (natural? text).map Int.ofNat

end ForeignMatrix.Text
