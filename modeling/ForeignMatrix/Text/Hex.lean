/-!
# Hexadecimal

Numbers in hexadecimal digits of a fixed count, and digits read as a number.
-/

namespace ForeignMatrix.Text

/-- Value of a hexadecimal digit of either case. -/
def hexValue? (c : Char) : Option Nat :=
  if '0' ≤ c ∧ c ≤ '9' then some (c.toNat - '0'.toNat)
  else if 'a' ≤ c ∧ c ≤ 'f' then some (c.toNat - 'a'.toNat + 10)
  else if 'A' ≤ c ∧ c ≤ 'F' then some (c.toNat - 'A'.toNat + 10)
  else none

/-- Number that hexadecimal digits spell, the most significant first. -/
def ofHex? (digits : List Char) : Option Nat :=
  digits.foldlM (fun number c => (hexValue? c).map (number * 16 + ·)) 0

/-- The last `width` hexadecimal digits of a number, in lower case. -/
def toHex : (width number : Nat) → List Char
  | 0, _ => []
  | width + 1, number => toHex width (number / 16) ++ [Nat.digitChar (number % 16)]

/-- The last `width` hexadecimal digits of a number, in upper case. -/
def toUpperHex (width number : Nat) : List Char := (toHex width number).map Char.toUpper

/-- Character with the given code, if there is one. -/
def charOfCode? (code : Nat) : Option Char :=
  if code.isValidChar then some (Char.ofNat code) else none

end ForeignMatrix.Text
