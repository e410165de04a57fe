import ForeignMatrix.Text.Decimal
import ForeignMatrix.Text.Hex

/-!
# Words of YAML documents

What a text without quotes may mean besides itself: nothing, a flag or a
number. Whole numbers fit 128 bits, and fractions lie within the range of
double precision; digits after a leading zero make no number.
-/

namespace ForeignMatrix.Yaml

/-- Whether a text without quotes means nothing. -/
def isNull (text : String) : Bool := ["null", "Null", "NULL", "~"].contains text

/-- Flag that a text without quotes means. -/
def flagOf? (text : String) : Option Bool :=
  if ["true", "True", "TRUE"].contains text then some true
  else if ["false", "False", "FALSE"].contains text then some false
  else none

/-- The text without one given sign before it. -/
def dropSign (sign : Char) : List Char → List Char
  | c :: rest => if c = sign then rest else c :: rest
  | [] => []

/-- Whether a text is digits after a leading zero, with at most one sign. -/
def isPadded (text : List Char) : Bool :=
  let digits := match text with
    | c :: rest => if c = '+' || c = '-' then rest else c :: rest
    | [] => []
  1 < digits.length && digits.head? = some '0' && digits.all Char.isDigit

/-- Number that digits spell in a base of at most sixteen. -/
def ofBase? (base : Nat) (digits : List Char) : Option Nat :=
  if digits.isEmpty then none
  else
    digits.foldlM (fun number c => do
      let digit ← Text.hexValue? c
      if digit < base then some (number * base + digit) else none) 0

/-- Magnitude of a whole number without its sign. A mark may give its base. -/
def magnitude? : List Char → Option Nat
  | '0' :: 'x' :: digits => ofBase? 16 digits
  | '0' :: 'o' :: digits => ofBase? 8 digits
  | '0' :: 'b' :: digits => ofBase? 2 digits
  | digits => ofBase? 10 digits

/-- Whether a text is a whole number. -/
def isWhole (text : List Char) : Bool :=
  !isPadded text &&
    match text with
    | '-' :: digits => (magnitude? digits).any (· ≤ Nat.pow 2 127)
    | text => (magnitude? (dropSign '+' text)).any (· < Nat.pow 2 128)

/-- Exponent that a text spells, if it is one or empty. -/
def exponentOf? : List Char → Option Int
  | [] => some 0
  | mark :: text =>
    let digits := match text with
      | c :: rest => if c = '+' || c = '-' then rest else c :: rest
      | [] => []
    if (mark = 'e' || mark = 'E') && !digits.isEmpty && digits.all Char.isDigit then
      some (Text.ofSignedDigits text)
    else none

/-- Whether a text without a sign is a decimal fraction within range. -/
def isDecimal (text : List Char) : Bool :=
  let whole := text.takeWhile Char.isDigit
  let (fraction, rest) := match text.dropWhile Char.isDigit with
    | '.' :: rest => (rest.takeWhile Char.isDigit, rest.dropWhile Char.isDigit)
    | rest => ([], rest)
  if whole.isEmpty && fraction.isEmpty then false
  else
    match exponentOf? rest with
    | none => false
    | some exponent =>
      !Text.exceedsDouble (Text.ofDigits (whole ++ fraction)) (exponent - fraction.length)

/-- Whether a text is a fraction, an infinity or no number at all by name. -/
def isFraction (text : List Char) : Bool :=
  let unsigned := match text with
    | c :: rest => if c = '+' || c = '-' then rest else c :: rest
    | [] => []
  [".inf", ".Inf", ".INF"].contains (String.ofList unsigned)
    || [".nan", ".NaN", ".NAN"].contains (String.ofList text)
    || (!isPadded text && isDecimal unsigned)

/-- Whether a text without quotes would be taken for something else. -/
def isAmbiguous (text : String) : Bool :=
  let chars := text.toList
  chars.isEmpty || isNull text || (flagOf? text).isSome || isPadded chars || isWhole chars
    || isFraction chars

end ForeignMatrix.Yaml
