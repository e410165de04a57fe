import ForeignMatrix.Text.Decimal
import ForeignMatrix.Text.Hex

/-!
# Numbers and moments of TOML documents

Readers that recognize a number, a date, a time or both and answer what
follows it. Whole numbers fit a signed word of 64 bits, positive fractions lie
within the range of double precision, and dates are those of the calendar.
-/

namespace ForeignMatrix.Toml

/-- Reads digits between which single underscores may stand. The underscores
are left out. -/
def readDigits (isDigit : Char → Bool) : List Char → Option (List Char × List Char)
  | [] => none
  | [c] => if isDigit c then some ([c], []) else none
  | c :: next :: rest =>
    if !isDigit c then none
    else if next = '_' then (readDigits isDigit rest).map fun (digits, rest) => (c :: digits, rest)
    else if isDigit next then
      (readDigits isDigit (next :: rest)).map fun (digits, rest) => (c :: digits, rest)
    else some ([c], next :: rest)

/-- Whether a character is a hexadecimal digit. -/
def isHexDigit (c : Char) : Bool := (Text.hexValue? c).isSome

/-- Whether a character is an octal digit. -/
def isOctalDigit (c : Char) : Bool := '0' ≤ c && c ≤ '7'

/-- Whether a character is a binary digit. -/
def isBinaryDigit (c : Char) : Bool := c = '0' || c = '1'

/-- Greatest whole number. -/
def maxWhole : Nat := 0x7fffffffffffffff

/-- Reads a whole number in a base other than ten, after its mark. -/
def readBased (base : Nat) (isDigit : Char → Bool) (input : List Char) : Option (List Char) := do
  let (digits, rest) ← readDigits isDigit input
  let value := digits.foldl (fun n c => n * base + (Text.hexValue? c).getD 0) 0
  if value ≤ maxWhole then some rest else none

/-- Reads decimal digits of which a leading zero stands alone. -/
def readWhole : List Char → Option (List Char × List Char)
  | '0' :: rest => some (['0'], rest)
  | input => readDigits Char.isDigit input

/-- Reads an optional sign. -/
def readSign : List Char → List Char × List Char
  | '+' :: rest => (['+'], rest)
  | '-' :: rest => (['-'], rest)
  | rest => ([], rest)

/-- Reads an optional fraction; its digits. -/
def readFraction : List Char → Option (Option (List Char) × List Char)
  | '.' :: rest => (readDigits Char.isDigit rest).map fun (digits, rest) => (some digits, rest)
  | rest => some (none, rest)

/-- Reads an optional exponent. -/
def readExponent : List Char → Option (Option Int × List Char)
  | [] => some (none, [])
  | mark :: rest =>
    if mark = 'e' ∨ mark = 'E' then
      let (sign, rest) := readSign rest
      (readDigits Char.isDigit rest).map fun (digits, rest) =>
        (some (Text.ofSignedDigits (sign ++ digits)), rest)
    else some (none, mark :: rest)

/-- Reads a decimal number after its sign. -/
def readDecimal (negative : Bool) (input : List Char) : Option (List Char) := do
  let (whole, rest) ← readWhole input
  let (fraction, rest) ← readFraction rest
  let (exponent, rest) ← readExponent rest
  if fraction.isNone && exponent.isNone then
    if Text.ofDigits whole ≤ (if negative then maxWhole + 1 else maxWhole) then some rest else none
  else
    let decimals := fraction.getD []
    let mantissa := Text.ofDigits (whole ++ decimals)
    if !negative && Text.exceedsDouble mantissa (exponent.getD 0 - decimals.length) then none
    else some rest

/-- Reads a number and answers what follows it. -/
def readNumber (input : List Char) : Option (List Char) :=
  match input with
  | '0' :: 'x' :: rest => readBased 16 isHexDigit rest
  | '0' :: 'o' :: rest => readBased 8 isOctalDigit rest
  | '0' :: 'b' :: rest => readBased 2 isBinaryDigit rest
  | _ =>
    match readSign input with
    | (_, 'i' :: 'n' :: 'f' :: rest) => some rest
    | (_, 'n' :: 'a' :: 'n' :: rest) => some rest
    | (sign, rest) => readDecimal (sign = ['-']) rest

/-- Reads a number of exactly `count` digits. -/
def readCount (count : Nat) (input : List Char) : Option (Nat × List Char) :=
  let digits := input.take count
  if digits.length = count ∧ digits.all Char.isDigit then
    some (Text.ofDigits digits, input.drop count)
  else none

/-- Reads one given character. -/
def expect (c : Char) : List Char → Option (List Char)
  | next :: rest => if next = c then some rest else none
  | [] => none

/-- Number of days of a month. -/
def daysOfMonth (year month : Nat) : Nat :=
  if month = 2 then
    if year % 4 = 0 ∧ (year % 100 ≠ 0 ∨ year % 400 = 0) then 29 else 28
  else if month ∈ [4, 6, 9, 11] then 30
  else 31

/-- Reads a date of the calendar. -/
def readDate (input : List Char) : Option (List Char) := do
  let (year, rest) ← readCount 4 input
  let (month, rest) ← readCount 2 (← expect '-' rest)
  let (day, rest) ← readCount 2 (← expect '-' rest)
  if 1 ≤ month ∧ month ≤ 12 ∧ 1 ≤ day ∧ day ≤ daysOfMonth year month then some rest else none

/-- Reads an hour and a minute. -/
def readHourMinute (input : List Char) : Option (List Char) := do
  let (hour, rest) ← readCount 2 input
  let (minute, rest) ← readCount 2 (← expect ':' rest)
  if hour ≤ 23 ∧ minute ≤ 59 then some rest else none

/-- Reads a time of day. The last minute may have a leap second. -/
def readTime (input : List Char) : Option (List Char) := do
  let (second, rest) ← readCount 2 (← expect ':' (← readHourMinute input))
  if 60 < second then none
  else
    match rest with
    | '.' :: next :: rest => if next.isDigit then some (rest.dropWhile Char.isDigit) else none
    | rest => some rest

/-- Reads an optional distance from universal time. -/
def readOffset (input : List Char) : List Char :=
  match input with
  | mark :: rest =>
    if mark = 'Z' ∨ mark = 'z' then rest
    else if mark = '+' ∨ mark = '-' then (readHourMinute rest).getD input
    else input
  | [] => []

/-- Reads a date, a time of day, or both, and answers what follows. -/
def readMoment (input : List Char) : Option (List Char) :=
  match readDate input with
  | none => readTime input
  | some rest =>
    match rest with
    | mark :: time =>
      if mark = 'T' ∨ mark = 't' ∨ mark = ' ' then
        some (((readTime time).map readOffset).getD rest)
      else some rest
    | [] => some []

end ForeignMatrix.Toml
