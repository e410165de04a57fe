/-!
# Reading bytes as text

A byte sequence is cut into the characters it encodes and the longest broken
pieces between them. `decode?` reads well-formed bytes only; `decodeLossy`
shows a replacement character for each broken piece.
-/

namespace ForeignMatrix.Text.Utf8

/-- Reads `count` more bytes of a character. The first of them must lie
between `low` and `high`, the others between `0x80` and `0xbf`. Answers no
character when a byte does not fit, with the bytes from there on. -/
def continued : (count low high code : Nat) → List UInt8 → Option Char × List UInt8
  | 0, _, _, code, rest => (some (Char.ofNat code), rest)
  | _ + 1, _, _, _, [] => (none, [])
  | count + 1, low, high, code, b :: rest =>
    if low ≤ b.toNat ∧ b.toNat ≤ high then
      continued count 0x80 0xbf (code * 64 + b.toNat % 64) rest
    else (none, b :: rest)

/-- Reads one character, or one broken piece, from a first byte and the bytes
after it. -/
def next (first : UInt8) (rest : List UInt8) : Option Char × List UInt8 :=
  let n := first.toNat
  if n < 0x80 then (some (Char.ofNat n), rest)
  else if n < 0xc2 then (none, rest)
  else if n < 0xe0 then continued 1 0x80 0xbf (n - 0xc0) rest
  else if n = 0xe0 then continued 2 0xa0 0xbf 0 rest
  else if n = 0xed then continued 2 0x80 0x9f 0xd rest
  else if n < 0xf0 then continued 2 0x80 0xbf (n - 0xe0) rest
  else if n = 0xf0 then continued 3 0x90 0xbf 0 rest
  else if n < 0xf4 then continued 3 0x80 0xbf (n - 0xf0) rest
  else if n = 0xf4 then continued 3 0x80 0x8f 4 rest
  else (none, rest)

/-- Reading on never lengthens what is left. -/
theorem continued_length_le (count low high code : Nat) (rest : List UInt8) :
    (continued count low high code rest).2.length ≤ rest.length := by
  induction count generalizing low high code rest with
  | zero => simp [continued]
  | succ count ih =>
    cases rest with
    | nil => simp [continued]
    | cons b rest =>
      simp only [continued]
      split
      · exact Nat.le_succ_of_le (ih _ _ _ _)
      · simp

/-- Nor does reading a whole character. -/
theorem next_length_le (first : UInt8) (rest : List UInt8) :
    (next first rest).2.length ≤ rest.length := by
  simp only [next]
  repeat' split
  all_goals first | exact continued_length_le _ _ _ _ _ | exact Nat.le_refl _

/-- The characters of a byte sequence, with `none` for each broken piece. -/
def pieces : List UInt8 → List (Option Char)
  | [] => []
  | first :: rest => (next first rest).1 :: pieces (next first rest).2
termination_by bytes => bytes.length
decreasing_by exact Nat.lt_succ_of_le (next_length_le first rest)

/-- The text that the bytes encode, if none of them is broken. -/
def decode? (bytes : List UInt8) : Option String :=
  ((pieces bytes).mapM id).map String.ofList

/-- The text of the bytes, each broken piece shown as a replacement character. -/
def decodeLossy (bytes : List UInt8) : String :=
  String.ofList ((pieces bytes).map (·.getD '\ufffd'))

end ForeignMatrix.Text.Utf8
