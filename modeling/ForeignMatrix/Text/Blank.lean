/-!
# Blanks and letter case

The characters with the White_Space property, trimming by them, and the case
map of the ASCII letters. Case maps of other letters are not covered: none of
the words this library compares holds such a letter.
-/

namespace ForeignMatrix.Text

/-- Characters with the White_Space property. -/
def isBlank (c : Char) : Bool :=
  let n := c.toNat
  (0x09 ≤ n && n ≤ 0x0d) || n == 0x20 || n == 0x85 || n == 0xa0 || n == 0x1680
    || (0x2000 ≤ n && n ≤ 0x200a) || n == 0x2028 || n == 0x2029 || n == 0x202f
    || n == 0x205f || n == 0x3000

/-- The text without the blanks at its two ends. -/
def trim (text : String) : String :=
  String.ofList ((text.toList.dropWhile isBlank).reverse.dropWhile isBlank).reverse

/-- The text with its ASCII letters in lower case. -/
def lowerLetters (text : String) : String := text.map Char.toLower

end ForeignMatrix.Text
