import ForeignMatrix.Text.Printable

/-!
# Quoted debug texts

A text between double quotes in which quotes, backslashes and the common
controls are escaped by a backslash and every other unprintable character is
written by its code in lower-case hexadecimal.
-/

namespace ForeignMatrix.Text

/-- Form of one character between the quotes. -/
def quotedChar (c : Char) : List Char :=
  if c = '\x00' then ['\\', '0']
  else if c = '\t' then ['\\', 't']
  else if c = '\r' then ['\\', 'r']
  else if c = '\n' then ['\\', 'n']
  else if c = '"' then ['\\', '"']
  else if c = '\\' then ['\\', '\\']
  else if isPrintable c then [c]
  else ['\\', 'u', '\x7b'] ++ Nat.toDigits 16 c.toNat ++ ['\x7d']

/-- The text between quotes, escaped. -/
def quoted (text : String) : String :=
  String.ofList ('"' :: text.toList.flatMap quotedChar ++ ['"'])

end ForeignMatrix.Text
