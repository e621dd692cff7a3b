/-
  Enhance/Text/Quoted.lean
  ========================
  **Quoted text, as messages show a value they refuse.**

  The text stands in double quotes.  A quote, a backslash and the four common
  controls have two-character escapes; a character that could not be seen is
  written by its code point in hexadecimal; everything else stands for itself.
-/
import Enhance.Text.Unprintable

namespace Enhance.Text

/-- A code point in lower-case hexadecimal, without leading zeros. -/
def hexadecimal (n : Nat) : List Char := Nat.toDigits 16 n

/-- What stands for one character between the quotes. -/
def escaped (c : Char) : List Char :=
  if c = '\x00' then ['\\', '0']
  else if c = '\t' then ['\\', 't']
  else if c = '\r' then ['\\', 'r']
  else if c = '\n' then ['\\', 'n']
  else if c = '"' then ['\\', '"']
  else if c = '\\' then ['\\', '\\']
  else if isUnprintable c then "\\u\x7b".toList ++ hexadecimal c.toNat ++ ['\x7d']
  else [c]

/-- A text in double quotes, with whatever needs an escape escaped. -/
def quote (s : String) : String :=
  String.ofList ('"' :: (s.toList.flatMap escaped ++ ['"']))

end Enhance.Text
