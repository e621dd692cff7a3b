/-
  Enhance/Text/Bytes.lean
  =======================
  **Texts as bytes of UTF-8,** and digits among bytes.
-/

namespace Enhance.Text

def bytes (s : String) : List UInt8 := s.toList.flatMap String.utf8EncodeChar

/-- The text that some bytes stand for; empty if they stand for none. -/
def ofBytes (l : List UInt8) : String := (String.fromUTF8? ⟨l.toArray⟩).getD ""

/-- The byte of an ASCII character. -/
def byte (c : Char) : UInt8 := UInt8.ofNat c.toNat

def isDigitByte (b : UInt8) : Bool := byte '0' ≤ b && b ≤ byte '9'

def digitByteValue (b : UInt8) : Nat := b.toNat - 48

def digitBytesValue (l : List UInt8) : Nat := l.foldl (fun n b => 10 * n + digitByteValue b) 0

/-- Value of an ASCII digit of base sixteen, in either case. -/
def hexByteValue? (b : UInt8) : Option Nat :=
  if isDigitByte b then some (b.toNat - 48)
  else if byte 'a' ≤ b && b ≤ byte 'f' then some (b.toNat - 87)
  else if byte 'A' ≤ b && b ≤ byte 'F' then some (b.toNat - 55)
  else none

/-- A natural number with leading zeros up to a width. -/
def padded (width n : Nat) : String :=
  let digits := Nat.toDigits 10 n
  String.ofList (List.replicate (width - digits.length) '0' ++ digits)

end Enhance.Text
