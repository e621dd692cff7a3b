/-
  Enhance/Number/Decimal.lean
  ===========================
  **Numbers written in decimal.**

  Two kinds of numeral occur in settings.  A *count* is a plus sign or nothing
  and then digits only, and must fit 32 bits.  A *measure* has a sign, digits
  with at most one point among or around them, and a power of ten, or is one
  of the words for infinity and for no number; its value is the nearest
  binary64 number.
-/
import Enhance.Number.Binary64

namespace Enhance

/-! ### Digits -/

def digitValue (c : Char) : Nat := c.toNat - '0'.toNat

def digitsValue (l : List Char) : Nat := l.foldl (fun n c => 10 * n + digitValue c) 0

/-- The least number of decimal digits that a natural number needs. -/
def digitCount (n : Nat) : Nat := (Nat.toDigits 10 n).length

/-! ### Counts -/

/-- Reads an optional plus sign and digits whose value fits 32 bits. -/
def readCount? (s : String) : Option UInt32 :=
  let digits := match s.toList with
    | '+' :: rest => rest
    | l => l
  if digits ≠ [] ∧ digits.all Char.isDigit ∧ digitsValue digits < UInt32.size then
    some (UInt32.ofNat (digitsValue digits))
  else none

/-! ### Measures -/

/-- A natural number times a power of ten. -/
structure Decimal where
  significand : Nat
  exponent : Int
deriving DecidableEq, Inhabited

namespace Decimal

/-- The nearest binary64 number.  From 10^309 on that is infinity and below
    10^-324 it is zero, so no power beyond these bounds is computed. -/
def toBinary64 (d : Decimal) (neg : Bool) : Binary64 :=
  let top : Int := digitCount d.significand + d.exponent
  if d.significand = 0 then .zero neg
  else if 309 < top then .infinity neg
  else if top < -323 then .zero neg
  else if 0 ≤ d.exponent then .ofRatio neg (d.significand * Nat.pow 10 d.exponent.toNat) 1
  else .ofRatio neg d.significand (Nat.pow 10 (-d.exponent).toNat)

/-- An optional sign: whether it is a minus, and what follows it. -/
def readSign : List Char → Bool × List Char
  | '-' :: rest => (true, rest)
  | '+' :: rest => (false, rest)
  | l => (false, l)

/-- What follows the digits of the significand: nothing, or a power of ten. -/
def readPower? : List Char → Option Int
  | [] => some 0
  | c :: rest =>
    let (minus, digits) := readSign rest
    if (c = 'e' ∨ c = 'E') ∧ digits ≠ [] ∧ digits.all Char.isDigit then
      let n : Int := digitsValue digits
      some (if minus then -n else n)
    else none

/-- Digits with at most one point and at least one digit, then a power of ten
    or nothing. -/
def read? (l : List Char) : Option Decimal :=
  let whole := l.takeWhile Char.isDigit
  let (fraction, rest) := match l.dropWhile Char.isDigit with
    | '.' :: r => (r.takeWhile Char.isDigit, r.dropWhile Char.isDigit)
    | r => ([], r)
  if whole = [] ∧ fraction = [] then none
  else
    (readPower? rest).map fun power =>
      ⟨digitsValue (whole ++ fraction), power - fraction.length⟩

end Decimal

/-- Reads a measure: a signed decimal numeral, `inf`, `infinity` or `nan`, the
    words in either ASCII case. -/
def readMeasure? (s : String) : Option Binary64 :=
  let (minus, rest) := Decimal.readSign s.toList
  let word := rest.map Char.toLower
  if word = "inf".toList ∨ word = "infinity".toList then some (.infinity minus)
  else if word = "nan".toList then some (.nan minus)
  else (Decimal.read? rest).map fun d => d.toBinary64 minus

end Enhance
