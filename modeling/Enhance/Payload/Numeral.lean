/-
  Enhance/Payload/Numeral.lean
  ============================
  **Numbers in JSON.**

  `Reader.numeral` takes a number apart.  Nothing the payload asks for is a
  number, so its value matters only to a message that refuses it: a whole
  number that fits 64 bits is shown as it is, any other as the text of a
  binary64 number.

  That number is found with two roundings.  The leading digits that fit 64
  bits are the significand; it is rounded once, then multiplied or divided by
  a rounded power of ten.  Digits beyond count by their place only.
-/
import Enhance.Number.Shortest
import Enhance.Payload.Reader

namespace Enhance.Payload

/-- A number taken apart. -/
structure Numeral where
  negative : Bool
  whole : List UInt8
  /-- The digits behind the point, if there is one. -/
  fraction : Option (List UInt8)
  /-- Whether the power of ten is negative, and its digits, if there is one. -/
  power : Option (Bool × List UInt8)
deriving DecidableEq

/-! ### Taking a number apart -/

namespace Reader

/-- The digits behind a point, at least one; `atEnd` is the fault of a body
    that ends instead. -/
def fractionDigits (atEnd : Malformed) : Reader (List UInt8) := do
  let l ← digits
  if l.isEmpty then
    if (← get).isEmpty then failNext atEnd else failNext .invalidNumber
  else return l

/-- The power of ten behind its letter. -/
def powerDigits (atEnd : Malformed) : Reader (Bool × List UInt8) := do
  let negative ← sees '-'
  if negative || (← sees '+') then skip
  match ← next? with
  | none => fail atEnd
  | some b =>
    if Text.isDigitByte b then return (negative, b :: (← digits)) else fail .invalidNumber

/-- The digits before a point; a leading zero stands alone. -/
def wholeDigits (atEnd : Malformed) : Reader (List UInt8) := do
  match ← next? with
  | none => fail atEnd
  | some b =>
    if ¬ Text.isDigitByte b then fail .invalidNumber
    else if b = Text.byte '0' then
      match ← peek? with
      | some c => if Text.isDigitByte c then failNext .invalidNumber else return [b]
      | none => return [b]
    else return b :: (← digits)

/-- The digits behind a point, if a point comes next. -/
def fraction? (atEnd : Malformed) : Reader (Option (List UInt8)) := do
  if ← sees '.' then
    skip
    return some (← fractionDigits atEnd)
  else return none

/-- The power of ten, if its letter comes next. -/
def power? (atEnd : Malformed) : Reader (Option (Bool × List UInt8)) := do
  if (← sees 'e') || (← sees 'E') then
    skip
    return some (← powerDigits atEnd)
  else return none

def numeral (atEnd : Malformed) : Reader Numeral := do
  let negative ← sees '-'
  if negative then skip
  let whole ← wholeDigits atEnd
  let fraction ← fraction? atEnd
  let power ← power? atEnd
  return ⟨negative, whole, fraction, power⟩

end Reader

/-! ### The value of a number -/

namespace Numeral

/-- Adds digits to a significand while it fits 64 bits: the significand, and
    how many digits went into it. -/
def absorb (significand : Nat) : List UInt8 → Nat × Nat
  | [] => (significand, 0)
  | b :: rest =>
    let grown := significand * 10 + Text.digitByteValue b
    if grown < UInt64.size then
      let (final, count) := absorb grown rest
      (final, count + 1)
    else (significand, 0)

/-- The digits before the point as a significand and a count of digits that
    did not fit. -/
def wholePart (n : Numeral) : Nat × Nat :=
  let (significand, taken) := absorb 0 n.whole
  (significand, n.whole.length - taken)

/-- Significand and power of ten of all digits, before the written power. -/
def scaled (n : Numeral) : Nat × Int :=
  let (significand, dropped) := n.wholePart
  let (significand, taken) := absorb significand (n.fraction.getD [])
  (significand, (dropped : Int) - taken)

/-- The greatest written power of ten that is taken at its word. -/
def powerLimit : Nat := 2147483647

/-- How many digits of the written power already pass the limit, if they do. -/
def powerOverflow? (digits : List UInt8) : Option Nat :=
  (List.range (digits.length + 1)).find? fun k =>
    powerLimit < Text.digitBytesValue (digits.take k)

def tenPower (k : Nat) : Binary64 := .ofRatio false (Nat.pow 10 k) 1

/-- Divides by 10^`k`, by at most 10^308 at a time, until nothing is left. -/
def divideByPower (x : Binary64) (k : Nat) : Binary64 :=
  if k ≤ 308 then x.div (tenPower k)
  else if x.magnitude = 0 then x
  else divideByPower (x.div (tenPower 308)) (k - 308)
termination_by k

/-- Significand times power of ten; none if that is beyond all numbers. -/
def approximate? (significand : Nat) (power : Int) : Option Binary64 :=
  let x := Binary64.ofRatio false significand 1
  if power < 0 then some (divideByPower x (-power).toNat)
  else if 308 < power then if significand = 0 then some x else none
  else
    let y := x.mul (tenPower power.toNat)
    if y.isFinite then some y else none

/-- Why a number has no value, or its value. -/
inductive Value where
  /-- A whole number that fits 64 bits. -/
  | integer (i : Int)
  | measure (x : Binary64)
  /-- Too large, as is known `unread` bytes before the end of the numeral. -/
  | tooLarge (unread : Nat)
deriving DecidableEq

def signed (n : Numeral) (x : Binary64) : Value := .measure (if n.negative then x.neg else x)

/-- The size of a number with a point, a power of ten, or too many digits. -/
def measured (n : Numeral) : Value :=
  let (significand, start) := n.scaled
  let scaledBy (power : Int) : Value :=
    match approximate? significand power with
    | some x => n.signed x
    | none => .tooLarge 0
  match n.power with
  | none => scaledBy start
  | some (minus, digits) =>
    match powerOverflow? digits with
    | some k =>
      if significand ≠ 0 ∧ ¬ minus then .tooLarge (digits.length - k)
      else n.signed (.zero false)
    | none =>
      let p : Int := Text.digitBytesValue digits
      scaledBy (start + if minus then -p else p)

def value (n : Numeral) : Value :=
  let (significand, dropped) := n.wholePart
  if n.fraction.isSome ∨ n.power.isSome ∨ dropped ≠ 0 then n.measured
  else if ¬ n.negative then .integer significand
  else if significand ≠ 0 ∧ significand ≤ Binary64.signWeight then .integer (-significand)
  else n.signed (Binary64.ofRatio false significand 1)

end Numeral

/-- Messages show a number positionally while its leading digit is between
    10^-5 and 10^15. -/
def numberLayout : Layout := ⟨-5, 15⟩

end Enhance.Payload
