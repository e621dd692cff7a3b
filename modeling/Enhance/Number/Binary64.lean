/-
  Enhance/Number/Binary64.lean
  ============================
  **Binary floating-point numbers of 64 bits, on their bits.**

  Scroll offsets, thresholds and the zone offset of the visitor are numbers of
  this format, and their bits can be asked for, so a number *is* its bits here.
  Every finite number is a multiple of the smallest positive one, 2^-1074; its
  size counted in that unit is a natural number (`units`), and all arithmetic
  is exact arithmetic on such counts followed by one rounding (`ofRatio`).

  Read as integers, the bits below the sign order the numbers by size.  So the
  signed integer `key` compares them: both zeros have the key 0, and a number
  is infinite or no number at all exactly when its size passes a fixed bound.
-/

namespace Enhance

/-- A number of the IEEE 754 format binary64, as its bits. -/
structure Binary64 where
  bits : UInt64
deriving DecidableEq, Inhabited

namespace Binary64

/-! ### Reading the bits -/

/-- What the sign bit is worth: 2^63. -/
def signWeight : Nat := 0x8000000000000000

/-- What the last bit of the exponent is worth: 2^52. -/
def exponentWeight : Nat := 0x10000000000000

/-- The number 1 in units of 2^-1074. -/
def unitsInOne : Nat := Nat.pow 2 1074

/-- The bits below the sign, as a natural number. -/
def magnitude (x : Binary64) : Nat := x.bits.toNat % signWeight

def negative (x : Binary64) : Bool := signWeight ≤ x.bits.toNat

/-- Size of the infinities: the first one that no finite number has. -/
def infiniteMagnitude : Nat := 2047 * exponentWeight

def isFinite (x : Binary64) : Bool := x.magnitude < infiniteMagnitude

def isNaN (x : Binary64) : Bool := infiniteMagnitude < x.magnitude

/-- Place in the order of the numbers; both zeros have the same place. -/
def key (x : Binary64) : Int := if x.negative then -(x.magnitude : Int) else x.magnitude

/-- `x < y` as numbers, and false when either is a NaN. -/
def lt (x y : Binary64) : Bool := !x.isNaN && !y.isNaN && x.key < y.key

/-- `0 ≤ x` as numbers: true of both zeros, false of a NaN. -/
def isNonneg (x : Binary64) : Bool := !x.isNaN && 0 ≤ x.key

/-- Size in units of 2^-1074. -/
def units (x : Binary64) : Nat :=
  let exponent := x.magnitude / exponentWeight
  let fraction := x.magnitude % exponentWeight
  if exponent = 0 then fraction else (exponentWeight + fraction) * Nat.pow 2 (exponent - 1)

theorem lt_of_isNaN_left {x : Binary64} (h : x.isNaN = true) (y : Binary64) :
    x.lt y = false := by simp [lt, h]

theorem lt_of_isNaN_right {y : Binary64} (h : y.isNaN = true) (x : Binary64) :
    x.lt y = false := by simp [lt, h]

theorem not_isNaN_of_isFinite {x : Binary64} (h : x.isFinite = true) : x.isNaN = false := by
  simp only [isFinite, decide_eq_true_eq] at h
  simp only [isNaN, decide_eq_false_iff_not]
  omega

/-- Nothing at or below zero passes a number that is not negative. -/
theorem lt_eq_false_of_key_le {x y : Binary64} (h : x.key ≤ y.key) : y.lt x = false := by
  simp only [lt, Bool.and_eq_false_iff, decide_eq_false_iff_not]
  right; omega

/-! ### Writing the bits -/

/-- The number of a given sign and size. -/
def ofMagnitude (neg : Bool) (m : Nat) : Binary64 :=
  ⟨UInt64.ofNat (if neg then m + signWeight else m)⟩

def zero (neg : Bool) : Binary64 := ofMagnitude neg 0

def infinity (neg : Bool) : Binary64 := ofMagnitude neg infiniteMagnitude

/-- The usual NaN with a sign. -/
def nan (neg : Bool) : Binary64 := ofMagnitude neg (infiniteMagnitude + exponentWeight / 2)

/-- The quotient rounded to a natural number, a half going to the even
    neighbour. -/
def divRound (num den : Nat) : Nat :=
  let q := num / den
  let r := num % den
  if den < 2 * r || (2 * r == den && q % 2 == 1) then q + 1 else q

/-- The number nearest to `num / den`, of two the one with the even last bit;
    infinity from the middle of the gap above the largest finite number on.

    In units of 2^-1074, the quotient is divided by the least power of two that
    leaves 53 bits.  Power and rounded quotient then add up to the bits: a
    quotient that rounds up to 54 bits carries into the exponent field, and
    with the power 1 the sum is right below and above the first normal
    number alike. -/
def ofRatio (neg : Bool) (num den : Nat) : Binary64 :=
  let n := num * unitsInOne
  let shift := (n / den).log2 - 52
  let rounded := divRound n (den * Nat.pow 2 shift)
  ofMagnitude neg (min (shift * exponentWeight + rounded) infiniteMagnitude)

/-- The number nearest to an integer. -/
def ofInt (i : Int) : Binary64 := ofRatio (i < 0) i.natAbs 1

/-! ### Arithmetic on finite numbers -/

/-- The same size with the other sign. -/
def neg (x : Binary64) : Binary64 := ofMagnitude (!x.negative) x.magnitude

/-- The rounded product of two finite numbers. -/
def mul (x y : Binary64) : Binary64 :=
  ofRatio (x.negative != y.negative) (x.units * y.units) (unitsInOne * unitsInOne)

/-- The rounded quotient of two finite numbers, the second not zero. -/
def div (x y : Binary64) : Binary64 := ofRatio (x.negative != y.negative) x.units y.units

/-- The nearest integer to a finite number, a half going away from zero. -/
def round (x : Binary64) : Int :=
  let n : Nat := (x.units + unitsInOne / 2) / unitsInOne
  if x.negative then -(n : Int) else n

end Binary64

end Enhance
