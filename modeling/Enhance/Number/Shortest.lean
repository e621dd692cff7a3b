/-
  Enhance/Number/Shortest.lean
  ============================
  **The fewest decimal digits that read back as a number.**

  Of the decimal grids with 1, 2, … 17 digits, the first one that holds a
  point which reads back decides the number of digits; of the two neighbours
  of the value on that grid the nearer one is taken.  The power of ten just
  above the value comes before them all, for it is one digit long and lies on
  every grid.  How digits and exponent are then laid out is a choice of the
  writer (`Layout`).
-/
import Enhance.Number.Decimal

namespace Enhance

namespace Binary64

/-- The exponent of the leading decimal digit of `num / den`, both positive. -/
def leadingExponent (num den : Nat) : Int :=
  if den ≤ num then (digitCount (num / den) : Int) - 1 else -(digitCount ((den - 1) / num) : Int)

/-- The nearer one of the value's two neighbours on the grid of multiples of
    10^`exponent` that read back as the value, if one does. -/
def onGrid? (x : Binary64) (exponent : Int) : Option Decimal :=
  let (num, den) :=
    if 0 ≤ exponent then (x.units, unitsInOne * Nat.pow 10 exponent.toNat)
    else (x.units * Nat.pow 10 (-exponent).toNat, unitsInOne)
  let below : Decimal := ⟨num / den, exponent⟩
  let above : Decimal := ⟨num / den + 1, exponent⟩
  let readsBack (d : Decimal) : Bool := (d.toBinary64 false).magnitude == x.magnitude
  let nearerAbove := den < 2 * (num % den) || (2 * (num % den) == den && (num / den) % 2 == 1)
  match readsBack below, readsBack above with
  | true, true => some (if nearerAbove then above else below)
  | true, false => some below
  | false, true => some above
  | false, false => none

/-- The shortest decimal that reads back as the size of a finite number. -/
def shortest (x : Binary64) : Decimal :=
  let top := leadingExponent x.units unitsInOne
  let grids := (List.range 18).map fun (n : Nat) => top + 1 - (n : Int)
  (grids.findSome? x.onGrid?).getD ⟨0, 0⟩

end Binary64

/-! ### Laying the digits out -/

/-- Where a writer of numbers uses positional notation, by the exponent of the
    leading digit. -/
structure Layout where
  positionalFrom : Int
  positionalTo : Int

namespace Layout

/-- Positional notation; a whole number ends in `.0`. -/
def positional (digits : List Char) (top : Int) : List Char :=
  if top < 0 then
    "0.".toList ++ List.replicate ((-top).toNat - 1) '0' ++ digits
  else
    let whole := digits.take (top.toNat + 1)
    let fraction := digits.drop (top.toNat + 1)
    let padding := List.replicate (top.toNat + 1 - digits.length) '0'
    whole ++ padding ++ '.' :: (if fraction.isEmpty then ['0'] else fraction)

/-- One digit before the point and a signed exponent. -/
def scientific (digits : List Char) (top : Int) : List Char :=
  let mantissa := match digits with
    | d :: e :: rest => d :: '.' :: e :: rest
    | short => short
  mantissa ++ 'e' :: (if top < 0 then '-' else '+') :: Nat.toDigits 10 top.natAbs

def render (l : Layout) (x : Binary64) : String :=
  let body :=
    if x.magnitude = 0 then "0.0".toList
    else
      let d := x.shortest
      let digits := Nat.toDigits 10 d.significand
      let top : Int := digits.length - 1 + d.exponent
      if l.positionalFrom ≤ top ∧ top ≤ l.positionalTo then positional digits top
      else scientific digits top
  String.ofList (if x.negative then '-' :: body else body)

end Layout

end Enhance
