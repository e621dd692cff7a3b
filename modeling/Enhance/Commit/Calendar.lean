/-
  Enhance/Commit/Calendar.lean
  ============================
  **The Gregorian calendar, continued without end in both directions.**

  Days are counted from the first of January of the year 0, which is a leap
  year.  `daysBeforeYear` counts the days of all earlier years, so a day lies
  in the one year `y` with `daysBeforeYear y ≤ day < daysBeforeYear (y + 1)`.
  The mean length of a year finds that year up to one
  (`daysBeforeYear_yearOfDay_le`, `lt_daysBeforeYear_yearOfDay`), and the
  lengths of the months take the rest of the day apart.
-/

namespace Enhance

namespace Calendar

/-! ### Years -/

/-- Every fourth year, of the centuries every fourth. -/
def isLeap (y : Int) : Bool := y % 4 == 0 && (y % 100 != 0 || y % 400 == 0)

/-- Days from the year 0 up to a year. -/
def daysBeforeYear (y : Int) : Int := 365 * y + (y + 3) / 4 - (y + 99) / 100 + (y + 399) / 400

def yearOfDay (day : Int) : Int :=
  let y := 400 * day / 146097
  if day < daysBeforeYear y then y - 1
  else if daysBeforeYear (y + 1) ≤ day then y + 1
  else y

theorem daysBeforeYear_succ (y : Int) :
    daysBeforeYear (y + 1) = daysBeforeYear y + (if isLeap y then 366 else 365) := by
  by_cases h4 : y % 4 = 0 <;> by_cases h100 : y % 100 = 0 <;> by_cases h400 : y % 400 = 0 <;>
    simp [isLeap, h4, h100, h400, daysBeforeYear] <;> omega

theorem daysBeforeYear_yearOfDay_le (day : Int) : daysBeforeYear (yearOfDay day) ≤ day := by
  unfold yearOfDay daysBeforeYear
  simp only []
  split
  · omega
  · split <;> omega

theorem lt_daysBeforeYear_yearOfDay (day : Int) : day < daysBeforeYear (yearOfDay day + 1) := by
  unfold yearOfDay
  simp only []
  split
  · rename_i h; rw [Int.sub_add_cancel]; exact h
  · split
    · unfold daysBeforeYear at *; omega
    · rename_i h; exact Int.not_le.mp h

/-! ### Months -/

def monthLengths (y : Int) : List Nat :=
  [31, if isLeap y then 29 else 28, 31, 30, 31, 30, 31, 31, 30, 31, 30, 31]

/-- The number of days in a month, the first month being 1. -/
def daysInMonth (y : Int) (month : Nat) : Nat := (monthLengths y).getD (month - 1) 0

/-- Days from the beginning of a year up to a month. -/
def daysBeforeMonth (y : Int) (month : Nat) : Nat :=
  ((monthLengths y).take (month - 1)).foldr (fun days sum => days + sum) 0

/-- Takes months off the front while they are over: the number of months
    passed and the days left. -/
def passMonths : List Nat → Nat → Nat × Nat
  | [], day => (0, day)
  | n :: rest, day =>
    if day < n then (0, day)
    else
      let (months, left) := passMonths rest (day - n)
      (months + 1, left)

end Calendar

/-! ### Dates -/

/-- A year, a month from 1 to 12, a day from 1. -/
structure Date where
  year : Int
  month : Nat
  day : Nat
deriving DecidableEq, Inhabited

namespace Date

/-- The month exists and has such a day. -/
def isReal (d : Date) : Bool :=
  1 ≤ d.month && d.month ≤ 12 && 1 ≤ d.day && d.day ≤ Calendar.daysInMonth d.year d.month

/-- Days from the first of January of the year 0. -/
def toDays (d : Date) : Int :=
  Calendar.daysBeforeYear d.year + Calendar.daysBeforeMonth d.year d.month + d.day - 1

def ofDays (day : Int) : Date :=
  let year := Calendar.yearOfDay day
  let (months, left) :=
    Calendar.passMonths (Calendar.monthLengths year) (day - Calendar.daysBeforeYear year).toNat
  ⟨year, months + 1, left + 1⟩

/-- The first of January 1970. -/
def epochDays : Int := 719528

theorem toDays_epoch : (⟨1970, 1, 1⟩ : Date).toDays = epochDays := by decide

end Date

end Enhance
