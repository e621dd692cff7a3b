/-
  Enhance/Commit/Timestamp.lean
  =============================
  **An instant, as read on a clock somewhere.**

  A timestamp is an instant together with the offset from UTC of the place
  where it was written down.  Moving it to another offset keeps the instant
  (`instant_shift`) and fails only when the year there has more than four
  digits.  It is shown to the minute, truncated.
-/
import Enhance.Commit.Calendar
import Enhance.Text.Bytes

namespace Enhance

/-- Seconds since 1970 in UTC, a fraction in nanoseconds, and the offset in
    seconds to the east. -/
structure Timestamp where
  seconds : Int
  nanosecond : Nat
  offset : Int
deriving DecidableEq, Inhabited

namespace Timestamp

/-! ### The clock at the timestamp's offset -/

/-- Seconds since 1970 on the local clock. -/
def localSeconds (t : Timestamp) : Int := t.seconds + t.offset

def date (t : Timestamp) : Date := .ofDays (t.localSeconds / 86400 + Date.epochDays)

/-- Seconds since midnight on the local clock. -/
def secondOfDay (t : Timestamp) : Nat := (t.localSeconds % 86400).toNat

def hour (t : Timestamp) : Nat := t.secondOfDay / 3600

def minute (t : Timestamp) : Nat := t.secondOfDay / 60 % 60

def second (t : Timestamp) : Nat := t.secondOfDay % 60

/-- The timestamp of a local date and time at an offset. -/
def ofLocal (d : Date) (hour minute second nanosecond : Nat) (offset : Int) : Timestamp :=
  ⟨(d.toDays - Date.epochDays) * 86400 + hour * 3600 + minute * 60 + second - offset, nanosecond,
    offset⟩

/-! ### Moving to another offset -/

/-- The years that have four digits, before or after the year 0. -/
def isDisplayable (t : Timestamp) : Bool := -9999 ≤ t.date.year && t.date.year ≤ 9999

/-- The same instant on the clock at another offset, unless the year there has
    more than four digits. -/
def shift? (t : Timestamp) (offset : Int) : Option Timestamp :=
  if ({ t with offset } : Timestamp).isDisplayable then some { t with offset } else none

theorem instant_shift {t t' : Timestamp} {offset : Int} (h : t.shift? offset = some t') :
    t'.seconds = t.seconds ∧ t'.nanosecond = t.nanosecond ∧ t'.offset = offset := by
  unfold shift? at h
  split at h
  · cases h; exact ⟨rfl, rfl, rfl⟩
  · cases h

/-! ### Texts -/

/-- A year in four digits, with a minus sign before the year 0. -/
def yearText (y : Int) : String := (if y < 0 then "-" else "") ++ Text.padded 4 y.natAbs

/-- `DD-MM-YYYY HH:MM` on the local clock. -/
def text (t : Timestamp) : String :=
  Text.padded 2 t.date.day ++ "-" ++ Text.padded 2 t.date.month ++ "-" ++ yearText t.date.year ++
    " " ++ Text.padded 2 t.hour ++ ":" ++ Text.padded 2 t.minute

/-- A fraction of a second without trailing zeros, at least one digit. -/
def fractionText (nanosecond : Nat) : String :=
  let digits := (Text.padded 9 nanosecond).toList.reverse.dropWhile (· == '0')
  if digits.isEmpty then "0" else String.ofList digits.reverse

/-- An offset as a sign and hours, minutes and seconds. -/
def offsetText (offset : Int) : String :=
  let n := offset.natAbs
  (if offset < 0 then "-" else "+") ++ Text.padded 2 (n / 3600) ++ ":" ++
    Text.padded 2 (n / 60 % 60) ++ ":" ++ Text.padded 2 (n % 60)

/-- Every field and the offset, for the log. -/
def fullText (t : Timestamp) : String :=
  yearText t.date.year ++ "-" ++ Text.padded 2 t.date.month ++ "-" ++ Text.padded 2 t.date.day ++
    " " ++ toString t.hour ++ ":" ++ Text.padded 2 t.minute ++ ":" ++ Text.padded 2 t.second ++
    "." ++ fractionText t.nanosecond ++ " " ++ offsetText t.offset

end Timestamp

end Enhance
