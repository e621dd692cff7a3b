/-
  Enhance/Commit/DateText.lean
  ============================
  **Dates as written in RFC 3339:** `2026-07-09T08:05:00.25+02:00`.

  The text is taken apart from left to right (`scan`), and the first thing out
  of place is the fault.  Only a text of the right form is then asked whether
  its fields make a real date and time (`DateFields.resolve`), again from left
  to right.  A second of 60 stands for a leap second.  It is kept as the last
  nanosecond before, and has to fall on the end of a month in UTC.
-/
import Enhance.Commit.Timestamp

namespace Enhance

/-! ### Faults -/

/-- A part of a written date. -/
inductive DatePart where
  | year | month | day | separator | hour | minute | second | subsecond | offsetHour | offsetMinute
deriving DecidableEq

def DatePart.name : DatePart → String
  | year => "year"
  | month => "month"
  | day => "day"
  | separator => "separator"
  | hour => "hour"
  | minute => "minute"
  | second => "second"
  | subsecond => "subsecond"
  | offsetHour => "offset hour"
  | offsetMinute => "offset minute"

/-- Why a text is no date. -/
inductive DateFault where
  /-- A part does not have its form. -/
  | unreadable (part : DatePart)
  /-- A sign between the parts is missing. -/
  | wrongMark
  /-- Something follows the date. -/
  | trailing
  /-- A part has its form and no meaning. -/
  | outOfRange (part : DatePart)
deriving DecidableEq

def DateFault.message : DateFault → String
  | unreadable part => "the '" ++ part.name ++ "' component could not be parsed"
  | wrongMark => "a character literal was not valid"
  | trailing => "unexpected trailing characters; the end of input was expected"
  | outOfRange part => part.name ++ " was not in range"

/-! ### Taking the text apart -/

/-- Reads something off the front of a row of bytes. -/
abbrev DateScan := StateT (List UInt8) (Except DateFault)

namespace DateScan

/-- A number of exactly `width` digits. -/
def number (width : Nat) (part : DatePart) : DateScan Nat := fun l =>
  let digits := l.take width
  if digits.length = width ∧ digits.all Text.isDigitByte then
    .ok (Text.digitBytesValue digits, l.drop width)
  else .error (.unreadable part)

def mark (c : Char) : DateScan Unit := fun l =>
  match l with
  | b :: rest => if b = Text.byte c then .ok ((), rest) else .error .wrongMark
  | [] => .error .wrongMark

def anyByte (part : DatePart) : DateScan UInt8 := fun l =>
  match l with
  | b :: rest => .ok (b, rest)
  | [] => .error (.unreadable part)

/-- A month, of two digits that are not both zero. -/
def month : DateScan Nat := do
  let n ← number 2 .month
  if n = 0 then throw (.unreadable .month) else return n

/-- A fraction in nanoseconds, if a point follows; digits after the ninth are
    dropped. -/
def fraction : DateScan Nat := fun l =>
  match l with
  | b :: rest =>
    if b = Text.byte '.' then
      let digits := rest.takeWhile Text.isDigitByte
      if digits.isEmpty then .error (.unreadable .subsecond)
      else
        .ok (Text.digitBytesValue ((digits ++ List.replicate 9 (Text.byte '0')).take 9),
          rest.dropWhile Text.isDigitByte)
    else .ok (0, l)
  | [] => .ok (0, l)

/-- An offset in seconds: `Z`, or a sign with hours and minutes. -/
def offset : DateScan Int := do
  let b ← anyByte .offsetHour
  if b = Text.byte 'Z' ∨ b = Text.byte 'z' then return 0
  else if b = Text.byte '+' ∨ b = Text.byte '-' then
    let hours ← number 2 .offsetHour
    if 23 < hours then throw (.unreadable .offsetHour)
    mark ':'
    let minutes ← number 2 .offsetMinute
    if 59 < minutes then throw (.outOfRange .offsetMinute)
    let n : Int := hours * 3600 + minutes * 60
    return if b = Text.byte '-' then -n else n
  else throw (.unreadable .offsetHour)

def finish : DateScan Unit := fun l => if l.isEmpty then .ok ((), l) else .error .trailing

end DateScan

/-- The parts of a text that has the form of a date. -/
structure DateFields where
  date : Date
  hour : Nat
  minute : Nat
  second : Nat
  nanosecond : Nat
  offset : Int
deriving DecidableEq

namespace DateFields

/-- Takes a date apart; any byte may stand between the day and the hour. -/
def scan : DateScan DateFields := do
  let year ← DateScan.number 4 .year
  DateScan.mark '-'
  let month ← DateScan.month
  DateScan.mark '-'
  let day ← DateScan.number 2 .day
  let _ ← DateScan.anyByte .separator
  let hour ← DateScan.number 2 .hour
  DateScan.mark ':'
  let minute ← DateScan.number 2 .minute
  DateScan.mark ':'
  let second ← DateScan.number 2 .second
  let nanosecond ← DateScan.fraction
  let offset ← DateScan.offset
  DateScan.finish
  return ⟨⟨year, month, day⟩, hour, minute, second, nanosecond, offset⟩

/-! ### Making a timestamp of the parts -/

/-- Whether an instant is the last second of a month in UTC. -/
def endsMonth (t : Timestamp) : Bool :=
  match t.shift? 0 with
  | some u =>
    u.secondOfDay == 86399 && u.date.day == Calendar.daysInMonth u.date.year u.date.month
  | none => false

def resolve (f : DateFields) : Except DateFault Timestamp :=
  let leap := f.second = 60
  let (second, nanosecond) := if leap then (59, 999999999) else (f.second, f.nanosecond)
  let t := Timestamp.ofLocal f.date f.hour f.minute second nanosecond f.offset
  if 12 < f.date.month then .error (.outOfRange .month)
  else if ¬ f.date.isReal then .error (.outOfRange .day)
  else if 23 < f.hour then .error (.outOfRange .hour)
  else if 59 < f.minute then .error (.outOfRange .minute)
  else if 59 < second ∨ (leap ∧ ¬ endsMonth t) then .error (.outOfRange .second)
  else .ok t

end DateFields

def readDate (l : List UInt8) : Except DateFault Timestamp :=
  match DateFields.scan l with
  | .error fault => .error fault
  | .ok (fields, _) => fields.resolve

end Enhance
