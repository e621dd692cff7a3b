/-
  Enhance/Proofs/Commit/WrittenDate.lean
  ======================================
  **Dates as they may be written,** and how they are read.

  A written date is a reading of a clock in a year of four digits, with any
  digits of a fraction behind the seconds and the clock's offset from UTC.
  Reading its text gives the timestamp of that reading at that offset
  (`readDate_encode`): each part is taken off the front, the numbers because
  they take up their whole width, the fraction because an offset begins with
  no digit.
-/
import Enhance.Proofs.Commit.Clock
import Enhance.Proofs.Text.Digits

namespace Enhance

open Text

/-! ### Written dates -/

/-- An offset as written: `Z` in either case, or a sign with hours and minutes. -/
inductive OffsetText where
  | utc (capital : Bool)
  | clock (west : Bool) (hours : Fin 24) (minutes : Fin 60)

namespace OffsetText

def chars : OffsetText → List Char
  | utc capital => [if capital then 'Z' else 'z']
  | clock west hours minutes =>
    (if west then '-' else '+') ::
      ((padded 2 hours).toList ++ ':' :: (padded 2 minutes).toList)

/-- The offset in seconds to the east. -/
def seconds : OffsetText → Int
  | utc _ => 0
  | clock west hours minutes =>
    if west then -(hours.val * 3600 + minutes.val * 60) else hours.val * 3600 + minutes.val * 60

end OffsetText

/-- A date and a time of day with an offset, as written. -/
structure WrittenDate where
  reading : ClockReading
  year_mem : 0 ≤ reading.date.year ∧ reading.date.year ≤ 9999
  /-- What stands between the day and the hour: `T`, or a character like it. -/
  separator : Char
  ascii : separator.toNat < 128
  /-- The digits of a fraction of a second. -/
  fraction : Option DigitRow
  offset : OffsetText

namespace WrittenDate

/-- `YYYY-MM-DDTHH:MM:SS`, a fraction and an offset. -/
def chars (w : WrittenDate) : List Char :=
  (padded 4 w.reading.date.year.toNat).toList ++ '-' :: ((padded 2 w.reading.date.month).toList ++
    '-' :: ((padded 2 w.reading.date.day).toList ++ w.separator ::
      ((padded 2 w.reading.hour).toList ++ ':' :: ((padded 2 w.reading.minute).toList ++
        ':' :: ((padded 2 w.reading.second).toList ++
          ((w.fraction.elim [] fun row => '.' :: row.chars) ++ w.offset.chars))))))

/-- The fraction in nanoseconds, rounded down. -/
def nanosecond (w : WrittenDate) : Nat :=
  w.fraction.elim 0 fun row => Nat.ofDigitChars 10 row.chars 0 * 10 ^ 9 / 10 ^ row.chars.length

/-- The seconds from the first of January 1970 at midnight in UTC. -/
def instant (w : WrittenDate) : Int := w.reading.seconds - w.offset.seconds

def timestamp (w : WrittenDate) : Timestamp := ⟨w.instant, w.nanosecond, w.offset.seconds⟩

theorem localSeconds_timestamp (w : WrittenDate) :
    w.timestamp.localSeconds = w.reading.seconds := by
  simp only [Timestamp.localSeconds, timestamp, instant]
  omega

theorem reading_timestamp (w : WrittenDate) : w.timestamp.reading = w.reading :=
  Timestamp.reading_eq w.localSeconds_timestamp

end WrittenDate

/-! ### Reading the parts -/

namespace DateScan

variable {α β : Type}

/-- A scanner that succeeds hands on what it gives and what it leaves. -/
theorem bind_of_ok {x : DateScan α} {l m : List UInt8} {a : α} (h : x l = .ok (a, m))
    (f : α → DateScan β) : (x >>= f) l = f a m := by
  show (x l >>= fun p => f p.1 p.2) = _
  rw [h]
  rfl

/-- A number that takes up its width is read. -/
theorem number_padded {width n : Nat} (hw : 0 < width) (hn : n < 10 ^ width) (part : DatePart)
    (rest : List UInt8) :
    number width part (encode (padded width n).toList ++ rest) = .ok (n, rest) := by
  have hdigits : ∀ c ∈ (padded width n).toList, c.isDigit = true :=
    fun _ hc => isDigit_of_mem_padded hc
  have hlen : (encode (padded width n).toList).length = width := by
    rw [encode_of_ascii fun c hc => ascii_of_isDigit (hdigits c hc), List.length_map,
      length_padded hw hn]
  have hall : (encode (padded width n).toList).all isDigitByte = true :=
    List.all_eq_true.mpr (isDigitByte_of_mem_encode hdigits)
  have htake : (encode (padded width n).toList ++ rest).take width =
      encode (padded width n).toList := List.take_left' hlen
  have hdrop : (encode (padded width n).toList ++ rest).drop width = rest := List.drop_left' hlen
  simp only [number, htake, hdrop, hlen, hall, and_self, if_true, digitBytesValue_encode hdigits,
    ofDigitChars_padded]

theorem mark_apply (c : Char) (rest : List UInt8) : mark c (byte c :: rest) = .ok ((), rest) := by
  simp [mark]

theorem anyByte_cons (part : DatePart) (b : UInt8) (rest : List UInt8) :
    anyByte part (b :: rest) = .ok (b, rest) := rfl

theorem month_padded {n : Nat} (h1 : 1 ≤ n) (hn : n < 100) (rest : List UInt8) :
    month (encode (padded 2 n).toList ++ rest) = .ok (n, rest) := by
  rw [month, bind_of_ok (number_padded (by decide) hn _ rest), if_neg (Nat.ne_of_gt h1)]
  rfl

/-- What begins like an offset carries on neither digits nor a number. -/
theorem head_offset (o : OffsetText) :
    ∃ b l, encode o.chars = b :: l ∧ isDigitByte b = false ∧ b ≠ byte '.' := by
  cases o with
  | utc capital => cases capital <;> exact ⟨_, _, rfl, by decide, by decide⟩
  | clock west hours minutes =>
    cases west <;> exact ⟨_, _, rfl, by decide, by decide⟩

/-- The fraction is read up to the offset, and counted in nanoseconds. -/
theorem fraction_apply (w : WrittenDate) :
    fraction (encode (w.fraction.elim [] fun row => '.' :: row.chars) ++ encode w.offset.chars) =
      .ok (w.nanosecond, encode w.offset.chars) := by
  obtain ⟨b, l, hoffset, hdigit, hpoint⟩ := head_offset w.offset
  rw [WrittenDate.nanosecond, hoffset]
  cases w.fraction with
  | none => simp [fraction, hpoint]
  | some row =>
    have hstop : ∀ d ∈ (b :: l).head?, isDigitByte d = false := by
      intro d hd
      cases hd
      exact hdigit
    rw [Option.elim_some, Option.elim_some, encode_cons_ascii (by decide), List.cons_append]
    simp only [fraction, if_true, takeWhile_digits row.digits hstop,
      dropWhile_digits row.digits hstop, row.isEmpty_encode, Bool.false_eq_true, if_false,
      digitBytesValue_take row.digits]

theorem offset_apply (o : OffsetText) : offset (encode o.chars) = .ok (o.seconds, []) := by
  cases o with
  | utc capital => cases capital <;> rfl
  | clock west hours minutes =>
    have hminutes : number 2 .offsetMinute (encode (padded 2 minutes).toList) =
        .ok (minutes.val, []) := by
      have hread := number_padded (by decide) (by omega : minutes.val < 10 ^ 2) .offsetMinute []
      rwa [List.append_nil] at hread
    -- the two signs differ in the last step only
    have hsign : ∀ c : Char, c = '-' ∨ c = '+' →
        offset (byte c :: (encode (padded 2 hours).toList ++
          byte ':' :: encode (padded 2 minutes).toList)) =
          .ok (if byte c = byte '-' then -(hours.val * 3600 + minutes.val * 60 : Int)
            else hours.val * 3600 + minutes.val * 60, []) := by
      intro c hc
      have hutc : ¬ (byte c = byte 'Z' ∨ byte c = byte 'z') := by
        rcases hc with rfl | rfl <;> decide
      have hclock : byte c = byte '+' ∨ byte c = byte '-' := by
        rcases hc with rfl | rfl
        · exact .inr rfl
        · exact .inl rfl
      rw [offset, bind_of_ok (anyByte_cons _ _ _), if_neg hutc, if_pos hclock,
        bind_of_ok (number_padded (by decide) (by omega : hours.val < 10 ^ 2) _ _)]
      simp only [if_neg (Nat.not_lt.mpr (Nat.le_of_lt_succ hours.isLt))]
      rw [bind_of_ok (mark_apply ':' _), bind_of_ok hminutes]
      simp only [if_neg (Nat.not_lt.mpr (Nat.le_of_lt_succ minutes.isLt))]
      rfl
    cases west with
    | true =>
      have hwest := hsign '-' (.inl rfl)
      rw [OffsetText.chars, if_pos rfl, encode_cons_ascii (by decide), encode_append,
        encode_cons_ascii (by decide), hwest]
      rfl
    | false =>
      have heast := hsign '+' (.inr rfl)
      rw [OffsetText.chars, if_neg Bool.false_ne_true, encode_cons_ascii (by decide), encode_append,
        encode_cons_ascii (by decide), heast]
      rfl

end DateScan

/-! ### Reading the whole date -/

/-- The parts that a written date is taken apart into. -/
def WrittenDate.fields (w : WrittenDate) : DateFields where
  date := w.reading.date
  hour := w.reading.hour
  minute := w.reading.minute
  second := w.reading.second
  nanosecond := w.nanosecond
  offset := w.offset.seconds

namespace DateFields

open DateScan

theorem scan_encode (w : WrittenDate) : scan (encode w.chars) = .ok (w.fields, []) := by
  have hyear : ((w.reading.date.year.toNat : Nat) : Int) = w.reading.date.year :=
    Int.toNat_of_nonneg w.year_mem.1
  have hreal := w.reading.real
  have hmonth := Date.month_le_of_isReal hreal
  have hday := Date.day_le_of_isReal hreal
  have hfirst : 1 ≤ w.reading.date.month := by
    simp only [Date.isReal, Bool.and_eq_true, decide_eq_true_eq] at hreal
    exact hreal.1.1.1
  have hfour : w.reading.date.year.toNat < 10 ^ 4 := by
    have hle := w.year_mem.2
    omega
  rw [WrittenDate.chars, encode_append, encode_cons_ascii (by decide), encode_append,
    encode_cons_ascii (by decide), encode_append, encode_cons_ascii w.ascii, encode_append,
    encode_cons_ascii (by decide), encode_append, encode_cons_ascii (by decide), encode_append,
    encode_append]
  rw [scan, bind_of_ok (number_padded (by decide) hfour _ _), bind_of_ok (mark_apply '-' _),
    bind_of_ok (month_padded hfirst (by omega) _), bind_of_ok (mark_apply '-' _),
    bind_of_ok (number_padded (by decide) (by omega) _ _),
    bind_of_ok (anyByte_cons _ _ _),
    bind_of_ok (number_padded (by decide) (by omega) _ _), bind_of_ok (mark_apply ':' _),
    bind_of_ok (number_padded (by decide) (by omega) _ _), bind_of_ok (mark_apply ':' _),
    bind_of_ok (number_padded (by decide) (by omega) _ _), bind_of_ok (fraction_apply w),
    bind_of_ok (offset_apply w.offset)]
  rw [hyear]
  rfl

theorem resolve_fields (w : WrittenDate) : w.fields.resolve = .ok w.timestamp := by
  have hmonth : ¬ 12 < w.fields.date.month :=
    Nat.not_lt.mpr (Date.month_le_of_isReal w.reading.real)
  have hday : ¬ ¬ w.fields.date.isReal = true := not_not_intro w.reading.real
  have hhour : ¬ 23 < w.fields.hour := Nat.not_lt.mpr (Nat.le_of_lt_succ w.reading.hour.isLt)
  have hminute : ¬ 59 < w.fields.minute :=
    Nat.not_lt.mpr (Nat.le_of_lt_succ w.reading.minute.isLt)
  have hsecond : ¬ 59 < w.fields.second :=
    Nat.not_lt.mpr (Nat.le_of_lt_succ w.reading.second.isLt)
  have hleap : ¬ w.fields.second = 60 := fun h => hsecond (by omega)
  simp only [resolve, hleap, if_false, if_neg hmonth, if_neg hday, if_neg hhour, if_neg hminute,
    hsecond, false_and, or_false]
  rfl

end DateFields

/-- **A written date** is read as the timestamp that is meant. -/
theorem readDate_encode (w : WrittenDate) : readDate (encode w.chars) = .ok w.timestamp := by
  rw [readDate, DateFields.scan_encode]
  exact DateFields.resolve_fields w

end Enhance
