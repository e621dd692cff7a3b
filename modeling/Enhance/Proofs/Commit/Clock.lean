/-
  Enhance/Proofs/Commit/Clock.lean
  ================================
  **Readings of a calendar and a clock.**

  A reading is a real date and a time of day.  Counting its seconds and taking
  seconds apart are inverse to each other, first for days and dates
  (`ofDays_toDays`, `toDays_ofDays`) and then for seconds and readings
  (`seconds_injective`, `seconds_reading`).  So a timestamp shows exactly one
  reading on a clock, and the reading is known as soon as its seconds are.
-/
import Enhance.Proofs.Commit.Reading

namespace Enhance

namespace Calendar

/-! ### Months -/

/-- The months passed and the days left make up the day. -/
theorem sum_passMonths (l : List Nat) (day : Nat) :
    (l.take (passMonths l day).1).sum + (passMonths l day).2 = day := by
  induction l generalizing day with
  | nil => exact Nat.zero_add day
  | cons n rest ih =>
    by_cases hn : day < n
    · simp [passMonths, hn]
    · have hrest := ih (day - n)
      simp only [passMonths, if_neg hn, List.take_succ_cons, List.sum_cons]
      omega

theorem passMonths_sum {l : List Nat} {months left : Nat} (h : left < l.getD months 0) :
    passMonths l ((l.take months).sum + left) = (months, left) := by
  induction l generalizing months with
  | nil => cases h
  | cons n rest ih =>
    cases months with
    | zero =>
      have hn : left < n := h
      simp [passMonths, hn]
    | succ months =>
      have hrest : passMonths rest ((rest.take months).sum + left) = (months, left) := ih h
      have hn : ¬ n + ((rest.take months).sum + left) < n := by omega
      rw [List.take_succ_cons, List.sum_cons, Nat.add_assoc, passMonths, if_neg hn,
        Nat.add_sub_cancel_left, hrest]

end Calendar

namespace Date

open Calendar

/-! ### Days and dates -/

/-- A real date lies in its own year. -/
theorem yearOfDay_toDays {d : Date} (h : d.isReal = true) : yearOfDay d.toDays = d.year := by
  have hlow : ¬ yearOfDay d.toDays < d.year := by
    rw [yearOfDay_lt_iff]
    exact Int.not_lt.mpr (daysBeforeYear_le_toDays h)
  have hhigh : yearOfDay d.toDays < d.year + 1 := yearOfDay_lt_iff.mpr (toDays_lt_daysBeforeYear h)
  omega

/-- Counting the days of a real date and taking them apart gives the date
    back. -/
theorem ofDays_toDays {d : Date} (h : d.isReal = true) : ofDays d.toDays = d := by
  have hyear := yearOfDay_toDays h
  simp only [isReal, Bool.and_eq_true, decide_eq_true_eq] at h
  obtain ⟨⟨⟨h1, h12⟩, hday⟩, hlen⟩ := h
  have hleft : d.day - 1 < (monthLengths d.year).getD (d.month - 1) 0 := by
    have hmonth : d.day ≤ (monthLengths d.year).getD (d.month - 1) 0 := hlen
    omega
  have hcount : (d.toDays - daysBeforeYear d.year).toNat =
      ((monthLengths d.year).take (d.month - 1)).sum + (d.day - 1) := by
    rw [toDays, daysBeforeMonth, foldr_eq_sum]
    omega
  simp only [ofDays, hyear, hcount, passMonths_sum hleft]
  rw [Nat.sub_add_cancel h1, Nat.sub_add_cancel hday]

theorem toDays_ofDays (day : Int) : (ofDays day).toDays = day := by
  have hle := daysBeforeYear_yearOfDay_le day
  have hsum := sum_passMonths (monthLengths (yearOfDay day))
    (day - daysBeforeYear (yearOfDay day)).toNat
  simp only [toDays, ofDays, daysBeforeMonth, foldr_eq_sum, Nat.add_sub_cancel]
  omega

end Date

/-! ### Readings -/

/-- What a calendar and a clock show: a real date and a time of day. -/
structure ClockReading where
  date : Date
  real : date.isReal = true
  hour : Fin 24
  minute : Fin 60
  second : Fin 60

namespace ClockReading

/-- The seconds from the first of January 1970 at midnight on the same clock. -/
def seconds (r : ClockReading) : Int :=
  (r.date.toDays - Date.epochDays) * 86400 + r.hour.val * 3600 + r.minute.val * 60 + r.second.val

/-- `DD-MM-YYYY HH:MM`; the seconds are left out. -/
def text (r : ClockReading) : String :=
  Text.padded 2 r.date.day ++ "-" ++ Text.padded 2 r.date.month ++ "-" ++
    Text.padded 4 r.date.year.toNat ++ " " ++ Text.padded 2 r.hour ++ ":" ++
      Text.padded 2 r.minute

theorem seconds_injective : Function.Injective seconds := by
  rintro ⟨d, hd, ⟨hour, hhour⟩, ⟨minute, hminute⟩, ⟨second, hsecond⟩⟩
    ⟨d', hd', ⟨hour', hhour'⟩, ⟨minute', hminute'⟩, ⟨second', hsecond'⟩⟩ h
  simp only [seconds] at h
  have hdays : d.toDays = d'.toDays := by omega
  have hdate : d = d' := by rw [← Date.ofDays_toDays hd, hdays, Date.ofDays_toDays hd']
  have hh : hour = hour' := by omega
  have hm : minute = minute' := by omega
  have hs : second = second' := by omega
  subst hdate hh hm hs
  rfl

end ClockReading

namespace Timestamp

/-- What the clock at the timestamp's offset shows. -/
def reading (t : Timestamp) : ClockReading where
  date := t.date
  real := Date.isReal_ofDays _
  hour := ⟨t.hour, by unfold hour secondOfDay; omega⟩
  minute := ⟨t.minute, by unfold minute; omega⟩
  second := ⟨t.second, by unfold second; omega⟩

theorem seconds_reading (t : Timestamp) : t.reading.seconds = t.localSeconds := by
  simp only [ClockReading.seconds, reading, date, Date.toDays_ofDays, hour, minute, second,
    secondOfDay]
  omega

/-- The clock shows the reading that stands for its seconds. -/
theorem reading_eq {t : Timestamp} {r : ClockReading} (h : t.localSeconds = r.seconds) :
    t.reading = r :=
  ClockReading.seconds_injective ((seconds_reading t).trans h)

end Timestamp

theorem ClockReading.seconds_surjective : Function.Surjective ClockReading.seconds := by
  intro n
  refine ⟨(⟨n, 0, 0⟩ : Timestamp).reading, ?_⟩
  rw [Timestamp.seconds_reading, Timestamp.localSeconds, Int.add_zero]

end Enhance
