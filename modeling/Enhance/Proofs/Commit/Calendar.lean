/-
  Enhance/Proofs/Commit/Calendar.lean
  ===================================
  **Days, years and real dates.**

  The first days of the years are in order, so a day belongs to a year before
  `y` exactly when it comes before the first day of `y`
  (`yearOfDay_lt_iff`).  Taking the months off a day of a year leaves a month
  that exists and a day of it, so every day has a real date
  (`isReal_ofDays`), and a real date lies in its year
  (`daysBeforeYear_le_toDays`, `toDays_lt_daysBeforeYear`).
-/
import Enhance.Commit.Calendar
import Mathlib.Algebra.Ring.Nat

namespace Enhance

namespace Calendar

/-! ### Years -/

theorem daysBeforeYear_mono {x y : Int} (h : x ≤ y) : daysBeforeYear x ≤ daysBeforeYear y := by
  unfold daysBeforeYear
  omega

/-- A day belongs to an earlier year exactly when it comes before the first day
    of the year. -/
theorem yearOfDay_lt_iff {day y : Int} : yearOfDay day < y ↔ day < daysBeforeYear y := by
  constructor
  · intro h
    have hstep : daysBeforeYear (yearOfDay day + 1) ≤ daysBeforeYear y := daysBeforeYear_mono h
    exact Int.lt_of_lt_of_le (lt_daysBeforeYear_yearOfDay day) hstep
  · intro h
    apply Int.not_le.mp
    intro hy
    have hstep : daysBeforeYear y ≤ daysBeforeYear (yearOfDay day) := daysBeforeYear_mono hy
    have hday : daysBeforeYear y ≤ day := Int.le_trans hstep (daysBeforeYear_yearOfDay_le day)
    exact absurd h (Int.not_lt.mpr hday)

/-! ### Months -/

/-- The months of a year make up the year. -/
theorem sum_monthLengths (y : Int) :
    ((monthLengths y).sum : Int) = daysBeforeYear (y + 1) - daysBeforeYear y := by
  have hsum : (monthLengths y).sum = 365 + if isLeap y then 1 else 0 := by
    unfold monthLengths
    cases isLeap y <;> rfl
  rw [daysBeforeYear_succ, hsum]
  split <;> omega

theorem foldr_eq_sum (l : List Nat) : l.foldr (fun days sum => days + sum) 0 = l.sum := by
  induction l with
  | nil => rfl
  | cons n rest ih => rw [List.foldr_cons, ih, List.sum_cons]

/-- A day within a row of months lies in one of them. -/
theorem passMonths_lt {l : List Nat} {day : Nat} (h : day < l.sum) :
    (passMonths l day).1 < l.length ∧
      (passMonths l day).2 < l.getD (passMonths l day).1 0 := by
  induction l generalizing day with
  | nil => cases h
  | cons n rest ih =>
    rw [List.sum_cons] at h
    by_cases hn : day < n
    · simp [passMonths, hn]
    · have hrest : day - n < rest.sum := by omega
      obtain ⟨hmonth, hday⟩ := ih hrest
      simp only [passMonths, if_neg hn, List.length_cons, List.getD_cons_succ]
      exact ⟨Nat.succ_lt_succ hmonth, hday⟩

theorem length_monthLengths (y : Int) : (monthLengths y).length = 12 := rfl

theorem daysInMonth_le (y : Int) (month : Nat) : daysInMonth y month ≤ 31 := by
  have hmem : ∀ n ∈ monthLengths y, n ≤ 31 := by
    cases h : isLeap y <;> simp [monthLengths, h]
  unfold daysInMonth
  rw [List.getD_eq_getElem?_getD]
  cases hg : (monthLengths y)[month - 1]? with
  | none => simp
  | some n => exact hmem n (List.mem_of_getElem? hg)

/-- The days up to a month and those of the month do not exceed the year. -/
theorem daysBeforeMonth_add_daysInMonth_le (y : Int) {month : Nat} (h1 : 1 ≤ month)
    (h12 : month ≤ 12) :
    daysBeforeMonth y month + daysInMonth y month ≤ (monthLengths y).sum := by
  obtain ⟨k, rfl⟩ : ∃ k, month = k + 1 := ⟨month - 1, by omega⟩
  have hk : k < (monthLengths y).length := by rw [length_monthLengths]; omega
  have hsplit : (monthLengths y).take (k + 1) = (monthLengths y).take k ++ [(monthLengths y)[k]] :=
    (List.take_append_getElem hk).symm
  have hday : daysInMonth y (k + 1) = (monthLengths y)[k] := by
    rw [daysInMonth, Nat.add_sub_cancel, List.getD_eq_getElem?_getD, List.getElem?_eq_getElem hk,
      Option.getD_some]
  have htake : daysBeforeMonth y (k + 1) + daysInMonth y (k + 1) =
      ((monthLengths y).take (k + 1)).sum := by
    rw [daysBeforeMonth, foldr_eq_sum, Nat.add_sub_cancel, hday, hsplit, List.sum_append,
      List.sum_singleton]
  rw [htake]
  calc ((monthLengths y).take (k + 1)).sum
      ≤ ((monthLengths y).take (k + 1)).sum + ((monthLengths y).drop (k + 1)).sum :=
        Nat.le_add_right _ _
    _ = (monthLengths y).sum := by rw [← List.sum_append, List.take_append_drop]

end Calendar

namespace Date

open Calendar

/-! ### Dates -/

theorem year_ofDays (day : Int) : (ofDays day).year = yearOfDay day := rfl

/-- Every day has a real date. -/
theorem isReal_ofDays (day : Int) : (ofDays day).isReal = true := by
  have hle := daysBeforeYear_yearOfDay_le day
  have hlt := lt_daysBeforeYear_yearOfDay day
  have hsum := sum_monthLengths (yearOfDay day)
  have hday : (day - daysBeforeYear (yearOfDay day)).toNat < (monthLengths (yearOfDay day)).sum := by
    omega
  obtain ⟨hm, hd⟩ := passMonths_lt hday
  rw [length_monthLengths] at hm
  simp only [isReal, Bool.and_eq_true, decide_eq_true_eq]
  exact ⟨⟨⟨Nat.succ_pos _, hm⟩, Nat.succ_pos _⟩, hd⟩

variable {d : Date}

/-- A real date does not come before its year. -/
theorem daysBeforeYear_le_toDays (h : d.isReal = true) : daysBeforeYear d.year ≤ d.toDays := by
  simp only [isReal, Bool.and_eq_true, decide_eq_true_eq] at h
  unfold toDays
  omega

/-- A real date comes before the next year. -/
theorem toDays_lt_daysBeforeYear (h : d.isReal = true) :
    d.toDays < daysBeforeYear (d.year + 1) := by
  simp only [isReal, Bool.and_eq_true, decide_eq_true_eq] at h
  obtain ⟨⟨⟨h1, h12⟩, -⟩, hday⟩ := h
  have hmonth := daysBeforeMonth_add_daysInMonth_le d.year h1 h12
  have hsum := sum_monthLengths d.year
  unfold toDays
  omega

theorem month_le_of_isReal (h : d.isReal = true) : d.month ≤ 12 := by
  simp only [isReal, Bool.and_eq_true, decide_eq_true_eq] at h
  exact h.1.1.2

theorem day_le_of_isReal (h : d.isReal = true) : d.day ≤ 31 := by
  simp only [isReal, Bool.and_eq_true, decide_eq_true_eq] at h
  exact Nat.le_trans h.2 (daysInMonth_le d.year d.month)

end Date

end Enhance
