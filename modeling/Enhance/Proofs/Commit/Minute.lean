/-
  Enhance/Proofs/Commit/Minute.lean
  =================================
  **The text of a time is the minute, no more and no less.**

  Day, month, hour and minute take up two digits each, and the year takes up
  what they leave, so the text of a time can be cut apart again
  (`parts_of_text`), also where the year has a sign (`yearText_inj`).  Its parts
  are the calendar date and the time of day of a whole minute, and a minute has
  one date and one time of day (`minute_eq`).  So two times are shown alike
  exactly if they fall into one minute of the visitor's clock
  (`showTime_eq_iff_minute`).
-/
import Enhance.Proofs.Commit.Shown

namespace Enhance

open Text

/-! ### Numbers and years -/

theorem Text.padded_inj {width m n : Nat}
    (h : (padded width m).toList = (padded width n).toList) : m = n := by
  rw [← ofDigitChars_padded width m, h, ofDigitChars_padded]

theorem Date.eq_of_parts {d e : Date} (hyear : d.year = e.year) (hmonth : d.month = e.month)
    (hday : d.day = e.day) : d = e := by
  obtain ⟨year, month, day⟩ := d
  obtain ⟨year', month', day'⟩ := e
  cases hyear
  cases hmonth
  cases hday
  rfl

namespace Timestamp

/-- The sign of a year is told from its digits, so a year is read off its
    text. -/
theorem yearText_inj {y z : Int} (h : (yearText y).toList = (yearText z).toList) : y = z := by
  have hminus : ∀ n l, (padded 4 n).toList ≠ '-' :: l := by
    intro n l heq
    have hdigit : '-'.isDigit = true := isDigit_of_mem_padded (heq ▸ List.mem_cons_self)
    exact absurd hdigit (by decide)
  have hsigned : ∀ {x : Int}, x < 0 → (yearText x).toList = '-' :: (padded 4 x.natAbs).toList := by
    intro x hx
    rw [yearText, if_pos hx, String.toList_append]
    rfl
  have hplain : ∀ {x : Int}, ¬ x < 0 → (yearText x).toList = (padded 4 x.natAbs).toList := by
    intro x hx
    rw [yearText, if_neg hx, String.empty_append]
  by_cases hy : y < 0 <;> by_cases hz : z < 0
  · rw [hsigned hy, hsigned hz] at h
    have habs := padded_inj (List.cons.inj h).2
    omega
  · rw [hsigned hy, hplain hz] at h
    exact absurd h.symm (hminus _ _)
  · rw [hplain hy, hsigned hz] at h
    exact absurd h (hminus _ _)
  · rw [hplain hy, hplain hz] at h
    have habs := padded_inj h
    omega

/-! ### Texts and minutes -/

theorem toList_text (t : Timestamp) : t.text.toList =
    (padded 2 t.date.day).toList ++ ('-' :: ((padded 2 t.date.month).toList ++ ('-' ::
      ((yearText t.date.year).toList ++ (' ' :: ((padded 2 t.hour).toList ++ (':' ::
        (padded 2 t.minute).toList))))))) := by
  simp [text]

/-- Every part of a time is read off its text: those before and behind the year
    by their width, and the year is what is left. -/
theorem parts_of_text {t u : Timestamp} (h : t.text = u.text) :
    t.date = u.date ∧ t.hour = u.hour ∧ t.minute = u.minute := by
  obtain ⟨hday, hmonth, hhour, hminute⟩ := lt_hundred t
  obtain ⟨hday', hmonth', hhour', hminute'⟩ := lt_hundred u
  have htwo : ∀ {m n}, m < 100 → n < 100 →
      (padded 2 m).toList.length = (padded 2 n).toList.length := by
    intro m n hm hn
    rw [length_padded (by omega) hm, length_padded (by omega) hn]
  have hlist := congrArg String.toList h
  rw [toList_text, toList_text] at hlist
  obtain ⟨hd, hlist⟩ := List.append_inj hlist (htwo hday hday')
  obtain ⟨hm, hlist⟩ := List.append_inj (List.cons.inj hlist).2 (htwo hmonth hmonth')
  have hwidth : (' ' :: ((padded 2 t.hour).toList ++ (':' :: (padded 2 t.minute).toList))).length =
      (' ' :: ((padded 2 u.hour).toList ++ (':' :: (padded 2 u.minute).toList))).length := by
    simp only [List.length_cons, List.length_append, htwo hhour hhour', htwo hminute hminute']
  obtain ⟨hy, hlist⟩ := List.append_inj' (List.cons.inj hlist).2 hwidth
  obtain ⟨hh, hlist⟩ := List.append_inj (List.cons.inj hlist).2 (htwo hhour hhour')
  have hdate : t.date = u.date :=
    Date.eq_of_parts (yearText_inj hy) (padded_inj hm) (padded_inj hd)
  exact ⟨hdate, padded_inj hh, padded_inj (List.cons.inj hlist).2⟩

/-- The minute of the local clock is that of its date and time of day. -/
theorem minute_eq (t : Timestamp) : t.localSeconds / 60 =
    ((t.date.toDays - Date.epochDays) * 24 + t.hour) * 60 + t.minute := by
  rw [date, Date.toDays_ofDays]
  unfold hour minute secondOfDay
  omega

/-- The texts of two times are equal exactly if their clocks show one minute. -/
theorem text_eq_iff {t u : Timestamp} :
    t.text = u.text ↔ t.localSeconds / 60 = u.localSeconds / 60 := by
  constructor
  · intro h
    obtain ⟨hdate, hhour, hminute⟩ := parts_of_text h
    rw [minute_eq, minute_eq, hdate, hhour, hminute]
  · intro h
    have hday : t.localSeconds / 86400 = u.localSeconds / 86400 := by omega
    have hdate : t.date = u.date := by rw [date, date, hday]
    have hhour : t.hour = u.hour := by
      unfold hour secondOfDay
      omega
    have hminute : t.minute = u.minute := by
      unfold minute secondOfDay
      omega
    rw [text, text, hdate, hhour, hminute]

end Timestamp

/-! ### What is shown -/

theorem text_of_showTime {t : Timestamp} {offset : Int} {shown : String}
    (h : showTime t offset = .ok shown) : shown = ({ t with offset } : Timestamp).text := by
  rw [showTime_of_clock] at h
  split at h
  · exact (Except.ok.inj h).symm
  · cases h

/-- **A time is shown to the minute of the visitor's clock, exactly.**  It
    breaks down on a time exactly if the visitor's clock shows a year that is not
    of four digits.  Of two times that are shown, the texts are equal exactly if
    the times fall into one minute on that clock.  So neither the offset that a
    time was written in nor the fraction of its second shows, and no two minutes
    share a text. -/
theorem showTime_eq_iff_minute (t u : Timestamp) (offset : Int) :
    (∃ r : ClockReading, r.seconds = t.seconds + offset ∧
      (showTime t offset = .error .yearTooLong ↔ ¬ (-9999 ≤ r.date.year ∧ r.date.year ≤ 9999))) ∧
    (∀ shown shown', showTime t offset = .ok shown → showTime u offset = .ok shown' →
      (shown = shown' ↔ (t.seconds + offset) / 60 = (u.seconds + offset) / 60)) ∧
    ∀ (nanosecond : Nat) (written : Int),
      showTime { t with nanosecond, offset := written } offset = showTime t offset := by
  refine ⟨⟨({ t with offset } : Timestamp).reading, Timestamp.seconds_reading _, ?_⟩, ?_, ?_⟩
  · have hdate : ({ t with offset } : Timestamp).reading.date =
        ({ t with offset } : Timestamp).date := rfl
    rw [showTime_of_clock, hdate]
    constructor
    · intro h hyear
      rw [if_pos hyear] at h
      cases h
    · exact fun hyear => if_neg hyear
  · intro shown shown' ht hu
    rw [text_of_showTime ht, text_of_showTime hu]
    exact Timestamp.text_eq_iff
  · intro nanosecond written
    rw [showTime_of_clock, showTime_of_clock]
    rfl

/-- Two times of the last minute before the year 0, written hours apart, and the
    first time after it. -/
theorem showTime_eq_iff_minute_early :
    let late : Timestamp := ⟨-62167219230, 500, 7200⟩
    let later : Timestamp := ⟨-62167219201, 0, -3600⟩
    let midnight : Timestamp := ⟨-62167219200, 0, 0⟩
    showTime late 0 = .ok "31-12--0001 23:59" ∧ showTime later 0 = .ok "31-12--0001 23:59" ∧
      showTime midnight 0 = .ok "01-01-0000 00:00" ∧
      (late.seconds + 0) / 60 = (later.seconds + 0) / 60 ∧
      (late.seconds + 0) / 60 ≠ (midnight.seconds + 0) / 60 := by
  intro late later midnight
  have hlate : showTime late 0 = .ok "31-12--0001 23:59" := by decide +kernel
  have hlater : showTime later 0 = .ok "31-12--0001 23:59" := by decide +kernel
  have hmidnight : showTime midnight 0 = .ok "01-01-0000 00:00" := by decide +kernel
  refine ⟨hlate, hlater, hmidnight, ?_, fun hminute => ?_⟩
  · exact ((showTime_eq_iff_minute late later 0).2.1 _ _ hlate hlater).mp rfl
  · have halike := ((showTime_eq_iff_minute late midnight 0).2.1 _ _ hlate hmidnight).mpr hminute
    exact absurd halike (by decide)

end Enhance
