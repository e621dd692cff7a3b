/-
  Enhance/Proofs/Commit/Reading.lean
  ==================================
  **How far from the present a date that was read can be.**

  A written date has a year of four digits and an offset of less than a day.
  So the instant that is read off a text lies, on the clock at the text's own
  offset, between the first second of the year 0 and the first second of the
  year 10000 (`readDate_range`).  On any other clock it is off by the
  difference of the offsets and no more.
-/
import Enhance.Commit.DateText
import Enhance.Proofs.Commit.Calendar

namespace Enhance

/-! ### Clocks and years -/

namespace Timestamp

/-- The first second of a year on a clock, counted like the clock's own
    seconds. -/
def yearStart (y : Int) : Int := (Calendar.daysBeforeYear y - Date.epochDays) * 86400

theorem yearStart_zero : yearStart 0 = -62167219200 := by decide

theorem yearStart_tenThousand : yearStart 10000 = 253402300800 := by decide

/-- The clock shows an earlier year exactly when it stands before the first
    second of the year. -/
theorem year_lt_iff {t : Timestamp} {y : Int} :
    t.date.year < y ↔ t.localSeconds < yearStart y := by
  rw [date, Date.year_ofDays, Calendar.yearOfDay_lt_iff, yearStart]
  omega

theorem le_year_iff {t : Timestamp} {y : Int} :
    y ≤ t.date.year ↔ yearStart y ≤ t.localSeconds := by
  rw [← Int.not_lt, year_lt_iff, Int.not_lt]

theorem localSeconds_ofLocal (d : Date) (hour minute second nanosecond : Nat) (offset : Int) :
    (ofLocal d hour minute second nanosecond offset).localSeconds =
      (d.toDays - Date.epochDays) * 86400 + hour * 3600 + minute * 60 + second := by
  simp only [localSeconds, ofLocal]
  omega

/-- A real date at a time of day lies in its year. -/
theorem localSeconds_ofLocal_mem {d : Date} (hd : d.isReal = true) {hour minute second : Nat}
    (hh : hour ≤ 23) (hm : minute ≤ 59) (hs : second ≤ 59) (nanosecond : Nat) (offset : Int) :
    yearStart d.year ≤ (ofLocal d hour minute second nanosecond offset).localSeconds ∧
      (ofLocal d hour minute second nanosecond offset).localSeconds < yearStart (d.year + 1) := by
  have hlo := Date.daysBeforeYear_le_toDays hd
  have hhi := Date.toDays_lt_daysBeforeYear hd
  rw [localSeconds_ofLocal]
  unfold yearStart
  omega

end Timestamp

/-! ### Taking the text apart -/

namespace DateScan

variable {α β : Type}

/-- A sequence that succeeds does so in both parts. -/
theorem bind_eq_ok {x : DateScan α} {f : α → DateScan β} {l : List UInt8}
    {r : β × List UInt8} (h : (x >>= f) l = .ok r) :
    ∃ a m, x l = .ok (a, m) ∧ f a m = .ok r := by
  cases hx : x l with
  | error fault =>
    have hb : (x >>= f) l = .error fault := by
      show (x l >>= fun p => f p.1 p.2) = _
      rw [hx]
      rfl
    rw [hb] at h
    cases h
  | ok p =>
    have hb : (x >>= f) l = f p.1 p.2 := by
      show (x l >>= fun p => f p.1 p.2) = _
      rw [hx]
      rfl
    exact ⟨p.1, p.2, rfl, hb.symm.trans h⟩

theorem digitBytesValue_lt {l : List UInt8} (h : l.all Text.isDigitByte = true) :
    Text.digitBytesValue l < 10 ^ l.length := by
  have hgen : ∀ (l : List UInt8) (n w : Nat), l.all Text.isDigitByte = true → n < 10 ^ w →
      l.foldl (fun n b => 10 * n + Text.digitByteValue b) n < 10 ^ (w + l.length) := by
    intro l
    induction l with
    | nil => intro n w _ hn; exact hn
    | cons b rest ih =>
      intro n w hl hn
      simp only [List.all_cons, Bool.and_eq_true] at hl
      have hb : Text.digitByteValue b < 10 := by
        have hd := hl.1
        simp only [Text.isDigitByte, Text.byte, Bool.and_eq_true, decide_eq_true_eq,
          UInt8.le_iff_toNat_le] at hd
        have hnine : b.toNat ≤ 57 := hd.2
        unfold Text.digitByteValue
        omega
      have hn' : 10 * n + Text.digitByteValue b < 10 ^ (w + 1) := by
        rw [Nat.pow_succ]
        omega
      have hlen : w + (b :: rest).length = (w + 1) + rest.length := by
        rw [List.length_cons]
        omega
      rw [List.foldl_cons, hlen]
      exact ih _ _ hl.2 hn'
  have h0 := hgen l 0 0 h (by decide)
  rwa [Nat.zero_add] at h0

/-- A number of some digits is less than the power of ten of as many zeros. -/
theorem number_lt {width : Nat} {part : DatePart} {l m : List UInt8} {n : Nat}
    (h : number width part l = .ok (n, m)) : n < 10 ^ width := by
  unfold number at h
  simp only at h
  split at h
  · rename_i hd
    cases h
    have hlt := digitBytesValue_lt hd.2
    rwa [hd.1] at hlt
  · cases h

/-- An offset is at most 23 hours and 59 minutes to either side. -/
theorem offset_le {l m : List UInt8} {n : Int} (h : offset l = .ok (n, m)) :
    -86340 ≤ n ∧ n ≤ 86340 := by
  unfold offset at h
  obtain ⟨b, m₁, -, h⟩ := bind_eq_ok h
  split at h
  · cases h
    omega
  · split at h
    · obtain ⟨hours, m₂, -, h⟩ := bind_eq_ok h
      simp only at h
      split at h
      · obtain ⟨_, _, hthrow, -⟩ := bind_eq_ok h
        cases hthrow
      · rename_i hhours
        obtain ⟨_, m₃, -, h⟩ := bind_eq_ok h
        obtain ⟨minutes, m₄, -, h⟩ := bind_eq_ok h
        split at h
        · obtain ⟨_, _, hthrow, -⟩ := bind_eq_ok h
          cases hthrow
        · rename_i hminutes
          cases h
          split <;> omega
    · cases h

end DateScan

namespace DateFields

/-- A text of the right form has a year of four digits and an offset of less
    than a day. -/
theorem scan_bounds {l m : List UInt8} {f : DateFields} (h : scan l = .ok (f, m)) :
    (0 ≤ f.date.year ∧ f.date.year ≤ 9999) ∧ -86340 ≤ f.offset ∧ f.offset ≤ 86340 := by
  unfold scan at h
  obtain ⟨year, m₁, hyear, h⟩ := DateScan.bind_eq_ok h
  obtain ⟨_, m₂, -, h⟩ := DateScan.bind_eq_ok h
  obtain ⟨month, m₃, -, h⟩ := DateScan.bind_eq_ok h
  obtain ⟨_, m₄, -, h⟩ := DateScan.bind_eq_ok h
  obtain ⟨day, m₅, -, h⟩ := DateScan.bind_eq_ok h
  obtain ⟨_, m₆, -, h⟩ := DateScan.bind_eq_ok h
  obtain ⟨hour, m₇, -, h⟩ := DateScan.bind_eq_ok h
  obtain ⟨_, m₈, -, h⟩ := DateScan.bind_eq_ok h
  obtain ⟨minute, m₉, -, h⟩ := DateScan.bind_eq_ok h
  obtain ⟨_, m₁₀, -, h⟩ := DateScan.bind_eq_ok h
  obtain ⟨second, m₁₁, -, h⟩ := DateScan.bind_eq_ok h
  obtain ⟨nanosecond, m₁₂, -, h⟩ := DateScan.bind_eq_ok h
  obtain ⟨offset, m₁₃, hoffset, h⟩ := DateScan.bind_eq_ok h
  obtain ⟨_, m₁₄, -, h⟩ := DateScan.bind_eq_ok h
  cases h
  have hy : year < 10 ^ 4 := DateScan.number_lt hyear
  have hle : (year : Int) ≤ 9999 := by omega
  exact ⟨⟨Int.natCast_nonneg year, hle⟩, DateScan.offset_le hoffset⟩

/-- Parts that make a timestamp are a real date and a time of day, the leap
    second taken for the one before. -/
theorem resolve_eq_ok {f : DateFields} {t : Timestamp} (h : f.resolve = .ok t) :
    f.date.isReal = true ∧ f.hour ≤ 23 ∧ f.minute ≤ 59 ∧
      ∃ second nanosecond, second ≤ 59 ∧
        t = .ofLocal f.date f.hour f.minute second nanosecond f.offset := by
  have hchecks : ∀ second nanosecond : Nat, ∀ wrong : Prop, ∀ _ : Decidable wrong,
      (if 12 < f.date.month then Except.error (DateFault.outOfRange .month)
        else if ¬ f.date.isReal then .error (.outOfRange .day)
        else if 23 < f.hour then .error (.outOfRange .hour)
        else if 59 < f.minute then .error (.outOfRange .minute)
        else if wrong then .error (.outOfRange .second)
        else .ok (Timestamp.ofLocal f.date f.hour f.minute second nanosecond f.offset)) = .ok t →
      ¬ wrong ∧ f.date.isReal = true ∧ f.hour ≤ 23 ∧ f.minute ≤ 59 ∧
        t = .ofLocal f.date f.hour f.minute second nanosecond f.offset := by
    intro second nanosecond wrong _ h
    split at h
    · cases h
    · split at h
      · cases h
      · split at h
        · cases h
        · split at h
          · cases h
          · split at h
            · cases h
            · rename_i hdate hhour hminute hwrong
              cases h
              exact ⟨hwrong, by simpa using hdate, by omega, by omega, rfl⟩
  by_cases hleap : f.second = 60
  · simp only [resolve, hleap, if_true] at h
    obtain ⟨-, hdate, hhour, hminute, ht⟩ := hchecks _ _ _ _ h
    exact ⟨hdate, hhour, hminute, 59, 999999999, by omega, ht⟩
  · simp only [resolve, hleap, if_false] at h
    obtain ⟨hwrong, hdate, hhour, hminute, ht⟩ := hchecks _ _ _ _ h
    exact ⟨hdate, hhour, hminute, f.second, f.nanosecond, by omega, ht⟩

end DateFields

/-- **A date that was read** shows a year from 0 to 9999 on the clock at its own
    offset, and that offset is less than a day. -/
theorem readDate_range {l : List UInt8} {t : Timestamp} (h : readDate l = .ok t) :
    (Timestamp.yearStart 0 ≤ t.localSeconds ∧ t.localSeconds < Timestamp.yearStart 10000) ∧
      -86340 ≤ t.offset ∧ t.offset ≤ 86340 := by
  unfold readDate at h
  split at h
  · cases h
  · rename_i fields rest hscan
    obtain ⟨hyear, hoffset⟩ := DateFields.scan_bounds hscan
    obtain ⟨hreal, hhour, hminute, second, nanosecond, hsecond, rfl⟩ :=
      DateFields.resolve_eq_ok h
    obtain ⟨hlo, hhi⟩ := Timestamp.localSeconds_ofLocal_mem hreal hhour hminute hsecond
      nanosecond fields.offset
    have hzero : Timestamp.yearStart 0 ≤ Timestamp.yearStart fields.date.year := by
      have hmono := Calendar.daysBeforeYear_mono hyear.1
      unfold Timestamp.yearStart
      omega
    have hend : Timestamp.yearStart (fields.date.year + 1) ≤ Timestamp.yearStart 10000 := by
      have hnext : fields.date.year + 1 ≤ 10000 := by omega
      have hmono := Calendar.daysBeforeYear_mono hnext
      unfold Timestamp.yearStart
      omega
    exact ⟨⟨Int.le_trans hzero hlo, Int.lt_of_lt_of_le hhi hend⟩, hoffset⟩

end Enhance
