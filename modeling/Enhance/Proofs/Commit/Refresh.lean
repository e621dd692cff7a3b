/-
  Enhance/Proofs/Commit/Refresh.lean
  ==================================
  **What a refresh of the last update can show.**

  A refresh asks once and, unless it breaks down, shows one text: one of two
  fixed remarks, or the time of the newest commit on the visitor's clock.  The
  time has the form `DD-MM-YYYY HH:MM` exactly as long as the visitor's clock
  is in a year from 0 to 9999.  Dates are read for these years only, but on a
  clock to the east the last hours of the year 9999 are in the year 10000, for
  which there is no text, and on a clock to the west the first hours of the
  year 0 are in the year -1, whose text has a sign more
  (`refresh_shown_iff`).
-/
import Enhance.Commit.Status
import Enhance.Proofs.Action
import Enhance.Proofs.Commit.Reading
import Enhance.Proofs.Text.Form

namespace Enhance

/-! ### The text of a time -/

namespace Timestamp

open Text

/-- The form of a time whose year has the form given. -/
def textForm (yearForm : List Char) : List Char :=
  ['D', 'D', '-', 'M', 'M', '-'] ++ (yearForm ++ [' ', 'H', 'H', ':', 'M', 'M'])

/-- The form of a time in a year from 0 to 9999. -/
def clockForm : List Char := textForm ['Y', 'Y', 'Y', 'Y']

/-- The form of a time in a year before the year 0. -/
def earlyForm : List Char := textForm ['-', 'Y', 'Y', 'Y', 'Y']

theorem hour_lt (t : Timestamp) : t.hour < 24 := by
  unfold hour secondOfDay
  omega

theorem minute_lt (t : Timestamp) : t.minute < 60 := by
  unfold minute
  omega

/-- All but the year need no more than two digits. -/
theorem lt_hundred (t : Timestamp) :
    t.date.day < 100 ∧ t.date.month < 100 ∧ t.hour < 100 ∧ t.minute < 100 := by
  have hreal : t.date.isReal = true := Date.isReal_ofDays _
  exact ⟨Nat.lt_of_le_of_lt (Date.day_le_of_isReal hreal) (by omega),
    Nat.lt_of_le_of_lt (Date.month_le_of_isReal hreal) (by omega),
    Nat.lt_trans (hour_lt t) (by omega), Nat.lt_trans (minute_lt t) (by omega)⟩

/-- Day, month, hour and minute always take up two digits, so the form of a
    time is decided by its year. -/
theorem fits_text {t : Timestamp} {yearForm : List Char}
    (hlen : (yearText t.date.year).toList.length = yearForm.length) :
    fits (textForm yearForm) t.text.toList = fits yearForm (yearText t.date.year).toList := by
  obtain ⟨hday, hmonth, hhour, hminute⟩ := lt_hundred t
  have hletters : ∀ f : Char, f = 'D' ∨ f = 'M' ∨ f = 'H' → f.isAlpha = true := by
    rintro f (rfl | rfl | rfl) <;> decide
  have htwo : ∀ (f : Char) (n : Nat), f = 'D' ∨ f = 'M' ∨ f = 'H' → n < 100 →
      (padded 2 n).toList.length = 2 ∧ fits [f, f] (padded 2 n).toList = true := by
    intro f n hf hn
    refine ⟨length_padded (by omega) hn, fits_padded rfl (fun g hg => ?_) (by omega) hn⟩
    have hgf : g = f := by simpa using hg
    rw [hgf]
    exact hletters f hf
  obtain ⟨hdlen, hd⟩ := htwo 'D' t.date.day (by simp) hday
  obtain ⟨hmlen, hm⟩ := htwo 'M' t.date.month (by simp) hmonth
  obtain ⟨hhlen, hh⟩ := htwo 'H' t.hour (by simp) hhour
  obtain ⟨hnlen, hn⟩ := htwo 'M' t.minute (by simp) hminute
  have htext : t.text.toList =
      (padded 2 t.date.day).toList ++ (['-'] ++ ((padded 2 t.date.month).toList ++ (['-'] ++
        ((yearText t.date.year).toList ++ ([' '] ++ ((padded 2 t.hour).toList ++ ([':'] ++
          (padded 2 t.minute).toList))))))) := by
    simp [text]
  have hform : textForm yearForm =
      ['D', 'D'] ++ (['-'] ++ (['M', 'M'] ++ (['-'] ++ (yearForm ++ ([' '] ++ (['H', 'H'] ++
        ([':'] ++ ['M', 'M']))))))) := by
    simp [textForm]
  rw [htext, hform, fits_append hdlen, hd, fits_append rfl, fits_append hmlen, hm,
    fits_append rfl, fits_append hlen, fits_append rfl, fits_append hhlen, hh, fits_append rfl, hn]
  simp [fits]

theorem fits_clockForm {t : Timestamp} (h0 : 0 ≤ t.date.year) (h : t.date.year ≤ 9999) :
    fits clockForm t.text.toList = true := by
  have hyear : yearText t.date.year = padded 4 t.date.year.natAbs := by
    rw [yearText, if_neg (by omega), String.empty_append]
  have hlt : t.date.year.natAbs < 10 ^ 4 := by omega
  rw [clockForm, fits_text, hyear]
  · exact fits_padded rfl (List.all_eq_true.mp (by decide)) (by omega) hlt
  · rw [hyear, length_padded (by omega) hlt]
    rfl

theorem fits_earlyForm {t : Timestamp} (h0 : t.date.year < 0) (h : -9999 ≤ t.date.year) :
    fits earlyForm t.text.toList = true := by
  have hlt : t.date.year.natAbs < 10 ^ 4 := by omega
  have hyear : (yearText t.date.year).toList =
      ['-'] ++ (padded 4 t.date.year.natAbs).toList := by
    rw [yearText, if_pos h0, String.toList_append]
    rfl
  have hlen : (padded 4 t.date.year.natAbs).toList.length = 4 := length_padded (by omega) hlt
  have hdigits : fits ['Y', 'Y', 'Y', 'Y'] (padded 4 t.date.year.natAbs).toList = true :=
    fits_padded rfl (List.all_eq_true.mp (by decide)) (by omega) hlt
  rw [earlyForm, fits_text, hyear]
  · show fits (['-'] ++ ['Y', 'Y', 'Y', 'Y']) _ = true
    rw [fits_append rfl, hdigits]
    rfl
  · rw [hyear, List.length_append, hlen]
    rfl

end Timestamp

/-- A time is shown as the clock at the offset shows it, unless that is outside
    the years of four digits. -/
theorem showTime_of_clock (t : Timestamp) (offset : Int) :
    showTime t offset =
      if -9999 ≤ ({ t with offset } : Timestamp).date.year ∧
          ({ t with offset } : Timestamp).date.year ≤ 9999 then
        .ok ({ t with offset } : Timestamp).text
      else .error .yearTooLong := by
  unfold showTime Timestamp.shift? Timestamp.isDisplayable
  by_cases hyear : -9999 ≤ ({ t with offset } : Timestamp).date.year ∧
      ({ t with offset } : Timestamp).date.year ≤ 9999
  · simp [hyear]
  · simp [hyear]

/-- A time that is shown takes up more room than any remark. -/
theorem length_of_showTime {t : Timestamp} {offset : Int} {text : String}
    (h : showTime t offset = .ok text) : 16 ≤ text.toList.length := by
  rw [showTime_of_clock] at h
  split at h
  · rename_i hyear
    cases h
    by_cases h0 : 0 ≤ ({ t with offset } : Timestamp).date.year
    · rw [Text.length_eq_of_fits (Timestamp.fits_clockForm h0 hyear.2)]
      decide
    · rw [Text.length_eq_of_fits (Timestamp.fits_earlyForm (Int.not_le.mp h0) hyear.1)]
      decide
  · cases h

/-! ### Which times are shown -/

theorem newestCommit_eq_ok {body : List UInt8} {t : Timestamp} (h : newestCommit body = .ok t) :
    ∃ date, readDate date = .ok t := by
  unfold newestCommit at h
  split at h
  · cases h
  · cases h
  · rename_i date rest hdates
    cases hdate : readDate date with
    | error fault =>
      rw [hdate] at h
      cases h
    | ok u =>
      rw [hdate] at h
      cases h
      exact ⟨date, hdate⟩

/-- A time that came out of a request was read off a text. -/
theorem classify_known {brought : Except FetchFault Reply} {t : Timestamp}
    (h : (classify brought).1 = .known t) : ∃ date, readDate date = .ok t := by
  cases brought with
  | error fault => cases h
  | ok reply =>
    rw [classify] at h
    by_cases hok : reply.ok = true
    · rw [if_pos hok] at h
      cases hnewest : newestCommit (Text.bytes reply.body) with
      | error fault =>
        rw [readNewest, hnewest] at h
        cases h
      | ok u =>
        rw [readNewest, hnewest] at h
        cases h
        exact newestCommit_eq_ok hnewest
    · rw [if_neg hok] at h
      cases h

theorem offsetOfMinutesBehind_le (minutes : Binary64) :
    -93599 ≤ offsetOfMinutesBehind minutes ∧ offsetOfMinutesBehind minutes ≤ 93599 := by
  unfold offsetOfMinutesBehind
  split
  · simp only
    split
    · rename_i h
      exact h
    · omega
  · omega

section Clock

variable {brought : Except FetchFault Reply} {t : Timestamp} {offset : Int}

/-- On any clock, a time that came out of a request is in a year that can be
    shown, or in a later one. -/
theorem le_year_of_known (h : (classify brought).1 = .known t)
    (ho : -93599 ≤ offset ∧ offset ≤ 93599) :
    -9999 ≤ ({ t with offset } : Timestamp).date.year := by
  obtain ⟨l, hl⟩ := classify_known h
  obtain ⟨⟨hlo, -⟩, hoff⟩ := readDate_range hl
  rw [Timestamp.le_year_iff]
  rw [Timestamp.yearStart_zero] at hlo
  have hearly : Timestamp.yearStart (-9999) = -377705116800 := by decide
  simp only [Timestamp.localSeconds] at hlo ⊢
  omega

/-- A time that came out of a request can be shown as long as the clock is not
    in the year 10000. -/
theorem showTime_eq (h : (classify brought).1 = .known t)
    (ho : -93599 ≤ offset ∧ offset ≤ 93599) :
    showTime t offset =
      if t.seconds + offset < Timestamp.yearStart 10000 then
        .ok ({ t with offset } : Timestamp).text
      else .error .yearTooLong := by
  have hlow := le_year_of_known h ho
  have hiff : ({ t with offset } : Timestamp).date.year < 10000 ↔
      t.seconds + offset < Timestamp.yearStart 10000 := Timestamp.year_lt_iff
  have hyears : (-9999 ≤ ({ t with offset } : Timestamp).date.year ∧
      ({ t with offset } : Timestamp).date.year ≤ 9999) ↔
      t.seconds + offset < Timestamp.yearStart 10000 := by
    rw [← hiff]
    omega
  rw [showTime_of_clock]
  exact if_congr hyears rfl rfl

end Clock

/-! ### One refresh -/

namespace CommitBench

theorem forM_say (l : List Log.Entry) (b : CommitBench) :
    l.forM port.say b = ((), { b with log := b.log ++ l }) := by
  induction l generalizing b with
  | nil =>
    rw [List.append_nil]
    rfl
  | cons e rest ih =>
    show rest.forM port.say (port.say e b).2 = _
    rw [ih]
    simp [port]

/-- A refresh asks once, and shows what the status reads as unless that breaks
    down. -/
theorem refresh_eq (b : CommitBench) (url : String) (offset : Int) :
    port.refresh url offset b =
      let asked := { b with
        requests := b.requests ++ [url], log := b.log ++ (classify b.reply).2 }
      match (classify b.reply).1.render offset with
      | .error overrun => (.error overrun, asked)
      | .ok text => (.ok (classify b.reply).1, { asked with texts := b.texts ++ [text] }) := by
  have hfetch : port.fetch url b = (b.reply, { b with requests := b.requests ++ [url] }) := rfl
  unfold CommitPort.refresh CommitPort.conclude
  rw [bind_apply, hfetch]
  simp only [bind_apply, forM_say]
  cases (classify b.reply).1.render offset <;> rfl

end CommitBench

/-- The texts that a refresh is meant to show. -/
def isRefreshText (text : String) : Prop :=
  text = "API unavailable" ∨ text = "Unable to fetch" ∨
    Text.fits Timestamp.clockForm text.toList = true

theorem length_le_of_isRefreshText {text : String} (h : isRefreshText text) :
    text.toList.length ≤ 16 := by
  rcases h with rfl | rfl | h
  · decide
  · decide
  · rw [Text.length_eq_of_fits h]
    decide

/-- A time that is shown takes up its form unless it is in a year before the
    year 0. -/
theorem isRefreshText_text_iff {brought : Except FetchFault Reply} {t : Timestamp} {offset : Int}
    (h : (classify brought).1 = .known t) (ho : -93599 ≤ offset ∧ offset ≤ 93599)
    (hlate : t.seconds + offset < Timestamp.yearStart 10000) :
    isRefreshText ({ t with offset } : Timestamp).text ↔
      Timestamp.yearStart 0 ≤ t.seconds + offset := by
  have hyear : ({ t with offset } : Timestamp).date.year < 10000 :=
    Timestamp.year_lt_iff.mpr hlate
  constructor
  · intro hgood
    -- the sign of a year before the year 0 would make the text too long
    apply Int.not_lt.mp
    intro hearly
    have hneg : ({ t with offset } : Timestamp).date.year < 0 := Timestamp.year_lt_iff.mpr hearly
    have hfits := Timestamp.fits_earlyForm hneg (le_year_of_known h ho)
    have hle := length_le_of_isRefreshText hgood
    rw [Text.length_eq_of_fits hfits] at hle
    exact absurd hle (by decide)
  · intro hearly
    have h0 : 0 ≤ ({ t with offset } : Timestamp).date.year := Timestamp.le_year_iff.mpr hearly
    exact .inr (.inr (Timestamp.fits_clockForm h0 (by omega)))

theorem fits_earlyForm_text_iff {brought : Except FetchFault Reply} {t : Timestamp} {offset : Int}
    (h : (classify brought).1 = .known t) (ho : -93599 ≤ offset ∧ offset ≤ 93599)
    (hlate : t.seconds + offset < Timestamp.yearStart 10000) :
    Text.fits Timestamp.earlyForm ({ t with offset } : Timestamp).text.toList = true ↔
      t.seconds + offset < Timestamp.yearStart 0 := by
  constructor
  · intro hfits
    apply Int.not_le.mp
    intro hearly
    have hgood := (isRefreshText_text_iff h ho hlate).mpr hearly
    have hle := length_le_of_isRefreshText hgood
    rw [Text.length_eq_of_fits hfits] at hle
    exact absurd hle (by decide)
  · intro hearly
    have hneg : ({ t with offset } : Timestamp).date.year < 0 := Timestamp.year_lt_iff.mpr hearly
    exact Timestamp.fits_earlyForm hneg (le_year_of_known h ho)

/-- The two ways in which a status is rendered, and what each says about the
    time. -/
theorem render_cases {brought : Except FetchFault Reply} {offset : Int}
    (ho : -93599 ≤ offset ∧ offset ≤ 93599) :
    (∃ t, (classify brought).1 = .known t ∧ Timestamp.yearStart 10000 ≤ t.seconds + offset ∧
      (classify brought).1.render offset = .error .yearTooLong) ∨
    (∃ text, (classify brought).1.render offset = .ok text ∧
      (∀ t, (classify brought).1 = .known t → t.seconds + offset < Timestamp.yearStart 10000) ∧
      (isRefreshText text ↔
        ∀ t, (classify brought).1 = .known t → Timestamp.yearStart 0 ≤ t.seconds + offset) ∧
      (Text.fits Timestamp.earlyForm text.toList = true ↔
        ∃ t, (classify brought).1 = .known t ∧
          t.seconds + offset < Timestamp.yearStart 0)) := by
  cases hs : (classify brought).1 with
  | unavailable =>
    refine .inr ⟨"API unavailable", rfl, ?_, ?_, ?_⟩
    · intro t ht
      cases ht
    · constructor
      · intro _ t ht
        cases ht
      · intro _
        exact .inl rfl
    · simp [Text.fits, Timestamp.earlyForm, Timestamp.textForm]
  | unreachable =>
    refine .inr ⟨"Unable to fetch", rfl, ?_, ?_, ?_⟩
    · intro t ht
      cases ht
    · constructor
      · intro _ t ht
        cases ht
      · intro _
        exact .inr (.inl rfl)
    · simp [Text.fits, Timestamp.earlyForm, Timestamp.textForm]
  | known t =>
    have hshow := showTime_eq hs ho
    by_cases hlate : t.seconds + offset < Timestamp.yearStart 10000
    · rw [if_pos hlate] at hshow
      refine .inr ⟨_, hshow, ?_, ?_, ?_⟩
      · intro u hu
        cases hu
        exact hlate
      · simpa using isRefreshText_text_iff hs ho hlate
      · simpa using fits_earlyForm_text_iff hs ho hlate
    · rw [if_neg hlate] at hshow
      exact .inl ⟨t, rfl, Int.not_lt.mp hlate, hshow⟩

/-- **When a refresh shows what it is meant to show.**  It always asks exactly
    once.  It breaks down, and shows nothing, exactly if the time is in the year
    10000 on the visitor's clock; else it shows one text.  The text is a fixed
    remark or a time of the form `DD-MM-YYYY HH:MM` exactly if the time, where
    there is one, is in a year from 0 to 9999 on the visitor's clock; before
    that the year is written with a sign. -/
theorem refresh_shown_iff (reply : Except FetchFault Reply) (url : String) (minutes : Binary64) :
    let offset := offsetOfMinutesBehind minutes
    let status := (classify reply).1
    let result := CommitBench.port.refresh url offset { reply }
    result.2.requests = [url] ∧
    (result.1 = .error .yearTooLong ∧ result.2.texts = [] ↔
      ∃ t, status = .known t ∧ Timestamp.yearStart 10000 ≤ t.seconds + offset) ∧
    (result.1 = .ok status ∧ (∃ text, result.2.texts = [text]) ↔
      ∀ t, status = .known t → t.seconds + offset < Timestamp.yearStart 10000) ∧
    ((∃ text, result.2.texts = [text] ∧ isRefreshText text) ↔
      ∀ t, status = .known t →
        Timestamp.yearStart 0 ≤ t.seconds + offset ∧
          t.seconds + offset < Timestamp.yearStart 10000) ∧
    ((∃ text, result.2.texts = [text] ∧ Text.fits Timestamp.earlyForm text.toList = true) ↔
      ∃ t, status = .known t ∧ t.seconds + offset < Timestamp.yearStart 0) := by
  intro offset status result
  have ho : -93599 ≤ offset ∧ offset ≤ 93599 := offsetOfMinutesBehind_le minutes
  have hresult : result = CommitBench.port.refresh url offset { reply } := rfl
  rw [CommitBench.refresh_eq] at hresult
  have hends : Timestamp.yearStart 0 ≤ Timestamp.yearStart 10000 := by
    rw [Timestamp.yearStart_zero, Timestamp.yearStart_tenThousand]
    decide
  rcases render_cases ho with ⟨t, hknown, hlate, hrender⟩ | ⟨text, hrender, hlate, hgood, hearly⟩
  · -- the year 10000: nothing is shown
    have hstatus : ∀ u, status = .known u → u = t := by
      intro u hu
      exact (CommitStatus.known.inj (hknown.symm.trans hu)).symm
    simp only [hrender] at hresult
    rw [hresult]
    refine ⟨rfl, ?_, ?_, ?_, ?_⟩
    · exact ⟨fun _ => ⟨t, hknown, hlate⟩, fun _ => ⟨rfl, rfl⟩⟩
    · constructor
      · intro h
        cases h.1
      · intro h
        exact absurd (h t hknown) (Int.not_lt.mpr hlate)
    · constructor
      · rintro ⟨_, h, _⟩
        cases h
      · intro h
        exact absurd (h t hknown).2 (Int.not_lt.mpr hlate)
    · constructor
      · rintro ⟨_, h, _⟩
        cases h
      · rintro ⟨u, hu, h⟩
        rw [hstatus u hu] at h
        exact absurd (Int.lt_of_lt_of_le h hends) (Int.not_lt.mpr hlate)
  · simp only [hrender] at hresult
    rw [hresult]
    refine ⟨rfl, ?_, ?_, ?_, ?_⟩
    · constructor
      · intro h
        cases h.1
      · rintro ⟨t, ht, h⟩
        exact absurd (hlate t ht) (Int.not_lt.mpr h)
    · exact ⟨fun _ => hlate, fun _ => ⟨rfl, text, rfl⟩⟩
    · constructor
      · rintro ⟨_, hshown, h⟩ t ht
        cases hshown
        exact ⟨hgood.mp h t ht, hlate t ht⟩
      · intro h
        exact ⟨text, rfl, hgood.mpr fun t ht => (h t ht).1⟩
    · constructor
      · rintro ⟨_, hshown, h⟩
        cases hshown
        exact hearly.mp h
      · intro h
        exact ⟨text, rfl, hearly.mpr h⟩

/-- Half an hour before the year 10000 in UTC, on a clock an hour to the east. -/
theorem refresh_breaks_down :
    let reply : Except FetchFault Reply := .ok ⟨200,
      "[\x7b\"commit\":\x7b\"author\":\x7b\"date\":\"9999-12-31T23:30:00Z\"\x7d\x7d\x7d]"⟩
    let result := CommitBench.port.refresh "u" (offsetOfMinutesBehind (.ofInt (-60))) { reply }
    result.1 = .error .yearTooLong ∧ result.2.texts = [] := by
  intro reply result
  have hoffset : offsetOfMinutesBehind (.ofInt (-60)) = 3600 := by decide +kernel
  have hknown : (classify reply).1 = .known ⟨253402299000, 0, 0⟩ := by decide +kernel
  have hrender : (classify reply).1.render 3600 = .error .yearTooLong := by
    rw [hknown, CommitStatus.render, showTime_eq hknown (by decide), if_neg (by decide)]
  have hresult : result = CommitBench.port.refresh "u" 3600 { reply } := by rw [← hoffset]
  rw [CommitBench.refresh_eq] at hresult
  simp only [hrender] at hresult
  rw [hresult]
  exact ⟨rfl, rfl⟩

end Enhance
