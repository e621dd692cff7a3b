/-
  Enhance/Proofs/Commit/Shown.lean
  ================================
  **From a list of commits to the time on the page.**

  However a list of commits is written, the date of its first entry is read as
  it is meant; and whatever offset it was written with, the page shows the same
  instant on the visitor's clock (`refresh_writtenDate`).  On that clock the
  seconds are those of the written clock less its own offset and the minutes
  that the visitor is behind UTC, and a second stands for one reading only.
-/
import Enhance.Proofs.Commit.Refresh
import Enhance.Proofs.Commit.WrittenDate
import Enhance.Proofs.Number.Whole
import Enhance.Proofs.Payload.Shape

namespace Enhance

open Payload Text

/-! ### Written lists of commits -/

/-- An entry of a list of commits, as written. -/
abbrev EntryText :=
  RecordText entryShape (RecordText commitShape (RecordText authorShape StringText))

namespace EntryText

def chars (e : EntryText) : List Char :=
  RecordText.chars (RecordText.chars (RecordText.chars StringText.chars)) e

/-- The date that the entry's author has. -/
def date (e : EntryText) : List Char := e.field.field.field.means

end EntryText

/-- A list of commits with blanks around it, as written. -/
abbrev CommitListText := DocumentText (ListText EntryText)

namespace CommitListText

def chars (t : CommitListText) : List Char := DocumentText.chars (ListText.chars EntryText.chars) t

def dates (t : CommitListText) : List (List Char) := t.value.items.map fun item => item.2.date

end CommitListText

theorem takes_entryDate (e : EntryText) : entryDate.Takes e.chars (encode e.date) :=
  Reader.takes_recordValue (Reader.takes_recordValue (Reader.takes_recordValue
    (Reader.takes_textValue e.field.field.field)))

/-- The dates of a written list are read as they are meant. -/
theorem commitDates_encode (t : CommitListText) :
    commitDates (encode t.chars) = .ok (t.dates.map encode) := by
  have hlist : (Reader.listValue entryDate).Takes (ListText.chars EntryText.chars t.value)
      (t.value.items.map fun item => encode item.2.date) :=
    Reader.takes_listValue (fun e => encode e.date) fun item _ => takes_entryDate item.2
  have hdocument := Reader.document_apply (t := t) hlist
  rw [commitDates, CommitListText.chars, hdocument, CommitListText.dates, List.map_map]
  rfl

theorem newestCommit_encode {t : CommitListText} {w : WrittenDate}
    (h : t.dates.head? = some w.chars) : newestCommit (encode t.chars) = .ok w.timestamp := by
  obtain ⟨rest, hdates⟩ : ∃ rest, t.dates = w.chars :: rest := List.head?_eq_some_iff.mp h
  rw [newestCommit, commitDates_encode, hdates, List.map_cons]
  simp only [readDate_encode]

/-- A success with a written list tells the time of its first entry. -/
theorem classify_writtenDate {t : CommitListText} {w : WrittenDate}
    (h : t.dates.head? = some w.chars) {status : UInt16} (hstatus : 200 ≤ status ∧ status < 300) :
    classify (.ok ⟨status, String.ofList t.chars⟩) = (.known w.timestamp, []) := by
  have hok : (⟨status, String.ofList t.chars⟩ : Reply).ok = true := by
    simp [Reply.ok, hstatus]
  rw [classify, if_pos hok, readNewest]
  simp only [bytes_ofList, newestCommit_encode h]

/-! ### The visitor's clock -/

/-- A whole number of minutes, no more than 1559, is taken at its word. -/
theorem offsetOfMinutesBehind_ofInt {m : Int} (hm : -1559 ≤ m ∧ m ≤ 1559) :
    offsetOfMinutesBehind (.ofInt m) = -60 * m := by
  have hminutes : (Binary64.ofInt m).IsWhole (decide (m < 0)) m.natAbs :=
    Binary64.isWhole_ofInt (by omega)
  have hsixty : (Binary64.ofInt 60).IsWhole false 60 := Binary64.isWhole_ofInt (by decide)
  have hproduct := hminutes.neg.mul hsixty (by omega)
  have hround : ((Binary64.ofInt m).neg.mul (.ofInt 60)).round = -60 * m := by
    rw [hproduct.round]
    by_cases hneg : m < 0
    · have heast : ((!decide (m < 0)) != false) = false := by simp [hneg]
      rw [heast, if_neg Bool.false_ne_true]
      omega
    · have hwest : ((!decide (m < 0)) != false) = true := by simp [hneg]
      rw [hwest, if_pos rfl]
      omega
  have hbounds : -greatestOffset ≤ -60 * m ∧ -60 * m ≤ greatestOffset := by
    unfold greatestOffset
    omega
  rw [offsetOfMinutesBehind, if_pos hminutes.finite, hround]
  exact if_pos hbounds

namespace Timestamp

theorem text_reading {t : Timestamp} (h : 0 ≤ t.date.year) : t.text = t.reading.text := by
  have hyear : yearText t.date.year = padded 4 t.date.year.toNat := by
    rw [yearText, if_neg (Int.not_lt.mpr h), String.empty_append]
    congr 1
    omega
  rw [text, hyear]
  rfl

end Timestamp

/-- A time is shown as the reading of the clock at the offset, in a year of four
    digits. -/
theorem showTime_reading {t : Timestamp} {offset : Int} {r : ClockReading}
    (h : t.seconds + offset = r.seconds) (hyear : 0 ≤ r.date.year ∧ r.date.year ≤ 9999) :
    showTime t offset = .ok r.text := by
  have hreading : ({ t with offset } : Timestamp).reading = r := Timestamp.reading_eq h
  have hdate : ({ t with offset } : Timestamp).date.year = r.date.year := by rw [← hreading]; rfl
  have hyears : -9999 ≤ ({ t with offset } : Timestamp).date.year ∧
      ({ t with offset } : Timestamp).date.year ≤ 9999 := by
    rw [hdate]
    omega
  rw [showTime_of_clock, if_pos hyears, Timestamp.text_reading (hdate ▸ hyear.1), hreading]

/-- **From the payload to the page.**  Let a success bring a list of commits,
    written in any way, whose first entry has a written date; and let the
    visitor's clock be `m` minutes behind UTC.  Then the time is known, with the
    reading, the fraction and the offset that were written.  The page shows the
    reading that is less by the written offset and by `m` minutes, if its year
    has four digits. -/
theorem refresh_writtenDate (w : WrittenDate) (t : CommitListText)
    (first : t.dates.head? = some w.chars) (status : UInt16)
    (success : 200 ≤ status ∧ status < 300) (url : String) (m : Int)
    (zone : -1559 ≤ m ∧ m ≤ 1559) :
    let reply : Except FetchFault Reply := .ok ⟨status, String.ofList t.chars⟩
    let result := CommitBench.port.refresh url (offsetOfMinutesBehind (.ofInt m)) { reply }
    ∃ (known : Timestamp) (shown : ClockReading),
      ((classify reply).1 = .known known ∧ known.reading = w.reading ∧
        known.nanosecond = w.nanosecond ∧ known.offset = w.offset.seconds) ∧
      shown.seconds = w.reading.seconds - w.offset.seconds - 60 * m ∧
      (0 ≤ shown.date.year ∧ shown.date.year ≤ 9999 →
        result.1 = .ok (.known known) ∧ result.2.texts = [shown.text]) := by
  intro reply result
  have hclassify : classify reply = (.known w.timestamp, []) := classify_writtenDate first success
  obtain ⟨shown, hshown⟩ :=
    ClockReading.seconds_surjective (w.reading.seconds - w.offset.seconds - 60 * m)
  refine ⟨w.timestamp, shown, ⟨?_, w.reading_timestamp, rfl, rfl⟩, hshown, ?_⟩
  · rw [hclassify]
  · intro hyear
    have hseconds : w.timestamp.seconds + -60 * m = shown.seconds := by
      show w.reading.seconds - w.offset.seconds + -60 * m = shown.seconds
      omega
    have hrender : (CommitStatus.known w.timestamp).render (-60 * m) = .ok shown.text :=
      showTime_reading hseconds hyear
    have hresult : result = CommitBench.port.refresh url (-60 * m) { reply } :=
      congrArg (fun offset => CommitBench.port.refresh url offset { reply })
        (offsetOfMinutesBehind_ofInt zone)
    rw [CommitBench.refresh_eq] at hresult
    simp only [hclassify, hrender] at hresult
    rw [hresult]
    exact ⟨rfl, rfl⟩

/-- The evening of a leap day, five and a half hours behind UTC. -/
def leapDay : WrittenDate where
  reading := ⟨⟨2024, 2, 29⟩, by decide, 23, 30, 15⟩
  year_mem := by decide
  separator := 'T'
  ascii := by decide
  fraction := some ⟨['5'], by decide, List.all_eq_true.mp (by decide)⟩
  offset := .clock true 5 30

/-- A list of one commit, which has the leap day for its date. -/
def leapDayList : CommitListText where
  front := []
  value := {
    items := [(⟨[], []⟩, .object
      [(⟨[], []⟩, ⟨.plain ['s', 'h', 'a'] (by decide), by decide, ⟨[], [.space]⟩, .scalar .null⟩)]
      ⟨[], [.space]⟩ (.plain "commit".toList (by decide)) (by decide) ⟨[], [.space]⟩
      (.object [] ⟨[], []⟩ (.plain "author".toList (by decide)) (by decide) ⟨[], [.space]⟩
        (.object [] ⟨[], []⟩ (.plain "date".toList (by decide)) (by decide) ⟨[], [.space]⟩
          (.plain leapDay.chars (by decide)) [] []) [] []) [] [])]
    close := [] }
  back := [.lineFeed]

theorem refresh_writtenDate_leap_day :
    let body := "[\x7b\"sha\": null, \"commit\": \x7b\"author\": \x7b\"date\": " ++
      "\"2024-02-29T23:30:15.5-05:30\"\x7d\x7d\x7d]\n"
    let result := CommitBench.port.refresh "u" (offsetOfMinutesBehind (.ofInt (-60)))
      { reply := .ok ⟨200, body⟩ }
    leapDayList.dates.head? = some leapDay.chars ∧ String.ofList leapDayList.chars = body ∧
      result.2.texts = ["01-03-2024 06:00"] := by
  intro body result
  have hfirst : leapDayList.dates.head? = some leapDay.chars :=
    congrArg some (StringText.means_plain leapDay.chars (by decide))
  have hbody : String.ofList leapDayList.chars = body := by decide +kernel
  refine ⟨hfirst, hbody, ?_⟩
  obtain ⟨known, shown, -, hshown, hpage⟩ :=
    refresh_writtenDate leapDay leapDayList hfirst 200 (by decide) "u" (-60) (by decide)
  -- the early morning after, an hour ahead of UTC
  have hreading : shown = ⟨⟨2024, 3, 1⟩, by decide, 6, 0, 15⟩ :=
    ClockReading.seconds_injective (hshown.trans (by decide))
  subst hreading
  rw [hbody] at hpage
  exact (hpage (by decide)).2

end Enhance
