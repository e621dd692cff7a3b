/-
  Enhance/Proofs/Commit/FirstEntry.lean
  =====================================
  **A list of commits tells the date of its first entry, and nothing else.**

  However a list is written and whatever else its entries hold, the outcome is
  what the first entry's date is read as.  The later entries have no say in it
  except that each must have the shape of an entry: a flaw in any one of them,
  first or last, spoils the whole list, and so does having no entry
  (`readNewest_list`).
-/
import Enhance.Proofs.Commit.Shown
import Enhance.Proofs.Payload.Flawed

namespace Enhance

open Payload Text

/-! ### Flawed lists of commits -/

/-- An author without one proper date, as written up to the flaw. -/
abbrev FlawedAuthorText := FlawedText authorShape StringText NoStringText

/-- A commit without one proper author. -/
abbrev FlawedCommitText := FlawedText commitShape (RecordText authorShape StringText)
  FlawedAuthorText

/-- An entry without one proper commit. -/
abbrev FlawedEntryText := FlawedText entryShape
  (RecordText commitShape (RecordText authorShape StringText)) FlawedCommitText

def FlawedEntryText.chars (e : FlawedEntryText) : List Char :=
  FlawedText.chars (RecordText.chars (RecordText.chars StringText.chars))
    (FlawedText.chars (RecordText.chars StringText.chars)
      (FlawedText.chars StringText.chars NoStringText.chars)) e

/-- A list of commits with blanks before it, as written up to the flaw. -/
structure FlawedCommitListText where
  front : List Blank
  list : FlawedListText EntryText FlawedEntryText

def FlawedCommitListText.chars (t : FlawedCommitListText) : List Char :=
  blanks t.front ++ t.list.chars EntryText.chars FlawedEntryText.chars

theorem refuses_entryDate (e : FlawedEntryText) : entryDate.Refuses e.chars :=
  Reader.refuses_recordValue
    (fun a => Reader.takes_recordValue (Reader.takes_recordValue
      (Reader.takes_textValue a.field.field)))
    (fun b => Reader.refuses_recordValue
      (fun a => Reader.takes_recordValue (Reader.takes_textValue a.field))
      (fun b => Reader.refuses_recordValue Reader.takes_textValue Reader.refuses_textValue b) b) e

/-- A flawed list is not read, however it goes on behind the flaw. -/
theorem commitDates_flawed (t : FlawedCommitListText) (behind : List UInt8) :
    ∃ fault, commitDates (encode t.chars ++ behind) = .error fault := by
  have hlist : (Reader.listValue entryDate).Refuses
      (t.list.chars EntryText.chars FlawedEntryText.chars) :=
    Reader.refuses_listValue takes_entryDate refuses_entryDate t.list
  rw [FlawedCommitListText.chars, encode_append, List.append_assoc]
  exact (hlist.fails t.front behind).document

/-! ### What a list tells -/

theorem newestCommit_list (t : CommitListText) : newestCommit (encode t.chars) =
    match t.dates with
    | [] => .error .noCommits
    | first :: _ => (readDate (encode first)).mapError .badDate := by
  rw [newestCommit, commitDates_encode]
  cases t.dates with
  | nil => rfl
  | cons first later =>
    simp only [List.map_cons]
    cases readDate (encode first) <;> rfl

theorem newestCommit_flawed (t : FlawedCommitListText) (behind : List UInt8) :
    ∃ fault, newestCommit (encode t.chars ++ behind) = .error fault := by
  obtain ⟨fault, hfault⟩ := commitDates_flawed t behind
  refine ⟨.unreadable fault, ?_⟩
  rw [newestCommit, hfault]

/-- Whatever is wrong with the newest commit is a fault of the payload. -/
theorem readNewest_eq (body : String) : readNewest body =
    (newestCommit (bytes body)).mapError fun fault => .payload (fault.message (bytes body)) := by
  unfold readNewest
  simp only []
  cases newestCommit (bytes body) <;> rfl

/-- **The first entry's date decides.**  A list of commits, written in any way
    and with any other members at any depth, is read as its first entry's date
    is, whatever the later dates are, and a date that cannot be read is told as a
    fault of the payload.  So is a list without entries, and every text that
    begins like a list but comes to an entry in which commit, author or date is
    missing, comes twice, or is of another kind. -/
theorem readNewest_list :
    (∀ t : CommitListText, readNewest (String.ofList t.chars) =
      match t.dates with
      | [] => .error (.payload "no commits")
      | first :: _ => (readDate (encode first)).mapError fun fault => .payload fault.message) ∧
    ∀ (t : FlawedCommitListText) (behind : List Char),
      ∃ reason, readNewest (String.ofList (t.chars ++ behind)) = .error (.payload reason) := by
  constructor
  · intro t
    rw [readNewest_eq, bytes_ofList, newestCommit_list]
    cases t.dates with
    | nil => rfl
    | cons first later =>
      simp only []
      cases readDate (encode first) <;> rfl
  · intro t behind
    obtain ⟨fault, hfault⟩ := newestCommit_flawed t (encode behind)
    rw [readNewest_eq, bytes_ofList, encode_append, hfault]
    exact ⟨_, rfl⟩

theorem all_isPlain_commit : "commit".toList.all isPlain = true := by decide

theorem all_isPlain_author : "author".toList.all isPlain = true := by decide

/-- The list of the leap day, and behind it an entry whose author is null. -/
def nullAuthorList : FlawedCommitListText where
  front := []
  list := {
    earlier := leapDayList.value.items
    gap := ⟨[], [.space]⟩
    item := .within {
      earlier := []
      gap := ⟨[], []⟩
      name := .plain "commit".toList all_isPlain_commit
      named := StringText.means_plain _ _
      colon := ⟨[], [.space]⟩
      value := .within {
        earlier := []
        gap := ⟨[], []⟩
        name := .plain "author".toList all_isPlain_author
        named := StringText.means_plain _ _
        colon := ⟨[], [.space]⟩
        value := .scalar .null } } }

/-- The entry of the leap day tells its time alone, and nothing with the other
    entry behind it. -/
theorem readNewest_list_null_author :
    let entry := "\x7b\"sha\": null, \"commit\": \x7b\"author\": \x7b\"date\": " ++
      "\"2024-02-29T23:30:15.5-05:30\"\x7d\x7d\x7d"
    readNewest ("[" ++ entry ++ "]\n") = .ok leapDay.timestamp ∧
      ∃ reason, readNewest ("[" ++ entry ++ ", \x7b\"commit\": \x7b\"author\": null\x7d\x7d]") =
        .error (.payload reason) := by
  intro entry
  have halone : String.ofList leapDayList.chars = "[" ++ entry ++ "]\n" := by decide +kernel
  have hspoilt : String.ofList (nullAuthorList.chars ++ ['\x7d', '\x7d', ']']) =
      "[" ++ entry ++ ", \x7b\"commit\": \x7b\"author\": null\x7d\x7d]" := by
    decide +kernel
  have hdates : leapDayList.dates = [leapDay.chars] :=
    congrArg (fun date => [date]) (StringText.means_plain leapDay.chars (by decide))
  have hread := readNewest_list.1 leapDayList
  rw [hdates, halone] at hread
  refine ⟨?_, ?_⟩
  · rw [hread]
    simp only [readDate_encode]
    rfl
  · rw [← hspoilt]
    exact readNewest_list.2 nullAuthorList _

end Enhance
