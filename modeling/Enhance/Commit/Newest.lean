/-
  Enhance/Commit/Newest.lean
  ==========================
  **The time of the newest commit in a list of commits.**

  The list has the newest commit first.  Every entry must have the shape of a
  commit, but only the first one's date is read as a date.
-/
import Enhance.Commit.DateText
import Enhance.Payload.Shape

namespace Enhance

open Payload

/-! ### The shape of the list -/

def entryShape : RecordShape := ⟨"struct CommitEntry", "commit"⟩

def commitShape : RecordShape := ⟨"struct CommitDetail", "author"⟩

def authorShape : RecordShape := ⟨"struct CommitSignature", "date"⟩

def entryDate : Reader (List UInt8) :=
  .recordValue entryShape (.recordValue commitShape (.recordValue authorShape .textValue))

def commitDates (body : List UInt8) : Except Fault (List (List UInt8)) :=
  (Reader.document (Reader.listValue entryDate) body).1

/-! ### The newest commit -/

/-- Why a body tells no time. -/
inductive NewestFault where
  /-- It is not a list of commits. -/
  | unreadable (fault : Fault)
  /-- The list is empty. -/
  | noCommits
  /-- The first date is no date. -/
  | badDate (fault : DateFault)
deriving DecidableEq

def NewestFault.message (body : List UInt8) : NewestFault → String
  | unreadable fault => fault.message body
  | noCommits => "no commits"
  | badDate fault => fault.message

/-- The time of the first commit in a list of commits. -/
def newestCommit (body : List UInt8) : Except NewestFault Timestamp :=
  match commitDates body with
  | .error fault => .error (.unreadable fault)
  | .ok [] => .error .noCommits
  | .ok (date :: _) =>
    match readDate date with
    | .error fault => .error (.badDate fault)
    | .ok t => .ok t

end Enhance
