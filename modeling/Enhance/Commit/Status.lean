/-
  Enhance/Commit/Status.lean
  ==========================
  **What the page says about the newest commit.**

  A request either fails or brings a reply, and what went wrong first decides
  what is shown: nothing useful came (`unreachable`), or an answer that is no
  success (`unavailable`), or a success whose body tells the time (`known`).
  Only the last can fail to be shown, when the visitor's clock would need a
  year of five digits (`Overrun`).
-/
import Enhance.Commit.Newest
import Enhance.Log
import Enhance.Number.Binary64
import Enhance.Settings.Basic

namespace Enhance

/-! ### Replies -/

structure Reply where
  status : UInt16
  body : String
deriving DecidableEq, Inhabited

def Reply.ok (r : Reply) : Bool := 200 ≤ r.status && r.status < 300

/-- Why a request brought nothing useful. -/
inductive FetchFault where
  | request (reason : String)
  | body (reason : String)
  | payload (reason : String)
deriving DecidableEq

def FetchFault.message : FetchFault → String
  | request reason => "request failed: " ++ reason
  | body reason => "response body unreadable: " ++ reason
  | payload reason => "unexpected payload: " ++ reason

def readNewest (body : String) : Except FetchFault Timestamp :=
  let bytes := Text.bytes body
  match newestCommit bytes with
  | .ok t => .ok t
  | .error fault => .error (.payload (fault.message bytes))

/-! ### Where to ask -/

/-- The address that lists the newest commit of a repository. -/
def commitsUrl (apiBase repo : String) : String :=
  String.ofList (apiBase.toList.reverse.dropWhile (· == '/')).reverse ++ "/repos/" ++ repo ++
    "/commits?per_page=1"

/-- Why nothing is asked. -/
inductive CommitSkip where
  /-- No repository is set. -/
  | noRepo
  /-- There is no element to show the answer. -/
  | noElement (id : String)
deriving DecidableEq

def CommitSkip.message : CommitSkip → String
  | noRepo => "no commit repo configured; last-updated skipped"
  | noElement id => "#" ++ id ++ " not found; last-updated skipped"

/-- The address to ask, or the reason to ask none. -/
def lastUpdatedUrl (c : CommitSettings) (elementPresent : Bool) : Except CommitSkip String :=
  match c.repo with
  | none => .error .noRepo
  | some repo =>
    if elementPresent then .ok (commitsUrl c.apiBase repo) else .error (.noElement c.elementId)

/-! ### The status -/

/-- What became of a request. -/
inductive CommitStatus where
  | known (t : Timestamp)
  | unavailable
  | unreachable
deriving DecidableEq

/-- Judges what a request brought, with a warning unless it is a time. -/
def classify : Except FetchFault Reply → CommitStatus × List Log.Entry
  | .error fault => (.unreachable, [⟨.warn, "last commit fetch failed: " ++ fault.message⟩])
  | .ok reply =>
    if reply.ok then
      match readNewest reply.body with
      | .ok t => (.known t, [])
      | .error fault => (.unreachable, [⟨.warn, "last commit fetch: " ++ fault.message⟩])
    else
      (.unavailable,
        [⟨.warn, "last commit fetch returned status " ++ toString reply.status.toNat⟩])

/-- The visitor's clock has no four-digit year for the instant. -/
inductive Overrun where
  | yearTooLong
deriving DecidableEq, Inhabited

def Overrun.message : Overrun → String
  | yearTooLong => "local datetime out of valid range"

/-- A time on the clock at an offset, to the minute. -/
def showTime (t : Timestamp) (offset : Int) : Except Overrun String :=
  match t.shift? offset with
  | some moved => .ok moved.text
  | none => .error .yearTooLong

namespace CommitStatus

def render (offset : Int) : CommitStatus → Except Overrun String
  | known t => showTime t offset
  | unavailable => .ok "API unavailable"
  | unreachable => .ok "Unable to fetch"

/-- Name and time, for the log. -/
def logText : CommitStatus → String
  | known t => "Success(" ++ t.fullText ++ ")"
  | unavailable => "Unavailable"
  | unreachable => "NetworkError"

end CommitStatus

/-! ### The visitor's offset -/

/-- The greatest offset of a clock from UTC, in seconds. -/
def greatestOffset : Int := 93599

/-- The offset, in seconds to the east, of a clock that is `minutes` behind
    UTC: rounded to a whole second, a half away from zero.  A clock that is no
    number of minutes behind, or more than any clock, counts as UTC. -/
def offsetOfMinutesBehind (minutes : Binary64) : Int :=
  if minutes.isFinite then
    let seconds := (minutes.neg.mul (.ofInt 60)).round
    if -greatestOffset ≤ seconds ∧ seconds ≤ greatestOffset then seconds else 0
  else 0

/-! ### Asking once and showing the outcome -/

/-- What a refresh needs of its surroundings `ω`. -/
structure CommitPort (ω : Type) where
  /-- Asks an address. -/
  fetch : String → StateM ω (Except FetchFault Reply)
  /-- Shows a text. -/
  setText : String → StateM ω Unit
  /-- Adds a message to the log. -/
  say : Log.Entry → StateM ω Unit

namespace CommitPort

variable {ω : Type}

/-- Judges what a request brought and shows it. -/
def conclude (p : CommitPort ω) (offset : Int) (brought : Except FetchFault Reply) :
    StateM ω (Except Overrun CommitStatus) := do
  let (status, messages) := classify brought
  messages.forM p.say
  match status.render offset with
  | .error overrun => return .error overrun
  | .ok text =>
    p.setText text
    return .ok status

/-- Asks once, judges, and shows. -/
def refresh (p : CommitPort ω) (url : String) (offset : Int) :
    StateM ω (Except Overrun CommitStatus) := do
  p.conclude offset (← p.fetch url)

end CommitPort

/-! ### A bench for a refresh -/

/-- One reply for every request, and what was asked, shown and logged. -/
structure CommitBench where
  reply : Except FetchFault Reply
  requests : List String := []
  texts : List String := []
  log : List Log.Entry := []

def CommitBench.port : CommitPort CommitBench where
  fetch url := modifyGet fun b => (b.reply, { b with requests := b.requests ++ [url] })
  setText text := modify fun b => { b with texts := b.texts ++ [text] }
  say e := modify fun b => { b with log := b.log ++ [e] }

end Enhance
