/-
  Enhance/Log.lean
  ================
  **The log** — what the enhancements tell the console.

  A message carries one of five levels.  The levels are ordered from the most
  urgent to the most talkative, so that a limit keeps every message at most as
  talkative as itself (`Level.within`).
-/

namespace Enhance.Log

/-- How urgent a message is. -/
inductive Level where
  | error | warn | info | debug | trace
deriving DecidableEq, Inhabited

namespace Level

/-- Place in the order from urgent to talkative. -/
def rank : Level → Nat
  | error => 0
  | warn => 1
  | info => 2
  | debug => 3
  | trace => 4

def name : Level → String
  | error => "ERROR"
  | warn => "WARN"
  | info => "INFO"
  | debug => "DEBUG"
  | trace => "TRACE"

/-- Every level, most urgent first. -/
def all : List Level := [error, warn, info, debug, trace]

/-- Whether a message of this level passes a limit. -/
def within (l limit : Level) : Bool := l.rank ≤ limit.rank

/-- Reads a level's name, in either ASCII case. -/
def ofText? (s : String) : Option Level :=
  all.find? fun l => s.toList.map Char.toUpper = l.name.toList

theorem within_self (l : Level) : l.within l = true := by cases l <;> rfl

/-- Each name reads back as its level. -/
theorem ofText?_name (l : Level) : ofText? l.name = some l := by cases l <;> decide

end Level

structure Entry where
  level : Level
  text : String
deriving DecidableEq, Inhabited

/-- Messages that report a failure: warnings and errors. -/
def Entry.isAlarm (e : Entry) : Bool := e.level.within .warn

end Enhance.Log
