/-
  Enhance/Settings/Attribute.lean
  ===============================
  **Settings from the attributes of the body.**

  Eight attributes are recognised, and each governs one setting.  They are
  looked at one after the other (`Attribute.all`): a blank value counts as
  none, and a value that does not read as what the setting needs leaves the
  setting as it was and is reported.  No attribute has a say in another one's
  setting, so one bad value costs no more than its own.
-/
import Enhance.Number.Decimal
import Enhance.Settings.Basic
import Enhance.Text.Blank
import Enhance.Text.Pieces

namespace Enhance

/-! ### The attributes -/

inductive Attribute where
  | defaultTheme | themeKey | backToTopOffset | revealStep | typingDelay | themeShortcut
  | commitRepo | logLevel
deriving DecidableEq

namespace Attribute

/-- Every recognised attribute, in the order in which they are looked at. -/
def all : List Attribute :=
  [defaultTheme, themeKey, backToTopOffset, revealStep, typingDelay, themeShortcut, commitRepo,
    logLevel]

def name : Attribute → String
  | defaultTheme => "data-default-theme"
  | themeKey => "data-theme-key"
  | backToTopOffset => "data-back-to-top-offset"
  | revealStep => "data-reveal-step"
  | typingDelay => "data-typing-delay"
  | themeShortcut => "data-theme-shortcut"
  | commitRepo => "data-commit-repo"
  | logLevel => "data-log-level"

theorem mem_all (a : Attribute) : a ∈ all := by cases a <;> decide

end Attribute

/-! ### What a value can be refused for -/

/-- Why a value does not fit its setting. -/
inductive Misfit where
  | theme (value : String)
  | number (value : String)
  | shortcut (fault : ChordFault)
  | repo (value : String)
  | logLevel (value : String)
deriving DecidableEq

def Misfit.message : Misfit → String
  | theme value => Text.quote value ++ " is not \"light\" or \"dark\""
  | number value => Text.quote value ++ " is not a non-negative number"
  | shortcut fault => fault.message
  | repo value => Text.quote value ++ " is not owner/name"
  | logLevel value => Text.quote value ++ " is not a log level"

/-- An attribute whose value was refused. -/
structure Rejection where
  subject : Attribute
  misfit : Misfit
deriving DecidableEq

def Rejection.message (r : Rejection) : String :=
  "invalid " ++ r.subject.name ++ ": " ++ r.misfit.message

/-! ### Reading a value -/

/-- A character that may stand in the name of an owner or a repository. -/
def isRepoChar (c : Char) : Bool := c.isAlphanum || c == '-' || c == '_' || c == '.'

/-- Whether a text is an owner and a name, neither empty, with one slash
    between them. -/
def isRepo (s : String) : Bool :=
  match Text.pieces (· == '/') s.toList with
  | [owner, name] =>
    decide (owner ≠ []) && owner.all isRepoChar && (decide (name ≠ []) && name.all isRepoChar)
  | _ => false

/-- Reads an offset in pixels: a finite measure that is not negative. -/
def readOffset? (s : String) : Option Binary64 :=
  (readMeasure? s).filter fun x => x.isFinite && x.isNonneg

namespace Attribute

/-- Puts the setting that an attribute governs to a value. -/
def overlay (value : String) (s : Settings) : Attribute → Except Misfit Settings
  | defaultTheme =>
    match Theme.ofText? value with
    | some t => .ok { s with theme := { s.theme with fallback := t } }
    | none => .error (.theme value)
  | themeKey => .ok { s with theme := { s.theme with storageKey := value } }
  | backToTopOffset =>
    match readOffset? value with
    | some x => .ok { s with backToTop := { s.backToTop with threshold := x } }
    | none => .error (.number value)
  | revealStep =>
    match readCount? value with
    | some n => .ok { s with reveal := { s.reveal with step := n } }
    | none => .error (.number value)
  | typingDelay =>
    match readCount? value with
    | some n => .ok { s with typing := { s.typing with delay := n } }
    | none => .error (.number value)
  | themeShortcut =>
    match Chord.parse value with
    | .ok c => .ok { s with shortcut := c }
    | .error fault => .error (.shortcut fault)
  | commitRepo =>
    if isRepo value then .ok { s with commits := { s.commits with repo := some value } }
    else .error (.repo value)
  | logLevel =>
    match Log.Level.ofText? value with
    | some l => .ok { s with logLevel := l }
    | none => .error (.logLevel value)

end Attribute

/-! ### Reading all of them -/

/-- The value that a look-up gives, trimmed; none if that leaves nothing. -/
def presentValue? (raw : Option String) : Option String :=
  (raw.map Text.trim).filter fun v => v ≠ ""

namespace Settings

/-- Looks at one attribute. -/
def adopt (lookup : String → Option String) (acc : Settings × List Rejection) (a : Attribute) :
    Settings × List Rejection :=
  match presentValue? (lookup a.name) with
  | none => acc
  | some value =>
    match a.overlay value acc.1 with
    | .ok s => (s, acc.2)
    | .error misfit => (acc.1, acc.2 ++ [⟨a, misfit⟩])

/-- The settings that a page's attributes ask for, and the values refused, in
    the order of the attributes. -/
def ofAttributes (lookup : String → Option String) : Settings × List Rejection :=
  Attribute.all.foldl (adopt lookup) ({}, [])

/-- A page without recognised attributes gets the standard settings. -/
theorem ofAttributes_of_absent {lookup : String → Option String}
    (h : ∀ a : Attribute, lookup a.name = none) : ofAttributes lookup = ({}, []) := by
  simp [ofAttributes, Attribute.all, adopt, presentValue?, h]

end Settings

end Enhance
