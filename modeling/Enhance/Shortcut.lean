/-
  Enhance/Shortcut.lean
  =====================
  **The keyboard chord that flips the theme.**

  A chord is a set of modifiers and one letter or digit, written as tokens
  joined by `+`, the key last: `alt+shift+d`.  Modifiers go by several names,
  case and order do not matter, and blank tokens are skipped; `Chord.render`
  writes each chord in one way.

  A keystroke matches when it holds exactly the chord's modifiers and is the
  chord's key, either by its place on the keyboard or by what it types.
  Repeats of a held key and keystrokes into a field never match.
-/
import Enhance.Text.Blank
import Enhance.Text.Pieces
import Enhance.Text.Quoted

namespace Enhance

/-! ### Modifiers -/

inductive Modifier where
  | ctrl | alt | shift | command
deriving DecidableEq

structure Modifiers where
  ctrl : Bool := false
  alt : Bool := false
  shift : Bool := false
  command : Bool := false
deriving DecidableEq, Inhabited

namespace Modifier

/-- Every modifier, in the order in which a chord lists them. -/
def all : List Modifier := [ctrl, alt, shift, command]

/-- The name under which a chord lists a modifier. -/
def name : Modifier → String
  | ctrl => "ctrl"
  | alt => "alt"
  | shift => "shift"
  | command => "meta"

/-- Every name of a modifier. -/
def names : Modifier → List String
  | ctrl => ["ctrl", "control"]
  | alt => ["alt", "option"]
  | shift => ["shift"]
  | command => ["meta", "cmd", "super"]

/-- The modifier that goes by a name in lower case. -/
def ofName? (s : String) : Option Modifier := all.find? fun m => s ∈ m.names

theorem ofName?_name (m : Modifier) : ofName? m.name = some m := by cases m <;> decide

end Modifier

namespace Modifiers

def holds (h : Modifiers) : Modifier → Bool
  | .ctrl => h.ctrl
  | .alt => h.alt
  | .shift => h.shift
  | .command => h.command

def hold (h : Modifiers) : Modifier → Modifiers
  | .ctrl => { h with ctrl := true }
  | .alt => { h with alt := true }
  | .shift => { h with shift := true }
  | .command => { h with command := true }

def any (h : Modifiers) : Bool := Modifier.all.any h.holds

/-- The held modifiers, in the order in which a chord lists them. -/
def toList (h : Modifiers) : List Modifier := Modifier.all.filter h.holds

theorem holds_hold (h : Modifiers) (m n : Modifier) :
    (h.hold m).holds n = (decide (n = m) || h.holds n) := by
  cases m <;> cases n <;> rfl

end Modifiers

/-! ### Chords -/

structure Chord where
  modifiers : Modifiers
  /-- A letter in lower case, or a digit. -/
  key : Char
deriving DecidableEq, Inhabited

/-- Why a text is no chord. -/
inductive ChordFault where
  | empty
  | unknownModifier (name : String)
  | invalidKey (key : String)
  | noModifier
deriving DecidableEq

def ChordFault.message : ChordFault → String
  | empty => "empty shortcut"
  | unknownModifier name => "unknown modifier " ++ Text.quote name
  | invalidKey key => "shortcut key must be a single letter or digit, got " ++ Text.quote key
  | noModifier => "shortcut needs at least one modifier"

namespace Chord

/-- `alt+shift+d`. -/
def standard : Chord := ⟨{ alt := true, shift := true }, 'd'⟩

/-- The tokens of a written chord: what lies between plus signs, trimmed, the
    blank ones left out. -/
def tokens (s : String) : List (List Char) :=
  ((Text.pieces (· == '+') s.toList).map Text.trimChars).filter fun t => t ≠ []

/-- Holds each named modifier in turn, up to the first name of none. -/
def readModifiers (held : Modifiers) : List (List Char) → Except ChordFault Modifiers
  | [] => .ok held
  | token :: rest =>
    let name := String.ofList (token.map Char.toLower)
    match Modifier.ofName? name with
    | some m => readModifiers (held.hold m) rest
    | none => .error (.unknownModifier name)

/-- Reads the key: one letter or digit. -/
def readKey : List Char → Except ChordFault Char
  | [c] => if c.isAlphanum then .ok c.toLower else .error (.invalidKey (String.ofList [c]))
  | token => .error (.invalidKey (String.ofList token))

def parse (s : String) : Except ChordFault Chord :=
  match (tokens s).getLast? with
  | none => .error .empty
  | some last =>
    match readModifiers {} (tokens s).dropLast with
    | .error fault => .error fault
    | .ok modifiers =>
      if modifiers.any then (readKey last).map fun key => ⟨modifiers, key⟩
      else .error .noModifier

/-- Writes a chord: each held modifier by its first name, then the key. -/
def render (c : Chord) : String :=
  String.ofList ((c.modifiers.toList.flatMap fun m => m.name.toList ++ ['+']) ++ [c.key])

end Chord

/-! ### Keystrokes -/

/-- What a key that goes down tells. -/
structure Keystroke where
  /-- What the key types, which depends on the layout. -/
  key : String := ""
  /-- The key's place on the keyboard. -/
  code : String := ""
  modifiers : Modifiers := {}
  /-- The key was down already. -/
  repeated : Bool := false
  /-- The keystroke goes into a field. -/
  inEditable : Bool := false
deriving DecidableEq, Inhabited

namespace Chord

/-- The place on the keyboard of the chord's key. -/
def code (c : Chord) : String :=
  if c.key.isDigit then String.ofList ("Digit".toList ++ [c.key])
  else String.ofList ("Key".toList ++ [c.key.toUpper])

/-- Whether a key's text is the chord's key alone, in either ASCII case. -/
def isKey (c : Chord) (key : String) : Bool :=
  match key.toList with
  | [k] => k.toLower == c.key
  | _ => false

/-- Whether a keystroke triggers the chord. -/
def matched (c : Chord) (k : Keystroke) : Bool :=
  !k.repeated && !k.inEditable && decide (k.modifiers = c.modifiers) &&
    (k.code == c.code || c.isKey k.key)

end Chord

end Enhance
