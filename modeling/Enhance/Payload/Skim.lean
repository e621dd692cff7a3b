/-
  Enhance/Payload/Skim.lean
  =========================
  **Passing over a value that nobody asked for.**

  The value may be nested to any depth, so the brackets that are open are kept
  in a list, the innermost first, and the value is over when the list is
  empty again.  A bracket is *fresh* until something stood between it and its
  partner; a comma is not wanted before that.
-/
import Enhance.Payload.Numeral
import Enhance.Payload.Quotation

namespace Enhance.Payload

/-- An open bracket. -/
inductive Bracket where
  | list | object
deriving DecidableEq

namespace Bracket

def closing : Bracket → Char
  | list => ']'
  | object => '\x7d'

/-- The fault of a body that ends between the brackets. -/
def atEnd : Bracket → Malformed
  | list => .eofList
  | object => .eofObject

/-- The fault of a value that neither a comma nor the partner follows. -/
def wantsSeparator : Bracket → Malformed
  | list => .expectedListSeparator
  | object => .expectedObjectSeparator

end Bracket

namespace Reader

/-- The rest of a word whose first letter is behind. -/
def literal : List Char → Reader Unit
  | [] => return ()
  | c :: rest => do
    match ← next? with
    | none => fail .eofValue
    | some b => if b = Text.byte c then literal rest else fail .expectedLiteral

/-- Passes over a value without brackets, or over an opening bracket, which is
    given. -/
def skimHead : Reader (Option Bracket) := do
  skipBlanks
  match ← peek? with
  | none => failNext .eofValue
  | some b =>
    if b = Text.byte 'n' then
      skip
      literal "ull".toList
      return none
    else if b = Text.byte 't' then
      skip
      literal "rue".toList
      return none
    else if b = Text.byte 'f' then
      skip
      literal "alse".toList
      return none
    else if b = Text.byte '"' then
      skip
      skipText
      return none
    else if b = Text.byte '-' ∨ Text.isDigitByte b then
      let _ ← numeral .invalidNumber
      return none
    else if b = Text.byte '[' then
      skip
      return some .list
    else if b = Text.byte '\x7b' then
      skip
      return some .object
    else failNext .expectedValue

def colon : Reader Unit := do
  skipBlanks
  match ← peek? with
  | none => failNext .eofObject
  | some b => if b = Text.byte ':' then skip else failNext .expectedColon

/-- Passes over the key that a value needs between these brackets. -/
def skimKey : Bracket → Reader Unit
  | .list => return ()
  | .object => do
    skipBlanks
    match ← peek? with
    | none => failNext .eofObject
    | some b =>
      if b = Text.byte '"' then
        skip
        skipText
        colon
      else failNext .keyNotString

/-- Passes over everything up to the partner of the outermost open bracket;
    each round leaves a byte behind. -/
def skimOpen : Nat → List Bracket → Bool → Reader Unit
  | _, [], _ => return ()
  | 0, _ :: _, _ => fail .eofValue
  | rounds + 1, top :: below, fresh => do
    let member : Reader Unit := do
      skimKey top
      match ← skimHead with
      | some bracket => skimOpen rounds (bracket :: top :: below) true
      | none => skimOpen rounds (top :: below) false
    skipBlanks
    match ← peek? with
    | none => failNext top.atEnd
    | some b =>
      if b = Text.byte ',' ∧ ¬ fresh then
        skip
        member
      else if b = Text.byte top.closing then
        skip
        skimOpen rounds below false
      else if fresh then member
      else failNext top.wantsSeparator

def skim : Reader Unit := do
  match ← skimHead with
  | some bracket => skimOpen ((← get).length + 1) [bracket] true
  | none => return ()

end Reader

end Enhance.Payload
