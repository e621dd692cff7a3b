/-
  Enhance/Payload/Shape.lean
  ==========================
  **JSON of a given shape:** a string, a list, a record with one field.

  A record is written as an object, where other fields may stand beside its
  own, or as a list of one element, which is its field.  A value of another
  kind is read just far enough to say what it is.
-/
import Enhance.Payload.Skim

namespace Enhance.Payload

/-- A record with one field. -/
structure RecordShape where
  name : String
  field : String
deriving DecidableEq

namespace Reader

variable {α : Type}

/-! ### Values of the wrong kind -/

/-- Reads a value that is not `expected` and says what it is; a container is
    not entered. -/
def refuseValue (expected : String) (first : UInt8) : Reader α := do
  if first = Text.byte 'n' then
    skip
    literal "ull".toList
    refuseHere (.wrongKind "null" expected)
  else if first = Text.byte 't' then
    skip
    literal "rue".toList
    refuseHere (.wrongKind "boolean `true`" expected)
  else if first = Text.byte 'f' then
    skip
    literal "alse".toList
    refuseHere (.wrongKind "boolean `false`" expected)
  else if first = Text.byte '"' then
    skip
    let l ← text
    refuseHere (.wrongKind ("string " ++ Text.quote (Text.ofBytes l)) expected)
  else if first = Text.byte '-' ∨ Text.isDigitByte first then
    match (← numeral .eofValue).value with
    | .integer i => refuseHere (.wrongKind ("integer `" ++ toString i ++ "`") expected)
    | .measure x =>
      refuseHere (.wrongKind ("floating point `" ++ numberLayout.render x ++ "`") expected)
    | .tooLarge unread => throw (.malformed .numberOutOfRange ((← get).length + unread))
  else if first = Text.byte '[' then refuseHere (.wrongKind "sequence" expected)
  else if first = Text.byte '\x7b' then refuseHere (.wrongKind "map" expected)
  else failNext .expectedValue

def firstByte : Reader UInt8 := do
  skipBlanks
  match ← peek? with
  | none => failNext .eofValue
  | some b => return b

/-! ### Strings and lists -/

def textValue : Reader (List UInt8) := do
  let b ← firstByte
  if b = Text.byte '"' then
    skip
    text
  else refuseValue "a string" b

/-- The end of a list; a comma and whatever comes after it are too much. -/
def closeList : Reader Unit := do
  skipBlanks
  match ← peek? with
  | none => failNext .eofList
  | some b =>
    if b = Text.byte ']' then skip
    else if b = Text.byte ',' then
      skip
      skipBlanks
      if ← sees ']' then failNext .trailingComma else failNext .trailingCharacters
    else failNext .trailingCharacters

def closeObject : Reader Unit := do
  skipBlanks
  match ← peek? with
  | none => failNext .eofObject
  | some b =>
    if b = Text.byte '\x7d' then skip
    else if b = Text.byte ',' then failNext .trailingComma
    else failNext .trailingCharacters

/-- What separates an element from the one before it. -/
def elementComma : Reader Unit := do
  if ← sees ',' then
    skip
    skipBlanks
    match ← peek? with
    | none => failNext .eofValue
    | some b => if b = Text.byte ']' then failNext .trailingComma else return ()
  else failNext .expectedListSeparator

/-- The elements up to the closing bracket, which stays; each round leaves a
    byte behind. -/
def elements (element : Reader α) : Nat → List α → Reader (List α)
  | 0, _ => fail .eofList
  | rounds + 1, sofar => do
    skipBlanks
    match ← peek? with
    | none => failNext .eofList
    | some b =>
      if b = Text.byte ']' then return sofar.reverse
      else
        if ¬ sofar.isEmpty then elementComma
        let a ← element
        elements element rounds (a :: sofar)

def listValue (element : Reader α) : Reader (List α) := do
  let b ← firstByte
  if b = Text.byte '[' then
    skip
    enclosed (do elements element ((← get).length + 1) []) closeList
  else refuseValue "a sequence" b

/-! ### Records -/

/-- The one element of a record written as a list; more elements are left to
    the end of the list. -/
def soleElement (shape : RecordShape) (value : Reader α) : Reader α := do
  skipBlanks
  match ← peek? with
  | none => failNext .eofList
  | some b => if b = Text.byte ']' then refuse (.emptyRecord shape.name) else value

/-- What comes before a key: nothing before the first one, else a comma. -/
def keyComma (first : Bool) (b : UInt8) : Reader Unit := do
  if first then
    if b = Text.byte '"' then return () else failNext .keyNotString
  else if b = Text.byte ',' then
    skip
    skipBlanks
    match ← peek? with
    | none => failNext .eofValue
    | some c =>
      if c = Text.byte '\x7d' then failNext .trailingComma
      else if c = Text.byte '"' then return ()
      else failNext .keyNotString
  else failNext .expectedObjectSeparator

/-- The members up to the closing bracket, which stays: the value of the
    record's field, if it was among them.  Each round leaves a byte behind. -/
def members (shape : RecordShape) (value : Reader α) :
    Nat → Bool → Option α → Reader (Option α)
  | 0, _, _ => fail .eofObject
  | rounds + 1, first, found => do
    skipBlanks
    match ← peek? with
    | none => failNext .eofObject
    | some b =>
      if b = Text.byte '\x7d' then return found
      else
        keyComma first b
        skip
        let key ← text
        if key = Text.bytes shape.field then
          if found.isSome then refuse (.duplicateField shape.field)
          colon
          let a ← value
          members shape value rounds false (some a)
        else
          colon
          skim
          members shape value rounds false found

/-- The field of a record written as an object. -/
def soleField (shape : RecordShape) (value : Reader α) : Reader α := do
  match ← members shape value ((← get).length + 1) true none with
  | some a => return a
  | none => refuse (.missingField shape.field)

def recordValue (shape : RecordShape) (value : Reader α) : Reader α := do
  let b ← firstByte
  if b = Text.byte '[' then
    skip
    enclosed (soleElement shape value) closeList
  else if b = Text.byte '\x7b' then
    skip
    enclosed (soleField shape value) closeObject
  else refuseValue shape.name b

/-- One value and nothing behind it but blanks. -/
def document (value : Reader α) : Reader α := do
  let a ← value
  skipBlanks
  if (← get).isEmpty then return a else failNext .trailingCharacters

end Reader

end Enhance.Payload
