/-
  Enhance/Payload/Reader.lean
  ===========================
  **Reading JSON off the front of a row of bytes.**

  A reader keeps its place when it fails, because the reader of an enclosing
  bracket still looks for its end before the failure is passed on.  A place is
  told by the number of bytes left, from which `Fault.message` finds line and
  column in the whole body.

  There are two kinds of fault.  Text that is not JSON is found at a byte, and
  the fault carries its place.  JSON that does not have the shape asked for may
  only be noticed between the brackets of a container; such a fault gets its
  place where the container ends (`enclosed`).
-/
import Enhance.Text.Bytes
import Enhance.Text.Quoted

namespace Enhance.Payload

/-! ### Faults -/

/-- How a text fails to be JSON. -/
inductive Malformed where
  | eofValue | eofList | eofObject | eofString
  | expectedColon | expectedListSeparator | expectedObjectSeparator
  | expectedLiteral | expectedValue
  | invalidEscape | invalidNumber | numberOutOfRange
  | loneSurrogate | unfinishedSurrogate | controlCharacter
  | keyNotString | trailingComma | trailingCharacters
deriving DecidableEq

def Malformed.message : Malformed → String
  | eofValue => "EOF while parsing a value"
  | eofList => "EOF while parsing a list"
  | eofObject => "EOF while parsing an object"
  | eofString => "EOF while parsing a string"
  | expectedColon => "expected `:`"
  | expectedListSeparator => "expected `,` or `]`"
  | expectedObjectSeparator => "expected `,` or `\x7d`"
  | expectedLiteral => "expected ident"
  | expectedValue => "expected value"
  | invalidEscape => "invalid escape"
  | invalidNumber => "invalid number"
  | numberOutOfRange => "number out of range"
  | loneSurrogate => "lone leading surrogate in hex escape"
  | unfinishedSurrogate => "unexpected end of hex escape"
  | controlCharacter => "control character (\\u0000-\\u001F) found while parsing a string"
  | keyNotString => "key must be a string"
  | trailingComma => "trailing comma"
  | trailingCharacters => "trailing characters"

/-- How JSON fails to have the shape asked for. -/
inductive Misshapen where
  /-- Another kind of value stands where `expected` should. -/
  | wrongKind (found expected : String)
  /-- A record written as a list has no element. -/
  | emptyRecord (record : String)
  | missingField (field : String)
  | duplicateField (field : String)
deriving DecidableEq

def Misshapen.message : Misshapen → String
  | wrongKind found expected => "invalid type: " ++ found ++ ", expected " ++ expected
  | emptyRecord record => "invalid length 0, expected " ++ record ++ " with 1 element"
  | missingField field => "missing field `" ++ field ++ "`"
  | duplicateField field => "duplicate field `" ++ field ++ "`"

/-- A failure; its place is the number of bytes left there. -/
inductive Fault where
  | malformed (why : Malformed) (left : Nat)
  | misshapen (why : Misshapen) (left : Option Nat)
deriving DecidableEq

/-- Gives a fault the place of a container's end, unless it has a place. -/
def Fault.settle (left : Nat) : Fault → Fault
  | .misshapen why none => .misshapen why (some left)
  | fault => fault

/-- Line and column of the place with `left` bytes left, the first line being
    1 and the column counting the bytes since the last line feed. -/
def position (body : List UInt8) (left : Nat) : Nat × Nat :=
  let before := body.take (body.length - left)
  (before.count 10 + 1, (before.reverse.takeWhile (· != 10)).length)

/-- A message with its place in the body. -/
def placed (body : List UInt8) (message : String) (left : Nat) : String :=
  let (line, column) := position body left
  message ++ " at line " ++ toString line ++ " column " ++ toString column

def Fault.message (body : List UInt8) : Fault → String
  | malformed why left => placed body why.message left
  | misshapen why (some left) => placed body why.message left
  | misshapen why none => why.message

/-! ### Readers -/

/-- Reads off the front of the bytes left, and keeps its place on failure. -/
abbrev Reader := ExceptT Fault (StateM (List UInt8))

namespace Reader

variable {α : Type}

def rest : Reader (List UInt8) := get

/-- The next byte, which stays. -/
def peek? : Reader (Option UInt8) := return (← get).head?

def sees (c : Char) : Reader Bool := return (← get).head? == some (Text.byte c)

/-- Leaves the next byte behind. -/
def skip : Reader Unit := modify (List.drop 1)

/-- The next byte, left behind. -/
def next? : Reader (Option UInt8) := do
  let b ← peek?
  skip
  return b

def fail (why : Malformed) : Reader α := do throw (.malformed why (← get).length)

/-- Fails behind the next byte, or at the end if there is none. -/
def failNext (why : Malformed) : Reader α := do throw (.malformed why ((← get).length - 1))

/-- Fails for the shape of what was read, the place being decided later. -/
def refuse (why : Misshapen) : Reader α := throw (.misshapen why none)

/-- Fails for the shape of what was read, at the present place. -/
def refuseHere (why : Misshapen) : Reader α := do
  throw (.misshapen why (some (← get).length))

def isBlankByte (b : UInt8) : Bool := b == 32 || b == 10 || b == 9 || b == 13

def skipBlanks : Reader Unit := modify (List.dropWhile isBlankByte)

/-- Digits, as many as there are. -/
def digits : Reader (List UInt8) := do
  let l ← get
  set (l.dropWhile Text.isDigitByte)
  return l.takeWhile Text.isDigitByte

/-- What stands between brackets, and then the closing bracket.  The end is
    looked for even when the inside failed; the inside's failure then stands,
    and takes its place there if it has none. -/
def enclosed (inside : Reader α) (close : Reader Unit) : Reader α := fun l =>
  match inside l with
  | (.error fault, l') =>
    let (_, l'') := close l'
    (.error (fault.settle l''.length), l'')
  | (.ok a, l') =>
    match close l' with
    | (.error fault, l'') => (.error fault, l'')
    | (.ok (), l'') => (.ok a, l'')

end Reader

end Enhance.Payload
