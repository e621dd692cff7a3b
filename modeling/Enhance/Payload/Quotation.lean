/-
  Enhance/Payload/Quotation.lean
  ==============================
  **Strings in JSON.**

  `Reader.text` reads a string behind its opening quote and gives its bytes,
  escapes resolved; a pair of surrogates stands for one character.
  `Reader.skipText` passes over a string that nobody asked for and is less
  strict with surrogates.
-/
import Enhance.Payload.Reader

namespace Enhance.Payload.Reader

/-- A value of four digits of base sixteen. -/
def hexValue? : List UInt8 → Option Nat
  | [a, b, c, d] => do
    let a ← Text.hexByteValue? a
    let b ← Text.hexByteValue? b
    let c ← Text.hexByteValue? c
    let d ← Text.hexByteValue? d
    return ((a * 16 + b) * 16 + c) * 16 + d
  | _ => none

def hex4 : Reader Nat := do
  let l ← get
  set (l.drop 4)
  if l.length < 4 then fail .eofString
  match hexValue? (l.take 4) with
  | some n => return n
  | none => fail .invalidEscape

/-- One byte that has to follow the first half of a pair of surrogates. -/
def pairMark (c : Char) : Reader Unit := do
  match ← next? with
  | none => fail .eofString
  | some b => if b = Text.byte c then return () else fail .unfinishedSurrogate

def isSecondHalf (n : Nat) : Bool := 0xdc00 ≤ n && n ≤ 0xdfff

def isFirstHalf (n : Nat) : Bool := 0xd800 ≤ n && n ≤ 0xdbff

/-- The character of an escape by units: one unit, or a pair of halves. -/
def unitEscape : Reader Char := do
  let n ← hex4
  if isSecondHalf n then fail .loneSurrogate
  else if isFirstHalf n then
    pairMark '\\'
    pairMark 'u'
    let m ← hex4
    if isSecondHalf m then return Char.ofNat (0x10000 + (n - 0xd800) * 0x400 + (m - 0xdc00))
    else fail .loneSurrogate
  else return Char.ofNat n

/-- The character that a letter behind a backslash stands for. -/
def letterEscape? (b : UInt8) : Option Char :=
  if b = Text.byte '"' then some '"'
  else if b = Text.byte '\\' then some '\\'
  else if b = Text.byte '/' then some '/'
  else if b = Text.byte 'b' then some '\x08'
  else if b = Text.byte 'f' then some '\x0c'
  else if b = Text.byte 'n' then some '\n'
  else if b = Text.byte 'r' then some '\r'
  else if b = Text.byte 't' then some '\t'
  else none

/-- The character of an escape, behind its backslash. -/
def escape : Reader Char := do
  match ← next? with
  | none => fail .eofString
  | some b =>
    match letterEscape? b with
    | some c => return c
    | none => if b = Text.byte 'u' then unitEscape else fail .invalidEscape

/-- The characters up to the closing quote, put behind those read so far; each
    round leaves a byte behind. -/
def textLoop : Nat → List UInt8 → Reader (List UInt8)
  | 0, _ => fail .eofString
  | rounds + 1, sofar => do
    match ← peek? with
    | none => fail .eofString
    | some b =>
      skip
      if b = Text.byte '"' then return sofar.reverse
      else if b = Text.byte '\\' then
        let c ← escape
        textLoop rounds ((String.utf8EncodeChar c).reverse ++ sofar)
      else if b < 32 then fail .controlCharacter
      else textLoop rounds (b :: sofar)

/-- A string behind its opening quote, as bytes. -/
def text : Reader (List UInt8) := do textLoop ((← get).length + 1) []

/-- Passes over an escape; any four digits of base sixteen make a unit. -/
def skipEscape : Reader Unit := do
  match ← next? with
  | none => fail .eofString
  | some b =>
    if (letterEscape? b).isSome then return ()
    else if b = Text.byte 'u' then
      let _ ← hex4
      return ()
    else fail .invalidEscape

/-- Passes over the characters up to the closing quote; each round leaves a
    byte behind. -/
def skipTextLoop : Nat → Reader Unit
  | 0 => fail .eofString
  | rounds + 1 => do
    match ← peek? with
    | none => fail .eofString
    | some b =>
      if b = Text.byte '"' then skip
      else if b = Text.byte '\\' then
        skip
        skipEscape
        skipTextLoop rounds
      else if b < 32 then fail .controlCharacter
      else
        skip
        skipTextLoop rounds

def skipText : Reader Unit := do skipTextLoop ((← get).length + 1)

end Enhance.Payload.Reader
