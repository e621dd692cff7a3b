/-
  Enhance/Proofs/Payload/Written.lean
  ===================================
  **JSON as it may be written.**

  A written value is a tree: its constructors say how the value is spelled out,
  down to the blanks between the signs and the escapes in the strings, and
  `chars` puts the spelling together.  What a string means is read off the tree
  (`StringText.means`), so the trees fix what a text stands for without any
  reader.  Values that nobody asks for are trees too (`JsonText`); there a
  string may hold any escape by units, also one that stands for no character.
-/
import Enhance.Payload.Shape
import Enhance.Proofs.Text.Digits

namespace Enhance.Payload

open Text (DigitRow)

/-! ### Blanks -/

/-- A blank between the signs. -/
inductive Blank where
  | space | tab | lineFeed | carriageReturn
deriving DecidableEq

def Blank.char : Blank → Char
  | space => ' '
  | tab => '\t'
  | lineFeed => '\n'
  | carriageReturn => '\r'

def blanks (l : List Blank) : List Char := l.map Blank.char

/-! ### Strings -/

/-- A digit of base sixteen, in either case. -/
structure HexDigit where
  value : Fin 16
  capital : Bool

def HexDigit.char (d : HexDigit) : Char :=
  if d.capital then (Nat.digitChar d.value).toUpper else Nat.digitChar d.value

/-- A unit of 16 bits in four digits. -/
structure HexUnit where
  first : HexDigit
  second : HexDigit
  third : HexDigit
  fourth : HexDigit

namespace HexUnit

def value (u : HexUnit) : Nat :=
  ((u.first.value.val * 16 + u.second.value.val) * 16 + u.third.value.val) * 16 +
    u.fourth.value.val

def chars (u : HexUnit) : List Char :=
  [u.first.char, u.second.char, u.third.char, u.fourth.char]

/-- The first half of a pair of surrogates. -/
def isFirstHalf (u : HexUnit) : Prop := 0xd800 ≤ u.value ∧ u.value ≤ 0xdbff

/-- The second half of a pair of surrogates. -/
def isSecondHalf (u : HexUnit) : Prop := 0xdc00 ≤ u.value ∧ u.value ≤ 0xdfff

end HexUnit

/-- An escape of one letter. -/
inductive Shorthand where
  | quote | backslash | slash | backspace | formFeed | lineFeed | carriageReturn | tab
deriving DecidableEq

namespace Shorthand

/-- The letter behind the backslash. -/
def letter : Shorthand → Char
  | quote => '"'
  | backslash => '\\'
  | slash => '/'
  | backspace => 'b'
  | formFeed => 'f'
  | lineFeed => 'n'
  | carriageReturn => 'r'
  | tab => 't'

/-- The character that is meant. -/
def char : Shorthand → Char
  | quote => '"'
  | backslash => '\\'
  | slash => '/'
  | backspace => '\x08'
  | formFeed => '\x0c'
  | lineFeed => '\n'
  | carriageReturn => '\r'
  | tab => '\t'

end Shorthand

/-- Whether a character may stand for itself in a string. -/
def isPlain (c : Char) : Bool := 0x20 ≤ c.toNat && c != '"' && c != '\\'

/-- A piece of a string: a character that stands for itself, or an escape. -/
inductive Piece where
  | plain (c : Char) (h : isPlain c = true)
  | shorthand (s : Shorthand)
  | unit (u : HexUnit)

def Piece.chars : Piece → List Char
  | plain c _ => [c]
  | shorthand s => ['\\', s.letter]
  | unit u => '\\' :: 'u' :: u.chars

def quoted (l : List Piece) : List Char := '"' :: (l.flatMap Piece.chars ++ ['"'])

/-- A character as it may be written in a string.  A character beyond the first
    65536 takes two escapes by units, a pair of surrogates. -/
inductive Glyph where
  | plain (c : Char) (h : isPlain c = true)
  | shorthand (s : Shorthand)
  | unit (u : HexUnit) (h : ¬ u.isFirstHalf ∧ ¬ u.isSecondHalf)
  | pair (u v : HexUnit) (hu : u.isFirstHalf) (hv : v.isSecondHalf)

namespace Glyph

def pieces : Glyph → List Piece
  | plain c h => [.plain c h]
  | shorthand s => [.shorthand s]
  | unit u _ => [.unit u]
  | pair u v _ _ => [.unit u, .unit v]

/-- The character that is meant. -/
def char : Glyph → Char
  | plain c _ => c
  | shorthand s => s.char
  | unit u _ => Char.ofNat u.value
  | pair u v _ _ => Char.ofNat (0x10000 + (u.value - 0xd800) * 0x400 + (v.value - 0xdc00))

end Glyph

/-- A string whose escapes all stand for characters. -/
structure StringText where
  glyphs : List Glyph

namespace StringText

def chars (t : StringText) : List Char := quoted (t.glyphs.flatMap Glyph.pieces)

/-- The characters that are meant. -/
def means (t : StringText) : List Char := t.glyphs.map Glyph.char

/-- A string in which every character stands for itself. -/
def plain (l : List Char) (h : l.all isPlain = true) : StringText :=
  ⟨l.pmap Glyph.plain (List.all_eq_true.mp h)⟩

theorem means_plain (l : List Char) (h : l.all isPlain = true) : (plain l h).means = l := by
  rw [means, plain, List.map_pmap]
  exact List.pmap_eq_self.mpr fun _ _ => rfl

end StringText

/-! ### Values of any kind -/

/-- The power of ten of a number. -/
structure PowerText where
  capital : Bool
  /-- The sign, if there is one, and whether it is a minus sign. -/
  minus : Option Bool
  row : DigitRow

def PowerText.chars (p : PowerText) : List Char :=
  (if p.capital then 'E' else 'e') ::
    ((match p.minus with
      | some true => ['-']
      | some false => ['+']
      | none => []) ++ p.row.chars)

/-- A number; it has no zero in front of other digits. -/
structure NumberText where
  minus : Bool
  whole : DigitRow
  lead : whole.chars.head? = some '0' → whole.chars = ['0']
  fraction : Option DigitRow
  power : Option PowerText

def NumberText.chars (n : NumberText) : List Char :=
  (if n.minus then ['-'] else []) ++ n.whole.chars ++
    (n.fraction.elim [] fun row => '.' :: row.chars) ++ n.power.elim [] PowerText.chars

/-- A value without brackets. -/
inductive ScalarText where
  | null
  | bool (b : Bool)
  | string (l : List Piece)
  | number (n : NumberText)

def ScalarText.chars : ScalarText → List Char
  | null => ['n', 'u', 'l', 'l']
  | bool true => ['t', 'r', 'u', 'e']
  | bool false => ['f', 'a', 'l', 's', 'e']
  | string l => quoted l
  | number n => n.chars

/-- What stands before an item: blanks, and before a later item also a comma
    and blanks behind it. -/
structure Gap where
  before : List Blank
  after : List Blank

def Gap.chars (first : Bool) (g : Gap) : List Char :=
  blanks g.before ++ if first then [] else ',' :: blanks g.after

/-- What stands between a key and its value. -/
structure ColonText where
  before : List Blank
  after : List Blank

def ColonText.chars (t : ColonText) : List Char := blanks t.before ++ ':' :: blanks t.after

def Bracket.opening : Bracket → Char
  | list => '['
  | object => '\x7b'

/-- The key that an item has between these brackets. -/
inductive KeyText : Bracket → Type where
  | absent : KeyText .list
  | named (name : List Piece) (colon : ColonText) : KeyText .object

def KeyText.chars {b : Bracket} : KeyText b → List Char
  | absent => []
  | named name colon => quoted name ++ colon.chars

mutual

/-- A value of any kind. -/
inductive JsonText where
  | scalar (s : ScalarText)
  | bracketed (b : Bracket) (inside : InsideText b)

/-- What follows an opening bracket, up to its partner. -/
inductive InsideText : Bracket → Type where
  | close {b : Bracket} (before : List Blank) : InsideText b
  | item {b : Bracket} (gap : Gap) (key : KeyText b) (value : JsonText) (later : InsideText b) :
      InsideText b

end

mutual

def JsonText.chars : JsonText → List Char
  | .scalar s => s.chars
  | .bracketed b inside => b.opening :: inside.chars true

/-- The spelling of what follows an opening bracket, `first` until an item has
    been. -/
def InsideText.chars {b : Bracket} (first : Bool) : InsideText b → List Char
  | .close before => blanks before ++ [b.closing]
  | .item gap key value later =>
    gap.chars first ++ (key.chars ++ (value.chars ++ later.chars false))

end

/-! ### Values of a given shape -/

/-- Items with the gaps before them. -/
def row {α : Type} (write : α → List Char) : Bool → List (Gap × α) → List Char
  | _, [] => []
  | first, (gap, a) :: rest => gap.chars first ++ (write a ++ row write false rest)

structure ListText (α : Type) where
  items : List (Gap × α)
  close : List Blank

def ListText.chars {α : Type} (write : α → List Char) (t : ListText α) : List Char :=
  '[' :: (row write true t.items ++ (blanks t.close ++ [']']))

/-- A member that is not the field of this name. -/
structure OtherMember (field : String) where
  name : StringText
  other : name.means ≠ field.toList
  colon : ColonText
  value : JsonText

def OtherMember.chars {field : String} (m : OtherMember field) : List Char :=
  m.name.chars ++ (m.colon.chars ++ m.value.chars)

/-- A record with one field: an object that has the field among other members,
    or a list of the field alone. -/
inductive RecordText (shape : RecordShape) (α : Type) where
  | object (earlier : List (Gap × OtherMember shape.field)) (gap : Gap) (name : StringText)
      (named : name.means = shape.field.toList) (colon : ColonText) (value : α)
      (later : List (Gap × OtherMember shape.field)) (close : List Blank)
  | sole (before : List Blank) (value : α) (close : List Blank)

namespace RecordText

variable {shape : RecordShape} {α : Type}

def chars (write : α → List Char) : RecordText shape α → List Char
  | object earlier gap name _ colon value later close =>
    '\x7b' :: (row OtherMember.chars true earlier ++ (gap.chars earlier.isEmpty ++ (name.chars ++
      (colon.chars ++ (write value ++ (row OtherMember.chars false later ++
        (blanks close ++ ['\x7d'])))))))
  | sole before value close => '[' :: (blanks before ++ (write value ++ (blanks close ++ [']'])))

def field : RecordText shape α → α
  | object _ _ _ _ _ value _ _ => value
  | sole _ value _ => value

end RecordText

/-- A value with blanks around it. -/
structure DocumentText (α : Type) where
  front : List Blank
  value : α
  back : List Blank

def DocumentText.chars {α : Type} (write : α → List Char) (t : DocumentText α) : List Char :=
  blanks t.front ++ (write t.value ++ blanks t.back)

end Enhance.Payload
