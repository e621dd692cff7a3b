/-
  Enhance/Proofs/Payload/Reader.lean
  ==================================
  **What a reader does to the bytes left.**

  A reader is a function of the bytes left, and each of the elementary ones has
  an equation that says what it gives and what it leaves; with these, a reader
  is carried out by rewriting.  `Takes` is what the readers of whole values
  have in common: behind any blanks they take the value's text, and nothing
  more, off the front of whatever may follow a value.
-/
import Enhance.Proofs.Payload.Written
import Enhance.Proofs.Text.Utf8

namespace Enhance.Payload

open Text

namespace Reader

variable {α β : Type}

/-! ### Elementary readers -/

theorem bind_apply (x : Reader α) (f : α → Reader β) (l : List UInt8) :
    (x >>= f) l = match x l with
      | (.ok a, m) => f a m
      | (.error fault, m) => (.error fault, m) := by
  show (ExceptT.bindCont f (x l).1) (x l).2 = _
  rcases x l with ⟨_ | a, m⟩ <;> rfl

theorem map_apply (f : α → β) (x : Reader α) (l : List UInt8) :
    (f <$> x) l = match x l with
      | (.ok a, m) => (.ok (f a), m)
      | (.error fault, m) => (.error fault, m) := by
  rw [map_eq_pure_bind, bind_apply]
  rfl

/-- A reader that succeeds hands on what it gives and what it leaves. -/
theorem bind_of_ok {x : Reader α} {l m : List UInt8} {a : α} (h : x l = (.ok a, m))
    (f : α → Reader β) : (x >>= f) l = f a m := by
  rw [bind_apply, h]

@[simp] theorem pure_apply (a : α) (l : List UInt8) : (pure a : Reader α) l = (.ok a, l) := rfl

@[simp] theorem get_apply (l : List UInt8) : (get : Reader (List UInt8)) l = (.ok l, l) := rfl

@[simp] theorem set_apply (l m : List UInt8) : (set m : Reader Unit) l = (.ok (), m) := rfl

@[simp] theorem peek?_apply (l : List UInt8) : peek? l = (.ok l.head?, l) := rfl

@[simp] theorem sees_apply (c : Char) (l : List UInt8) :
    sees c l = (.ok (l.head? == some (byte c)), l) := rfl

@[simp] theorem skip_apply (l : List UInt8) : skip l = (.ok (), l.drop 1) := rfl

/-- With a byte in front, it is seen and skipped. -/
theorem peek?_cons (b : UInt8) (l : List UInt8) : peek? (b :: l) = (.ok (some b), b :: l) := rfl

theorem skip_cons (b : UInt8) (l : List UInt8) : skip (b :: l) = (.ok (), l) := rfl

@[simp] theorem next?_apply (l : List UInt8) : next? l = (.ok l.head?, l.drop 1) := rfl

@[simp] theorem skipBlanks_apply (l : List UInt8) :
    skipBlanks l = (.ok (), l.dropWhile isBlankByte) := rfl

theorem digits_apply (l : List UInt8) :
    digits l = (.ok (l.takeWhile isDigitByte), l.dropWhile isDigitByte) := rfl

/-- What stands between brackets that are both right is given. -/
theorem enclosed_of_ok {inside : Reader α} {close : Reader Unit} {l m n : List UInt8} {a : α}
    (hinside : inside l = (.ok a, m)) (hclose : close m = (.ok (), n)) :
    enclosed inside close l = (.ok a, n) := by
  simp only [enclosed, hinside, hclose]

/-! ### Blanks -/

theorem ascii_blank (b : Blank) : b.char.toNat < 128 := by cases b <;> decide

theorem isBlankByte_blank (b : Blank) : isBlankByte (byte b.char) = true := by
  cases b <;> decide

@[simp] theorem blanks_nil : blanks [] = [] := rfl

@[simp] theorem dropWhile_blanks (l : List Blank) (rest : List UInt8) :
    (encode (blanks l) ++ rest).dropWhile isBlankByte = rest.dropWhile isBlankByte := by
  induction l with
  | nil => rfl
  | cons b l ih =>
    show (encode (b.char :: blanks l) ++ rest).dropWhile isBlankByte = _
    rw [encode_cons_ascii (ascii_blank b), List.cons_append,
      List.dropWhile_cons_of_pos (isBlankByte_blank b), ih]

/-- Blanks make no difference to a reader that leaves them behind. -/
theorem skipBlanks_bind_blanks (f : Unit → Reader α) (l : List Blank) (rest : List UInt8) :
    (skipBlanks >>= f) (encode (blanks l) ++ rest) = (skipBlanks >>= f) rest := by
  rw [bind_apply, bind_apply, skipBlanks_apply, skipBlanks_apply, dropWhile_blanks]

/-! ### What may follow a value -/

/-- The bytes left begin like those behind a value: with a blank, a comma or a
    closing bracket, unless there are none. -/
def Delimited (rest : List UInt8) : Prop :=
  ∀ b ∈ rest.head?, isBlankByte b = true ∨ b = byte ',' ∨ b = byte ']' ∨ b = byte '\x7d'

theorem Delimited.nil : Delimited [] := by
  intro b hb
  cases hb

theorem Delimited.comma (rest : List UInt8) : Delimited (byte ',' :: rest) := by
  intro b hb
  cases hb
  exact .inr (.inl rfl)

theorem Delimited.closing (b : Bracket) (rest : List UInt8) :
    Delimited (byte b.closing :: rest) := by
  intro c hc
  cases hc
  cases b
  · exact .inr (.inr (.inl rfl))
  · exact .inr (.inr (.inr rfl))

theorem Delimited.blanks (l : List Blank) {rest : List UInt8} (h : Delimited rest) :
    Delimited (encode (blanks l) ++ rest) := by
  cases l with
  | nil => exact h
  | cons b l =>
    intro c hc
    have hfront : encode (Payload.blanks (b :: l)) = byte b.char :: encode (Payload.blanks l) :=
      encode_cons_ascii (ascii_blank b) _
    rw [hfront] at hc
    cases hc
    exact .inl (isBlankByte_blank b)

/-- A value is not followed by a byte that would carry on a number. -/
theorem Delimited.not_numeral {rest : List UInt8} (h : Delimited rest) {b : UInt8}
    (hb : b ∈ rest.head?) :
    isDigitByte b = false ∧ b ≠ byte '.' ∧ b ≠ byte 'e' ∧ b ≠ byte 'E' := by
  have hall : ∀ b : UInt8, isBlankByte b = true ∨ b = byte ',' ∨ b = byte ']' ∨ b = byte '\x7d' →
      isDigitByte b = false ∧ b ≠ byte '.' ∧ b ≠ byte 'e' ∧ b ≠ byte 'E' := by
    intro b hb
    simp only [isBlankByte, Bool.or_eq_true, beq_iff_eq] at hb
    rcases hb with (((rfl | rfl) | rfl) | rfl) | rfl | rfl | rfl <;> decide
  exact hall b (h b hb)

/-! ### What stands before an item -/

theorem encode_gap_first (gap : Gap) : encode (gap.chars true) = encode (blanks gap.before) := by
  rw [Gap.chars, if_pos rfl, List.append_nil]

theorem encode_gap_later (gap : Gap) :
    encode (gap.chars false) =
      encode (blanks gap.before) ++ byte ',' :: encode (blanks gap.after) := by
  rw [Gap.chars, if_neg Bool.false_ne_true, encode_append, encode_cons_ascii (by decide)]

/-- A later item may follow a value. -/
theorem delimited_gap (gap : Gap) (rest : List UInt8) :
    Delimited (encode (gap.chars false) ++ rest) := by
  rw [encode_gap_later, List.append_assoc]
  exact .blanks gap.before (.comma _)

/-! ### What a value begins with -/

/-- A byte that a value may begin with: no blank, comma or closing bracket. -/
def isStart (b : UInt8) : Prop :=
  isBlankByte b = false ∧ b ≠ byte ',' ∧ b ≠ byte ']' ∧ b ≠ byte '\x7d'

instance (b : UInt8) : Decidable (isStart b) := by unfold isStart; infer_instance

theorem ne_of_isDigitByte {b d : UInt8} (h : isDigitByte b = true) (hd : isDigitByte d = false) :
    b ≠ d := by
  rintro rfl
  rw [hd] at h
  cases h

theorem isStart_of_isDigitByte {b : UInt8} (h : isDigitByte b = true) : isStart b := by
  refine ⟨?_, ne_of_isDigitByte h (by decide), ne_of_isDigitByte h (by decide),
    ne_of_isDigitByte h (by decide)⟩
  simp only [isBlankByte, Bool.or_eq_false_iff, beq_eq_false_iff_ne]
  refine ⟨⟨⟨?_, ?_⟩, ?_⟩, ?_⟩ <;> exact ne_of_isDigitByte h (by decide)

theorem skipBlanks_start {b : UInt8} (hb : isStart b) (rest : List UInt8) :
    skipBlanks (b :: rest) = (.ok (), b :: rest) := by
  rw [skipBlanks_apply, List.dropWhile_cons_of_neg (by simp [hb.1])]

/-- The text begins as a value does, and behind any blanks the reader takes it
    off the front of whatever may follow a value, and gives `a`. -/
structure Takes (r : Reader α) (text : List Char) (a : α) : Prop where
  start : ∃ b l, isStart b ∧ encode text = b :: l
  apply : ∀ (before : List Blank) (rest : List UInt8), Delimited rest →
    r (encode (blanks before) ++ (encode text ++ rest)) = (.ok a, rest)

end Reader

end Enhance.Payload
