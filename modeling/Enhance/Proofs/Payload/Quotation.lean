/-
  Enhance/Proofs/Payload/Quotation.lean
  =====================================
  **Written strings are read as they are meant.**

  A string is read in rounds.  A character that stands for itself takes one
  round for each of its bytes, none of which is a quote, a backslash or a
  control character; an escape takes one round.  Putting the glyphs of a string
  one behind the other adds up their rounds (`textLoop_glyphs`), and there are
  enough of them because every round leaves a byte behind.
-/
import Enhance.Payload.Quotation
import Enhance.Proofs.Payload.Reader

namespace Enhance.Payload

open Text

/-! ### Plain characters -/

/-- A byte that stands for itself in a string. -/
def isPlainByte (b : UInt8) : Prop := b ≠ byte '"' ∧ b ≠ byte '\\' ∧ ¬ b < 32

theorem isPlain_iff {c : Char} :
    isPlain c = true ↔ 0x20 ≤ c.toNat ∧ c ≠ '"' ∧ c ≠ '\\' := by
  simp only [isPlain, Bool.and_eq_true, decide_eq_true_eq, bne_iff_ne, and_assoc]

/-- Every byte of a plain character stands for itself. -/
theorem isPlainByte_of_mem {c : Char} (h : isPlain c = true) {b : UInt8}
    (hb : b ∈ String.utf8EncodeChar c) : isPlainByte b := by
  obtain ⟨hlow, hquote, hbackslash⟩ := isPlain_iff.mp h
  by_cases hc : c.toNat < 128
  · rw [utf8EncodeChar_of_ascii hc, List.mem_singleton] at hb
    subst hb
    refine ⟨?_, ?_, ?_⟩
    · rwa [ne_eq, byte_eq_byte_iff hc (by decide)]
    · rwa [ne_eq, byte_eq_byte_iff hc (by decide)]
    · rw [UInt8.lt_iff_toNat_lt, toNat_byte hc]
      exact Nat.not_lt.mpr hlow
  · have hhigh : 128 ≤ b.toNat := le_of_mem_utf8EncodeChar (Nat.not_lt.mp hc) hb
    have hne : ∀ d : Char, d.toNat < 128 → b ≠ byte d := by
      intro d hd hbd
      rw [hbd, toNat_byte hd] at hhigh
      omega
    refine ⟨hne '"' (by decide), hne '\\' (by decide), ?_⟩
    rw [UInt8.lt_iff_toNat_lt]
    exact Nat.not_lt.mpr (Nat.le_trans (by decide) hhigh)

/-! ### Escapes -/

namespace HexDigit

theorem ascii (d : HexDigit) : d.char.toNat < 128 := by
  have hall : ∀ (value : Fin 16) (capital : Bool),
      (HexDigit.mk value capital).char.toNat < 128 := by
    decide
  exact hall d.value d.capital

theorem hexByteValue?_char (d : HexDigit) : hexByteValue? (byte d.char) = some d.value.val := by
  have hall : ∀ (value : Fin 16) (capital : Bool),
      hexByteValue? (byte (HexDigit.mk value capital).char) = some value.val := by
    decide
  exact hall d.value d.capital

end HexDigit

theorem HexUnit.encode_chars (u : HexUnit) :
    encode u.chars =
      [byte u.first.char, byte u.second.char, byte u.third.char, byte u.fourth.char] := by
  rw [encode_of_ascii]
  · rfl
  · intro c hc
    simp only [chars, List.mem_cons, List.not_mem_nil, or_false] at hc
    rcases hc with rfl | rfl | rfl | rfl <;> exact HexDigit.ascii _

theorem Shorthand.ascii_letter (s : Shorthand) : s.letter.toNat < 128 := by cases s <;> decide

namespace Piece

def bytes (p : Piece) : List UInt8 := encode p.chars

theorem bytes_plain (c : Char) (h : isPlain c = true) :
    (plain c h).bytes = String.utf8EncodeChar c := by
  simp [bytes, chars, encode]

theorem bytes_shorthand (s : Shorthand) :
    (shorthand s).bytes = [byte '\\', byte s.letter] := by
  rw [bytes, chars, encode_cons_ascii (by decide), encode_cons_ascii s.ascii_letter, encode_nil]

theorem bytes_unit (u : HexUnit) :
    (unit u).bytes = byte '\\' :: byte 'u' :: encode u.chars := by
  rw [bytes, chars, encode_cons_ascii (by decide), encode_cons_ascii (by decide)]

theorem encode_flatMap_chars (l : List Piece) :
    encode (l.flatMap chars) = l.flatMap bytes := List.flatMap_assoc

end Piece

/-- Where every round leaves a byte behind, there are bytes for all of them. -/
theorem sum_rounds_le {α : Type} {rounds : α → Nat} {bytes : α → List UInt8}
    (h : ∀ a, rounds a ≤ (bytes a).length) (l : List α) :
    (l.map rounds).sum ≤ (l.flatMap bytes).length := by
  induction l with
  | nil => exact Nat.le_refl _
  | cons a l ih =>
    have ha := h a
    rw [List.map_cons, List.sum_cons, List.flatMap_cons, List.length_append]
    omega

/-- Among one round more than there are bytes, some are left for what follows. -/
theorem exists_rounds_left {rounds : Nat} {l : List UInt8} (h : rounds ≤ l.length)
    (rest : List UInt8) : ∃ n, (l ++ rest).length + 1 = n + 1 + rounds := by
  refine ⟨(l ++ rest).length - rounds, ?_⟩
  rw [List.length_append]
  omega

namespace Reader

theorem letterEscape?_letter (s : Shorthand) :
    letterEscape? (byte s.letter) = some s.char := by
  cases s <;> decide

theorem hex4_apply (u : HexUnit) (rest : List UInt8) :
    hex4 (encode u.chars ++ rest) = (.ok u.value, rest) := by
  have hlen : ¬ (encode u.chars ++ rest).length < 4 := by
    simp only [HexUnit.encode_chars, List.length_append, List.length_cons, List.length_nil]
    omega
  have hvalue : hexValue? ((encode u.chars ++ rest).take 4) = some u.value := by
    simp [HexUnit.encode_chars, hexValue?, HexDigit.hexByteValue?_char, HexUnit.value]
  have hdrop : (encode u.chars ++ rest).drop 4 = rest := by simp [HexUnit.encode_chars]
  simp only [hex4, bind_apply, get_apply, set_apply, pure_apply, if_neg hlen, hvalue, hdrop]

theorem escape_shorthand (s : Shorthand) (rest : List UInt8) :
    escape (byte s.letter :: rest) = (.ok s.char, rest) := by
  simp [escape, bind_apply, letterEscape?_letter]

theorem escape_unit (u : HexUnit) (h : ¬ u.isFirstHalf ∧ ¬ u.isSecondHalf) (rest : List UInt8) :
    escape (byte 'u' :: (encode u.chars ++ rest)) = (.ok (Char.ofNat u.value), rest) := by
  have hu : letterEscape? (byte 'u') = none := by decide
  have hfirst : isFirstHalf u.value = false := by
    simpa [isFirstHalf, HexUnit.isFirstHalf] using h.1
  have hsecond : isSecondHalf u.value = false := by
    simpa [isSecondHalf, HexUnit.isSecondHalf] using h.2
  simp [escape, bind_apply, hu, unitEscape, hex4_apply, hfirst, hsecond]

theorem escape_pair (u v : HexUnit) (hu : u.isFirstHalf) (hv : v.isSecondHalf)
    (rest : List UInt8) :
    escape (byte 'u' :: (encode u.chars ++ (byte '\\' :: byte 'u' :: (encode v.chars ++ rest)))) =
      (.ok (Glyph.pair u v hu hv).char, rest) := by
  have hletter : letterEscape? (byte 'u') = none := by decide
  have hfirst : isFirstHalf u.value = true := by
    simpa [isFirstHalf, HexUnit.isFirstHalf] using hu
  have hnot : isSecondHalf u.value = false := by
    simp only [isSecondHalf, Bool.and_eq_false_iff, decide_eq_false_iff_not]
    have hle := hu.2
    left
    omega
  have hsecond : isSecondHalf v.value = true := by
    simpa [isSecondHalf, HexUnit.isSecondHalf] using hv
  simp [escape, bind_apply, hletter, unitEscape, pairMark, hex4_apply, hfirst, hnot, hsecond,
    Glyph.char]

/-! ### Strings that are asked for -/

theorem textLoop_plain {l : List UInt8} (h : ∀ b ∈ l, isPlainByte b) (n : Nat)
    (sofar rest : List UInt8) :
    textLoop (n + l.length) sofar (l ++ rest) = textLoop n (l.reverse ++ sofar) rest := by
  induction l generalizing sofar with
  | nil => rfl
  | cons b l ih =>
    obtain ⟨hquote, hbackslash, hcontrol⟩ := h b List.mem_cons_self
    have hl : ∀ b ∈ l, isPlainByte b := fun x hx => h x (List.mem_cons_of_mem b hx)
    have hround : textLoop (n + (b :: l).length) sofar (b :: (l ++ rest)) =
        textLoop (n + l.length) (b :: sofar) (l ++ rest) := by
      simp [textLoop, ← Nat.add_assoc, bind_apply, hquote, hbackslash, hcontrol]
    rw [List.cons_append, hround, ih hl, List.reverse_cons, List.append_assoc]
    rfl

theorem textLoop_escape {l m : List UInt8} {c : Char} (h : escape l = (.ok c, m)) (n : Nat)
    (sofar : List UInt8) :
    textLoop (n + 1) sofar (byte '\\' :: l) =
      textLoop n ((String.utf8EncodeChar c).reverse ++ sofar) m := by
  have hne : byte '\\' ≠ byte '"' := by decide
  simp [textLoop, bind_apply, hne, h]

theorem textLoop_quote (n : Nat) (sofar rest : List UInt8) :
    textLoop (n + 1) sofar (byte '"' :: rest) = (.ok sofar.reverse, rest) := by
  simp [textLoop, bind_apply]

end Reader

namespace Glyph

/-- The rounds that reading a glyph takes. -/
def rounds : Glyph → Nat
  | plain c _ => (String.utf8EncodeChar c).length
  | _ => 1

def bytes (g : Glyph) : List UInt8 := g.pieces.flatMap Piece.bytes

theorem bytes_plain (c : Char) (h : isPlain c = true) :
    (plain c h).bytes = String.utf8EncodeChar c := by
  rw [bytes, pieces, List.flatMap_singleton, Piece.bytes_plain]

theorem bytes_shorthand (s : Shorthand) :
    (shorthand s).bytes = [byte '\\', byte s.letter] := by
  rw [bytes, pieces, List.flatMap_singleton, Piece.bytes_shorthand]

theorem bytes_unit (u : HexUnit) (h : ¬ u.isFirstHalf ∧ ¬ u.isSecondHalf) :
    (unit u h).bytes = byte '\\' :: byte 'u' :: encode u.chars := by
  rw [bytes, pieces, List.flatMap_singleton, Piece.bytes_unit]

theorem bytes_pair (u v : HexUnit) (hu : u.isFirstHalf) (hv : v.isSecondHalf) :
    (pair u v hu hv).bytes =
      byte '\\' :: byte 'u' :: (encode u.chars ++ byte '\\' :: byte 'u' :: encode v.chars) := by
  rw [bytes, pieces, List.flatMap_cons, List.flatMap_singleton, Piece.bytes_unit, Piece.bytes_unit]
  rfl

theorem rounds_le (g : Glyph) : g.rounds ≤ g.bytes.length := by
  cases g with
  | plain c h => rw [bytes_plain]; exact Nat.le_refl _
  | shorthand s => rw [bytes_shorthand]; simp [rounds]
  | unit u h => rw [bytes_unit]; simp [rounds]
  | pair u v hu hv => rw [bytes_pair]; simp [rounds]

end Glyph

namespace Reader

theorem textLoop_glyph (g : Glyph) (n : Nat) (sofar rest : List UInt8) :
    textLoop (n + g.rounds) sofar (g.bytes ++ rest) =
      textLoop n ((String.utf8EncodeChar g.char).reverse ++ sofar) rest := by
  cases g with
  | plain c h =>
    rw [Glyph.bytes_plain]
    exact textLoop_plain (fun _ hb => isPlainByte_of_mem h hb) n sofar rest
  | shorthand s =>
    rw [Glyph.bytes_shorthand]
    exact textLoop_escape (escape_shorthand s rest) n sofar
  | unit u h =>
    rw [Glyph.bytes_unit]
    exact textLoop_escape (escape_unit u h rest) n sofar
  | pair u v hu hv =>
    have hescape := escape_pair u v hu hv rest
    rw [Glyph.bytes_pair]
    simp only [List.cons_append, List.append_assoc]
    exact textLoop_escape hescape n sofar

theorem textLoop_glyphs (l : List Glyph) (n : Nat) (sofar rest : List UInt8) :
    textLoop (n + (l.map Glyph.rounds).sum) sofar (l.flatMap Glyph.bytes ++ rest) =
      textLoop n ((encode (l.map Glyph.char)).reverse ++ sofar) rest := by
  induction l generalizing sofar with
  | nil => rfl
  | cons g l ih =>
    have hn : n + ((g :: l).map Glyph.rounds).sum = n + (l.map Glyph.rounds).sum + g.rounds := by
      rw [List.map_cons, List.sum_cons]
      omega
    have hchars : (encode ((g :: l).map Glyph.char)).reverse =
        (encode (l.map Glyph.char)).reverse ++ (String.utf8EncodeChar g.char).reverse := by
      rw [List.map_cons, encode, List.flatMap_cons, List.reverse_append]
      rfl
    rw [hn, List.flatMap_cons, List.append_assoc, textLoop_glyph, ih, hchars, List.append_assoc]

end Reader

/-! ### Strings that nobody asks for -/

namespace Piece

/-- The rounds that passing over a piece takes. -/
def rounds : Piece → Nat
  | plain c _ => (String.utf8EncodeChar c).length
  | _ => 1

theorem rounds_le (p : Piece) : p.rounds ≤ p.bytes.length := by
  cases p with
  | plain c h => rw [bytes_plain]; exact Nat.le_refl _
  | shorthand s => rw [bytes_shorthand]; simp [rounds]
  | unit u => rw [bytes_unit]; simp [rounds]

end Piece

namespace Reader

theorem skipTextLoop_plain {l : List UInt8} (h : ∀ b ∈ l, isPlainByte b) (n : Nat)
    (rest : List UInt8) : skipTextLoop (n + l.length) (l ++ rest) = skipTextLoop n rest := by
  induction l with
  | nil => rfl
  | cons b l ih =>
    obtain ⟨hquote, hbackslash, hcontrol⟩ := h b List.mem_cons_self
    have hl : ∀ b ∈ l, isPlainByte b := fun x hx => h x (List.mem_cons_of_mem b hx)
    have hround : skipTextLoop (n + (b :: l).length) (b :: (l ++ rest)) =
        skipTextLoop (n + l.length) (l ++ rest) := by
      simp [skipTextLoop, ← Nat.add_assoc, bind_apply, hquote, hbackslash, hcontrol]
    rw [List.cons_append, hround, ih hl]

theorem skipTextLoop_escape {l m : List UInt8} (h : skipEscape l = (.ok (), m)) (n : Nat) :
    skipTextLoop (n + 1) (byte '\\' :: l) = skipTextLoop n m := by
  have hne : byte '\\' ≠ byte '"' := by decide
  simp [skipTextLoop, bind_apply, hne, h]

theorem skipTextLoop_piece (p : Piece) (n : Nat) (rest : List UInt8) :
    skipTextLoop (n + p.rounds) (p.bytes ++ rest) = skipTextLoop n rest := by
  cases p with
  | plain c h =>
    rw [Piece.bytes_plain]
    exact skipTextLoop_plain (fun _ hb => isPlainByte_of_mem h hb) n rest
  | shorthand s =>
    have hescape : skipEscape (byte s.letter :: rest) = (.ok (), rest) := by
      simp [skipEscape, bind_apply, letterEscape?_letter]
    rw [Piece.bytes_shorthand]
    exact skipTextLoop_escape hescape n
  | unit u =>
    have hletter : letterEscape? (byte 'u') = none := by decide
    have hescape : skipEscape (byte 'u' :: (encode u.chars ++ rest)) = (.ok (), rest) := by
      simp only [skipEscape, bind_apply, next?_apply, pure_apply, List.head?_cons,
        List.drop_succ_cons, List.drop_zero, hletter, Option.isSome_none, Bool.false_eq_true,
        if_false, if_true, hex4_apply]
    rw [Piece.bytes_unit]
    exact skipTextLoop_escape hescape n

theorem skipTextLoop_pieces (l : List Piece) (n : Nat) (rest : List UInt8) :
    skipTextLoop (n + (l.map Piece.rounds).sum) (l.flatMap Piece.bytes ++ rest) =
      skipTextLoop n rest := by
  induction l with
  | nil => rfl
  | cons p l ih =>
    have hn : n + ((p :: l).map Piece.rounds).sum = n + (l.map Piece.rounds).sum + p.rounds := by
      rw [List.map_cons, List.sum_cons]
      omega
    rw [hn, List.flatMap_cons, List.append_assoc, skipTextLoop_piece, ih]

end Reader

/-! ### Whole strings -/

theorem encode_quoted (l : List Piece) :
    encode (quoted l) = byte '"' :: (l.flatMap Piece.bytes ++ [byte '"']) := by
  rw [quoted, encode_cons_ascii (by decide), encode_append, Piece.encode_flatMap_chars,
    encode_cons_ascii (by decide), encode_nil]

theorem StringText.encode_chars (t : StringText) :
    encode t.chars = byte '"' :: (t.glyphs.flatMap Glyph.bytes ++ [byte '"']) := by
  rw [chars, encode_quoted, List.flatMap_assoc]
  rfl

namespace Reader

/-- A string that is asked for is read, behind its opening quote, as the
    characters that are meant. -/
theorem text_apply (t : StringText) (rest : List UInt8) :
    text (t.glyphs.flatMap Glyph.bytes ++ [byte '"'] ++ rest) = (.ok (encode t.means), rest) := by
  obtain ⟨n, hn⟩ := exists_rounds_left (sum_rounds_le Glyph.rounds_le t.glyphs)
    ([byte '"'] ++ rest)
  rw [List.append_assoc, text, bind_of_ok (get_apply _), hn, textLoop_glyphs, List.singleton_append,
    textLoop_quote]
  simp [StringText.means]

/-- A string that nobody asks for is passed over. -/
theorem skipText_apply (l : List Piece) (rest : List UInt8) :
    skipText (l.flatMap Piece.bytes ++ [byte '"'] ++ rest) = (.ok (), rest) := by
  obtain ⟨n, hn⟩ := exists_rounds_left (sum_rounds_le Piece.rounds_le l) ([byte '"'] ++ rest)
  rw [List.append_assoc, skipText, bind_of_ok (get_apply _), hn, skipTextLoop_pieces]
  simp [skipTextLoop, bind_apply]

end Reader

end Enhance.Payload
