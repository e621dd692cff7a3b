/-
  Enhance/Proofs/Text/Digits.lean
  ===============================
  **Decimal digits, as characters and as bytes.**

  Digits are ASCII, so a row of them has as many bytes as characters, and the
  same value among both (`digitBytesValue_encode`).  Filled up with zeros and
  cut off at some place, a row behind a point is worth what all its digits are
  worth there, rounded down (`ofDigitChars_take`).
-/
import Enhance.Proofs.Text.Form
import Enhance.Proofs.Text.Utf8

namespace Enhance.Text

/-! ### One digit -/

theorem isDigit_iff {c : Char} : c.isDigit = true ↔ 48 ≤ c.toNat ∧ c.toNat ≤ 57 := by
  simp only [Char.isDigit, Bool.and_eq_true, decide_eq_true_eq, ge_iff_le, UInt32.le_iff_toNat_le]
  rfl

theorem ascii_of_isDigit {c : Char} (h : c.isDigit = true) : c.toNat < 128 :=
  Nat.lt_of_le_of_lt (isDigit_iff.mp h).2 (by decide)

theorem isDigitByte_byte {c : Char} (h : c.isDigit = true) : isDigitByte (byte c) = true := by
  simp only [isDigitByte, Bool.and_eq_true, decide_eq_true_eq, UInt8.le_iff_toNat_le,
    toNat_byte (ascii_of_isDigit h)]
  exact isDigit_iff.mp h

theorem digitByteValue_byte {c : Char} (h : c.isDigit = true) :
    digitByteValue (byte c) = c.toNat - '0'.toNat := by
  rw [digitByteValue, toNat_byte (ascii_of_isDigit h)]
  rfl

/-- Digits have the same value among bytes as among characters. -/
theorem digitBytesValue_encode {l : List Char} (h : ∀ c ∈ l, c.isDigit = true) :
    digitBytesValue (encode l) = Nat.ofDigitChars 10 l 0 := by
  have hgen : ∀ n, (encode l).foldl (fun n b => 10 * n + digitByteValue b) n =
      Nat.ofDigitChars 10 l n := by
    induction l with
    | nil =>
      intro n
      rw [Nat.ofDigitChars_nil]
      rfl
    | cons c rest ih =>
      intro n
      have hc : c.isDigit = true := h c List.mem_cons_self
      have hrest := ih fun x hx => h x (List.mem_cons_of_mem c hx)
      rw [encode_cons_ascii (ascii_of_isDigit hc), List.foldl_cons, digitByteValue_byte hc, hrest,
        Nat.ofDigitChars_cons]
  exact hgen 0

theorem isDigitByte_of_mem_encode {l : List Char} (h : ∀ c ∈ l, c.isDigit = true) :
    ∀ b ∈ encode l, isDigitByte b = true := by
  intro b hb
  rw [encode_of_ascii fun c hc => ascii_of_isDigit (h c hc)] at hb
  obtain ⟨c, hc, rfl⟩ := List.mem_map.mp hb
  exact isDigitByte_byte (h c hc)

/-- Digits are taken up to the first byte that is none. -/
theorem takeWhile_digits {l : List Char} (h : ∀ c ∈ l, c.isDigit = true) {rest : List UInt8}
    (hrest : ∀ b ∈ rest.head?, isDigitByte b = false) :
    (encode l ++ rest).takeWhile isDigitByte = encode l := by
  rw [List.takeWhile_append_of_pos (isDigitByte_of_mem_encode h)]
  cases rest with
  | nil => rw [List.takeWhile_nil, List.append_nil]
  | cons b rest =>
    have hb : isDigitByte b = false := hrest b rfl
    rw [List.takeWhile_cons_of_neg (by simp [hb]), List.append_nil]

theorem dropWhile_digits {l : List Char} (h : ∀ c ∈ l, c.isDigit = true) {rest : List UInt8}
    (hrest : ∀ b ∈ rest.head?, isDigitByte b = false) :
    (encode l ++ rest).dropWhile isDigitByte = rest := by
  rw [List.dropWhile_append_of_pos (isDigitByte_of_mem_encode h)]
  cases rest with
  | nil => rfl
  | cons b rest =>
    have hb : isDigitByte b = false := hrest b rfl
    rw [List.dropWhile_cons_of_neg (by simp [hb])]

/-! ### Rows of digits -/

/-- One decimal digit or more. -/
structure DigitRow where
  chars : List Char
  nonempty : chars ≠ []
  digits : ∀ c ∈ chars, c.isDigit = true

theorem DigitRow.exists_encode (row : DigitRow) :
    ∃ c cs, row.chars = c :: cs ∧ c.isDigit = true ∧ (∀ d ∈ cs, d.isDigit = true) ∧
      encode row.chars = byte c :: encode cs := by
  obtain ⟨c, cs, hcs⟩ := List.exists_cons_of_ne_nil row.nonempty
  have hc : c.isDigit = true := row.digits c (by rw [hcs]; exact List.mem_cons_self)
  have hrest : ∀ d ∈ cs, d.isDigit = true := fun d hd =>
    row.digits d (by rw [hcs]; exact List.mem_cons_of_mem c hd)
  refine ⟨c, cs, hcs, hc, hrest, ?_⟩
  rw [hcs, encode_cons_ascii (ascii_of_isDigit hc)]

theorem DigitRow.isEmpty_encode (row : DigitRow) : (encode row.chars).isEmpty = false := by
  obtain ⟨c, cs, -, -, -, hrow⟩ := row.exists_encode
  rw [hrow]
  rfl

/-! ### Values of rows -/

theorem ofDigitChars_padded (width n : Nat) :
    Nat.ofDigitChars 10 (padded width n).toList 0 = n := by
  rw [toList_padded, Nat.ofDigitChars_append, Nat.ofDigitChars_replicate_zero, Nat.mul_zero,
    Nat.ofDigitChars_ten_toDigits]

/-- A row of digits is worth less than the power of ten of as many zeros. -/
theorem ofDigitChars_lt {l : List Char} (h : ∀ c ∈ l, c.isDigit = true) :
    Nat.ofDigitChars 10 l 0 < 10 ^ l.length := by
  induction l with
  | nil => decide
  | cons c rest ih =>
    have hc := isDigit_iff.mp (h c List.mem_cons_self)
    have hrest := ih fun x hx => h x (List.mem_cons_of_mem c hx)
    have hdigit : 10 * 0 + (c.toNat - '0'.toNat) ≤ 9 := by
      have hzero : '0'.toNat = 48 := rfl
      omega
    rw [Nat.ofDigitChars_cons, Nat.ofDigitChars_eq_ofDigitChars_zero, List.length_cons]
    calc 10 ^ rest.length * (10 * 0 + (c.toNat - '0'.toNat)) + Nat.ofDigitChars 10 rest 0
        ≤ 10 ^ rest.length * 9 + Nat.ofDigitChars 10 rest 0 :=
          Nat.add_le_add_right (Nat.mul_le_mul_left _ hdigit) _
      _ < 10 ^ rest.length * 9 + 10 ^ rest.length := Nat.add_lt_add_left hrest _
      _ = 10 ^ (rest.length + 1) := by rw [Nat.pow_succ]; omega

theorem isDigit_of_mem_zeros {l : List Char} (h : ∀ c ∈ l, c.isDigit = true) (places : Nat) :
    ∀ c ∈ l ++ List.replicate places '0', c.isDigit = true := by
  intro c hc
  rcases List.mem_append.mp hc with hc | hc
  · exact h c hc
  · rw [List.eq_of_mem_replicate hc]
    decide

/-- The first places behind a point hold the value of all digits, rounded
    down. -/
theorem ofDigitChars_take {l : List Char} (h : ∀ c ∈ l, c.isDigit = true) (places : Nat) :
    Nat.ofDigitChars 10 ((l ++ List.replicate places '0').take places) 0 =
      Nat.ofDigitChars 10 l 0 * 10 ^ places / 10 ^ l.length := by
  have hzeros := isDigit_of_mem_zeros h places
  have hall : Nat.ofDigitChars 10 (l ++ List.replicate places '0') 0 =
      Nat.ofDigitChars 10 l 0 * 10 ^ places := by
    rw [Nat.ofDigitChars_append, Nat.ofDigitChars_replicate_zero, Nat.mul_comm]
  have hlen : ((l ++ List.replicate places '0').drop places).length = l.length := by
    rw [List.length_drop, List.length_append, List.length_replicate, Nat.add_sub_cancel]
  have hcut : Nat.ofDigitChars 10 ((l ++ List.replicate places '0').drop places) 0 <
      10 ^ l.length := by
    rw [← hlen]
    exact ofDigitChars_lt fun c hc => hzeros c (List.mem_of_mem_drop hc)
  have hsplit : Nat.ofDigitChars 10 (l ++ List.replicate places '0') 0 =
      10 ^ l.length * Nat.ofDigitChars 10 ((l ++ List.replicate places '0').take places) 0 +
        Nat.ofDigitChars 10 ((l ++ List.replicate places '0').drop places) 0 := by
    calc Nat.ofDigitChars 10 (l ++ List.replicate places '0') 0
        = Nat.ofDigitChars 10 ((l ++ List.replicate places '0').drop places)
            (Nat.ofDigitChars 10 ((l ++ List.replicate places '0').take places) 0) := by
          rw [← Nat.ofDigitChars_append, List.take_append_drop]
      _ = _ := by rw [Nat.ofDigitChars_eq_ofDigitChars_zero, hlen]
  rw [← hall, hsplit, Nat.mul_add_div (Nat.pow_pos (by decide)), Nat.div_eq_of_lt hcut,
    Nat.add_zero]

/-- The same among bytes. -/
theorem digitBytesValue_take {l : List Char} (h : ∀ c ∈ l, c.isDigit = true) (places : Nat) :
    digitBytesValue ((encode l ++ List.replicate places (byte '0')).take places) =
      Nat.ofDigitChars 10 l 0 * 10 ^ places / 10 ^ l.length := by
  have hzeros := isDigit_of_mem_zeros h places
  have hbytes : (encode l ++ List.replicate places (byte '0')).take places =
      encode ((l ++ List.replicate places '0').take places) := by
    rw [encode_of_ascii fun c hc => ascii_of_isDigit (h c hc),
      encode_of_ascii fun c hc => ascii_of_isDigit (hzeros c (List.mem_of_mem_take hc)),
      List.map_take, List.map_append, List.map_replicate]
  rw [hbytes, digitBytesValue_encode fun c hc => hzeros c (List.mem_of_mem_take hc),
    ofDigitChars_take h]

end Enhance.Text
