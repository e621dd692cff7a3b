/-
  Enhance/Proofs/Text/Utf8.lean
  =============================
  **Characters as bytes of UTF-8.**

  An ASCII character is one byte, and every byte of another character is at
  least 128 (`le_of_mem_utf8EncodeChar`).  So a byte below 128 always stands
  for an ASCII character of its own and never for a part of another one, which
  is what lets a text be taken apart byte by byte.
-/
import Enhance.Text.Bytes

namespace Enhance.Text

/-- The bytes of a row of characters. -/
def encode (l : List Char) : List UInt8 := l.flatMap String.utf8EncodeChar

theorem bytes_ofList (l : List Char) : bytes (String.ofList l) = encode l := by
  rw [bytes, String.toList_ofList, encode]

@[simp] theorem encode_nil : encode [] = [] := rfl

@[simp] theorem encode_append (l r : List Char) : encode (l ++ r) = encode l ++ encode r :=
  List.flatMap_append

theorem utf8EncodeChar_of_ascii {c : Char} (h : c.toNat < 128) :
    String.utf8EncodeChar c = [byte c] := by
  have hle : c.val.toNat ≤ 127 := Nat.le_of_lt_succ h
  simp only [String.utf8EncodeChar, if_pos hle, byte]
  rfl

/-- An ASCII character stands in front of the bytes of the rest. -/
theorem encode_cons_ascii {c : Char} (h : c.toNat < 128) (l : List Char) :
    encode (c :: l) = byte c :: encode l := by
  rw [encode, List.flatMap_cons, utf8EncodeChar_of_ascii h]
  rfl

theorem encode_of_ascii {l : List Char} (h : ∀ c ∈ l, c.toNat < 128) :
    encode l = l.map byte := by
  induction l with
  | nil => rfl
  | cons c rest ih =>
    rw [encode_cons_ascii (h c List.mem_cons_self), List.map_cons,
      ih fun x hx => h x (List.mem_cons_of_mem c hx)]

theorem encode_injective : Function.Injective encode := by
  intro l m h
  have hbytes : (String.ofList l).toByteArray = (String.ofList m).toByteArray := by
    rw [String.toByteArray_ofList, String.toByteArray_ofList, List.utf8Encode, List.utf8Encode]
    exact congrArg List.toByteArray h
  have hchars := congrArg String.toList (String.toByteArray_inj.mp hbytes)
  rwa [String.toList_ofList, String.toList_ofList] at hchars

/-- A character beyond ASCII has no byte below 128. -/
theorem le_of_mem_utf8EncodeChar {c : Char} (h : 128 ≤ c.toNat) {b : UInt8}
    (hb : b ∈ String.utf8EncodeChar c) : 128 ≤ b.toNat := by
  have hlead : ∀ n k : Nat, 128 ≤ k → n + k < 256 → 128 ≤ (UInt8.ofNat (n + k)).toNat := by
    intro n k hk hlt
    rw [UInt8.toNat_ofNat_of_lt' hlt]
    omega
  have hn : ¬ c.val.toNat ≤ 127 := Nat.not_le.mpr h
  simp only [String.utf8EncodeChar, if_neg hn] at hb
  split at hb
  · simp only [List.mem_cons, List.not_mem_nil, or_false] at hb
    rcases hb with rfl | rfl <;> exact hlead _ _ (by omega) (by omega)
  · split at hb
    · simp only [List.mem_cons, List.not_mem_nil, or_false] at hb
      rcases hb with rfl | rfl | rfl <;> exact hlead _ _ (by omega) (by omega)
    · simp only [List.mem_cons, List.not_mem_nil, or_false] at hb
      rcases hb with rfl | rfl | rfl | rfl <;> exact hlead _ _ (by omega) (by omega)

/-! ### ASCII among bytes -/

theorem toNat_byte {c : Char} (h : c.toNat < 128) : (byte c).toNat = c.toNat :=
  UInt8.toNat_ofNat_of_lt' (Nat.lt_trans h (by decide))

theorem byte_eq_byte_iff {c d : Char} (hc : c.toNat < 128) (hd : d.toNat < 128) :
    byte c = byte d ↔ c = d := by
  rw [← UInt8.toNat_inj, toNat_byte hc, toNat_byte hd, Char.toNat_inj]

end Enhance.Text
