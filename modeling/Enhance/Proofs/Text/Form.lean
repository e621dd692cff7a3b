/-
  Enhance/Proofs/Text/Form.lean
  =============================
  **Texts written after a form,** and numbers of a fixed width.

  A form such as `DD-MM-YYYY` stands for all texts that have a digit wherever
  the form has a letter, and agree with it elsewhere.  A number fits into as
  many letters as it is padded to, provided that it does not need more digits
  (`fits_padded`).
-/
import Enhance.Text.Bytes
import Mathlib.Algebra.Ring.Nat

namespace Enhance.Text

/-! ### Forms -/

/-- Whether a text follows a form: a letter of the form stands for a digit, any
    other character for itself. -/
def fits : List Char → List Char → Bool
  | [], [] => true
  | f :: form, c :: l => (if f.isAlpha then c.isDigit else c == f) && fits form l
  | [], _ :: _ => false
  | _ :: _, [] => false

/-- A text that follows a form is as long as the form. -/
theorem length_eq_of_fits {form l : List Char} (h : fits form l = true) :
    l.length = form.length := by
  induction form generalizing l with
  | nil => cases l with
    | nil => rfl
    | cons c rest => cases h
  | cons f form ih => cases l with
    | nil => cases h
    | cons c rest =>
      simp only [fits, Bool.and_eq_true] at h
      simp [ih h.2]

theorem fits_append {form l : List Char} (h : l.length = form.length) (form' l' : List Char) :
    fits (form ++ form') (l ++ l') = (fits form l && fits form' l') := by
  induction form generalizing l with
  | nil =>
    have hl : l = [] := List.length_eq_zero_iff.mp h
    subst hl
    rfl
  | cons f form ih => cases l with
    | nil => cases h
    | cons c rest =>
      have hr : rest.length = form.length := Nat.succ.inj h
      simp [fits, ih hr, Bool.and_assoc]

theorem fits_digits {form l : List Char} (h : l.length = form.length)
    (hform : ∀ f ∈ form, f.isAlpha = true) (hl : ∀ c ∈ l, c.isDigit = true) :
    fits form l = true := by
  induction form generalizing l with
  | nil =>
    have hnil : l = [] := List.length_eq_zero_iff.mp h
    subst hnil
    rfl
  | cons f form ih => cases l with
    | nil => cases h
    | cons c rest =>
      have hr : fits form rest = true :=
        ih (Nat.succ.inj h) (fun x hx => hform x (List.mem_cons_of_mem f hx))
          (fun x hx => hl x (List.mem_cons_of_mem c hx))
      simp [fits, hform f List.mem_cons_self, hl c List.mem_cons_self, hr]

/-! ### Padded numbers -/

theorem toList_padded (width n : Nat) :
    (padded width n).toList =
      List.replicate (width - (Nat.toDigits 10 n).length) '0' ++ Nat.toDigits 10 n := by
  simp [padded]

/-- A number that needs no more digits than its width takes up exactly that. -/
theorem length_padded {width n : Nat} (hw : 0 < width) (h : n < 10 ^ width) :
    (padded width n).toList.length = width := by
  have hle : (Nat.toDigits 10 n).length ≤ width :=
    (Nat.length_toDigits_le_iff (by omega) hw).mpr h
  rw [toList_padded, List.length_append, List.length_replicate]
  omega

theorem isDigit_of_mem_padded {width n : Nat} {c : Char} (h : c ∈ (padded width n).toList) :
    c.isDigit = true := by
  rw [toList_padded] at h
  rcases List.mem_append.mp h with h | h
  · rw [List.eq_of_mem_replicate h]
    decide
  · exact Nat.isDigit_of_mem_toDigits (by omega) (by omega) h

/-- A padded number fits into letters of its width. -/
theorem fits_padded {form : List Char} {width n : Nat} (hlen : form.length = width)
    (hform : ∀ f ∈ form, f.isAlpha = true) (hw : 0 < width) (h : n < 10 ^ width) :
    fits form (padded width n).toList = true :=
  fits_digits ((length_padded hw h).trans hlen.symm) hform fun _ hc => isDigit_of_mem_padded hc

end Enhance.Text
