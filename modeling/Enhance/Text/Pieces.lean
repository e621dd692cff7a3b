/-
  Enhance/Text/Pieces.lean
  ========================
  **Cutting a text at separators.**

  `pieces sep l` is what lies between the separators of `l`, in order, empty
  pieces included: a text with `n` separators has `n + 1` pieces.
-/

namespace Enhance.Text

/-- What lies between the characters that satisfy `sep`. -/
def pieces (sep : Char → Bool) : List Char → List (List Char)
  | [] => [[]]
  | c :: rest =>
    if sep c then [] :: pieces sep rest
    else
      match pieces sep rest with
      | [] => [[c]]
      | w :: ws => (c :: w) :: ws

/-- One piece more than there are separators. -/
theorem length_pieces (sep : Char → Bool) (l : List Char) :
    (pieces sep l).length = l.countP sep + 1 := by
  induction l with
  | nil => rfl
  | cons c rest ih =>
    by_cases h : sep c = true
    · simp [pieces, h, ih]
    · cases hp : pieces sep rest with
      | nil => simp [hp] at ih
      | cons w ws => simp [pieces, h, hp] at ih ⊢; exact ih

theorem pieces_of_no_separator {sep : Char → Bool} {l : List Char} (h : ∀ c ∈ l, sep c = false) :
    pieces sep l = [l] := by
  induction l with
  | nil => rfl
  | cons c rest ih =>
    have hc : sep c = false := h c (by simp)
    have hr := ih fun x hx => h x (by simp [hx])
    simp [pieces, hc, hr]

/-- A separator ends the piece before it. -/
theorem pieces_append_separator {sep : Char → Bool} {l : List Char} {c : Char} (r : List Char)
    (h : ∀ x ∈ l, sep x = false) (hc : sep c = true) :
    pieces sep (l ++ c :: r) = l :: pieces sep r := by
  induction l with
  | nil => simp [pieces, hc]
  | cons x rest ih =>
    have hx : sep x = false := h x (by simp)
    have hr := ih fun y hy => h y (by simp [hy])
    simp [pieces, hx, hr]

end Enhance.Text
