/-
  Enhance/Proofs/Page/Strike.lean
  ===============================
  **A list with some entries struck out.**

  What is left moves up, so each entry gets a new number.  Whatever is looked up
  in the list and concerns what is left only is found again under the new number,
  and what concerns the struck entries only is not found any more.
-/
import Mathlib.Data.Nat.Count

namespace Enhance

variable {α : Type} {gone : Nat → Bool} {i j : Nat} {a : α} {l : List α} {p : α → Bool}

/-- A list without the entries of some numbers. -/
def strike (gone : Nat → Bool) : List α → List α
  | [] => []
  | a :: rest =>
    if gone 0 then strike (fun i => gone (i + 1)) rest
    else a :: strike (fun i => gone (i + 1)) rest

/-- The number that an entry has then: those left before it count only. -/
def rank (gone : Nat → Bool) (i : Nat) : Nat := Nat.count (fun j => gone j = false) i

/-! ### Numbers -/

@[simp] theorem rank_zero : rank gone 0 = 0 := Nat.count_zero _

theorem rank_succ (gone : Nat → Bool) (i : Nat) :
    rank gone (i + 1) =
      rank (fun j => gone (j + 1)) i + if gone 0 then 0 else 1 := by
  unfold rank
  rw [Nat.count_succ']
  cases gone 0 <;> rfl

theorem rank_inj (hi : gone i = false) (hj : gone j = false) :
    rank gone i = rank gone j ↔ i = j :=
  ⟨Nat.count_injective hi hj, congrArg _⟩

/-- Whether a number is in a list of numbers that are all left. -/
theorem contains_map_rank {l : List Nat} (hl : ∀ i ∈ l, gone i = false) (hj : gone j = false) :
    (l.map (rank gone)).contains (rank gone j) = l.contains j := by
  rw [Bool.eq_iff_iff, List.contains_iff_mem, List.contains_iff_mem, List.mem_map]
  constructor
  · rintro ⟨i, hi, heq⟩
    exact (rank_inj (hl i hi) hj).mp heq ▸ hi
  · exact fun h => ⟨j, h, rfl⟩

/-- A number is taken out of a list of numbers that are all left. -/
theorem filter_map_rank {l : List Nat} (hl : ∀ i ∈ l, gone i = false) (hj : gone j = false) :
    (l.map (rank gone)).filter (fun m => m ≠ rank gone j) =
      (l.filter fun m => m ≠ j).map (rank gone) := by
  rw [List.filter_map]
  refine congrArg _ (List.filter_congr fun i hi => ?_)
  exact decide_eq_decide.mpr (not_congr (rank_inj (hl i hi) hj))

/-! ### Entries -/

theorem strike_cons_of_gone (h : gone 0 = true) (a : α) (l : List α) :
    strike gone (a :: l) = strike (fun i => gone (i + 1)) l := if_pos h

theorem strike_cons_of_kept (h : gone 0 = false) (a : α) (l : List α) :
    strike gone (a :: l) = a :: strike (fun i => gone (i + 1)) l :=
  if_neg (by rw [h]; exact Bool.false_ne_true)

theorem length_strike (gone : Nat → Bool) (l : List α) :
    (strike gone l).length = rank gone l.length := by
  induction l generalizing gone with
  | nil => rfl
  | cons a rest ih =>
    rw [List.length_cons, rank_succ]
    cases h : gone 0 with
    | true => rw [strike_cons_of_gone h, ih]; rfl
    | false => rw [strike_cons_of_kept h, List.length_cons, ih]; rfl

theorem getElem?_strike (hi : gone i = false) (l : List α) :
    (strike gone l)[rank gone i]? = l[i]? := by
  induction l generalizing gone i with
  | nil => simp [strike]
  | cons a rest ih =>
    cases i with
    | zero => rw [strike_cons_of_kept hi, rank_zero]; rfl
    | succ i =>
      have hrest := @ih (fun j => gone (j + 1)) i hi
      rw [rank_succ, List.getElem?_cons_succ, ← hrest]
      cases h : gone 0 with
      | true => rw [strike_cons_of_gone h]; rfl
      | false => rw [strike_cons_of_kept h]; rfl

theorem strike_append (h : gone l.length = false) (a : α) :
    strike gone (l ++ [a]) = strike gone l ++ [a] := by
  induction l generalizing gone with
  | nil => exact strike_cons_of_kept h a []
  | cons b rest ih =>
    have hrest := @ih (fun j => gone (j + 1)) h
    rw [List.cons_append]
    cases h0 : gone 0 with
    | true => rw [strike_cons_of_gone h0, strike_cons_of_gone h0, hrest]
    | false => rw [strike_cons_of_kept h0, strike_cons_of_kept h0, hrest]; rfl

/-! ### Changes -/

/-- A change of what is left. -/
theorem strike_modify (hi : gone i = false) (l : List α) (f : α → α) :
    strike gone (l.modify i f) = (strike gone l).modify (rank gone i) f := by
  induction l generalizing gone i with
  | nil => simp [strike]
  | cons a rest ih =>
    cases i with
    | zero =>
      rw [List.modify_zero_cons, strike_cons_of_kept hi, strike_cons_of_kept hi, rank_zero,
        List.modify_zero_cons]
    | succ i =>
      have hrest := @ih (fun j => gone (j + 1)) i hi
      rw [List.modify_succ_cons, rank_succ]
      cases h0 : gone 0 with
      | true => rw [strike_cons_of_gone h0, strike_cons_of_gone h0, hrest]; rfl
      | false =>
        rw [strike_cons_of_kept h0, strike_cons_of_kept h0, hrest]
        exact (List.modify_succ_cons f a _ _).symm

/-- A change of what is struck out. -/
theorem strike_modify_of_gone (hi : gone i = true) (l : List α) (f : α → α) :
    strike gone (l.modify i f) = strike gone l := by
  induction l generalizing gone i with
  | nil => simp
  | cons a rest ih =>
    cases i with
    | zero => rw [List.modify_zero_cons, strike_cons_of_gone hi, strike_cons_of_gone hi]
    | succ i =>
      have hrest := @ih (fun j => gone (j + 1)) i hi
      rw [List.modify_succ_cons]
      cases h0 : gone 0 with
      | true => rw [strike_cons_of_gone h0, strike_cons_of_gone h0, hrest]
      | false => rw [strike_cons_of_kept h0, strike_cons_of_kept h0, hrest]

/-! ### Searches -/

/-- The first of some entries that are all left. -/
theorem findIdx?_strike (hp : ∀ i a, l[i]? = some a → p a = true → gone i = false) :
    (strike gone l).findIdx? p = (l.findIdx? p).map (rank gone) := by
  induction l generalizing gone with
  | nil => rfl
  | cons a rest ih =>
    have hrest := @ih (fun j => gone (j + 1)) fun i => hp (i + 1)
    have hnumbers : ((rest.findIdx? p).map (· + 1)).map (rank gone) =
        ((rest.findIdx? p).map (rank fun j => gone (j + 1))).map
          (· + if gone 0 then 0 else 1) := by
      rw [Option.map_map, Option.map_map]
      exact Option.map_congr fun i _ => rank_succ gone i
    rw [List.findIdx?_cons]
    cases h0 : gone 0 with
    | true =>
      have ha : p a = false := Bool.eq_false_iff.mpr fun ha => by
        rw [hp 0 a rfl ha] at h0
        cases h0
      rw [strike_cons_of_gone h0, hrest, ha, if_neg Bool.false_ne_true, hnumbers, h0]
      simp [Function.comp_def]
    | false =>
      rw [strike_cons_of_kept h0, List.findIdx?_cons, hrest]
      cases p a with
      | true => rfl
      | false =>
        rw [if_neg Bool.false_ne_true, if_neg Bool.false_ne_true, hnumbers, h0,
          if_neg Bool.false_ne_true]

/-- None is left of some entries that are all struck out. -/
theorem any_strike (hp : ∀ i a, l[i]? = some a → p a = true → gone i = true) :
    ∀ a ∈ strike gone l, p a = false := by
  induction l generalizing gone with
  | nil => exact fun a ha => nomatch ha
  | cons b rest ih =>
    have hrest := @ih (fun j => gone (j + 1)) fun i => hp (i + 1)
    cases h0 : gone 0 with
    | true => rwa [strike_cons_of_gone h0]
    | false =>
      rw [strike_cons_of_kept h0]
      intro a ha
      rcases List.mem_cons.mp ha with rfl | ha
      · exact Bool.eq_false_iff.mpr fun hpa => by
          rw [hp 0 a rfl hpa] at h0
          cases h0
      · exact hrest a ha

/-- The numbers of the entries with a property. -/
def placesOf (p : α → Bool) (l : List α) : List Nat :=
  (List.range l.length).filter fun i => l[i]?.any p

theorem placesOf_cons (p : α → Bool) (a : α) (l : List α) :
    placesOf p (a :: l) = (if p a then [0] else []) ++ (placesOf p l).map (· + 1) := by
  have hhead : (a :: l)[0]?.any p = p a := rfl
  have hrest : (List.range l.length).filter ((fun i => (a :: l)[i]?.any p) ∘ Nat.succ) =
      placesOf p l := rfl
  rw [placesOf, List.length_cons, List.range_succ_eq_map, List.filter_cons, List.filter_map, hrest,
    hhead]
  cases p a <;> rfl

/-- All of some entries that are left. -/
theorem placesOf_strike (hp : ∀ i a, l[i]? = some a → p a = true → gone i = false) :
    placesOf p (strike gone l) = (placesOf p l).map (rank gone) := by
  induction l generalizing gone with
  | nil => rfl
  | cons a rest ih =>
    have hrest := @ih (fun j => gone (j + 1)) fun i => hp (i + 1)
    have hnumbers : ((placesOf p rest).map (· + 1)).map (rank gone) =
        ((placesOf p rest).map (rank fun j => gone (j + 1))).map
          (· + if gone 0 then 0 else 1) := by
      rw [List.map_map, List.map_map]
      exact List.map_congr_left fun i _ => rank_succ gone i
    rw [placesOf_cons, List.map_append, hnumbers]
    cases h0 : gone 0 with
    | true =>
      have ha : p a = false := Bool.eq_false_iff.mpr fun ha => by
        rw [hp 0 a rfl ha] at h0
        cases h0
      rw [strike_cons_of_gone h0, hrest, ha]
      simp
    | false =>
      rw [strike_cons_of_kept h0, placesOf_cons, hrest]
      cases p a <;> simp

theorem placesOf_eq_nil (hp : ∀ a ∈ l, p a = false) : placesOf p l = [] := by
  refine List.filter_eq_nil_iff.mpr fun i _ => ?_
  cases ha : l[i]? with
  | none => exact Bool.false_ne_true
  | some a =>
    rw [Option.any_some, hp a (List.mem_of_getElem? ha)]
    exact Bool.false_ne_true

end Enhance
