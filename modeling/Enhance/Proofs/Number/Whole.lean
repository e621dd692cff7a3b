/-
  Enhance/Proofs/Number/Whole.lean
  ================================
  **Whole numbers in binary64.**

  A whole number below 2^53 has a significand of at most 53 bits, so writing it
  loses nothing: the quotient that `ofRatio` rounds is a natural number already
  (`ofRatio_eq`).  Signs, sizes and products of such numbers are therefore
  exact as long as the results are below 2^53 too.
-/
import Enhance.Number.Binary64
import Mathlib.Algebra.Ring.Nat

namespace Enhance

namespace Binary64

/-! ### Reading back what was written -/

/-- The number 1 in units, with the exponent kept out of sight: a power that is
    spelled out would be computed. -/
theorem unitsInOne_eq {k : Nat} (hk : k = 1074) : unitsInOne = 2 ^ k := by
  unfold unitsInOne
  rw [← hk]
  exact Nat.pow_eq

theorem unitsInOne_pos : 0 < unitsInOne := by
  obtain ⟨k, hk⟩ : ∃ k, k = 1074 := ⟨_, rfl⟩
  rw [unitsInOne_eq hk]
  exact Nat.two_pow_pos k

variable {minus : Bool} {m : Nat}

theorem toNat_ofMagnitude (h : m < signWeight) :
    (ofMagnitude minus m).bits.toNat = if minus then m + signWeight else m := by
  have hlt : (if minus then m + signWeight else m) < 2 ^ 64 := by
    unfold signWeight at *
    split <;> omega
  rw [ofMagnitude, UInt64.toNat_ofNat_of_lt' hlt]

theorem magnitude_ofMagnitude (h : m < signWeight) : (ofMagnitude minus m).magnitude = m := by
  rw [magnitude, toNat_ofMagnitude h]
  cases minus with
  | false => exact Nat.mod_eq_of_lt h
  | true => rw [if_pos rfl, Nat.add_mod_right, Nat.mod_eq_of_lt h]

theorem negative_ofMagnitude (h : m < signWeight) : (ofMagnitude minus m).negative = minus := by
  rw [negative, toNat_ofMagnitude h]
  cases minus with
  | false => exact decide_eq_false (Nat.not_le.mpr h)
  | true => exact decide_eq_true (Nat.le_add_left _ _)

theorem infiniteMagnitude_lt : infiniteMagnitude < signWeight := by decide

/-- A significand of 53 bits, written with an exponent. -/
theorem units_ofMagnitude {shift significand : Nat} (hshift : shift ≤ 2045)
    (hlow : exponentWeight ≤ significand) (hhigh : significand < 2 * exponentWeight) :
    (ofMagnitude minus (shift * exponentWeight + significand)).units = significand * 2 ^ shift := by
  have hmul : shift * exponentWeight ≤ 2045 * exponentWeight := Nat.mul_le_mul_right _ hshift
  have hlt : shift * exponentWeight + significand < signWeight := by
    unfold exponentWeight signWeight at *
    omega
  have hexponent : (shift * exponentWeight + significand) / exponentWeight = shift + 1 := by
    unfold exponentWeight at *
    omega
  have hfraction : exponentWeight + (shift * exponentWeight + significand) % exponentWeight =
      significand := by
    unfold exponentWeight at *
    omega
  simp only [units, magnitude_ofMagnitude hlt, hexponent, hfraction, Nat.add_sub_cancel, Nat.pow_eq,
    if_neg (Nat.succ_ne_zero shift)]

/-! ### Writing whole numbers -/

theorem divRound_mul_left {den : Nat} (h : 0 < den) (q : Nat) : divRound (den * q) den = q := by
  have hdiv : den * q / den = q := Nat.mul_div_cancel_left q h
  have hmod : den * q % den = 0 := Nat.mul_mod_right den q
  have hne : ¬ 0 = den := Nat.ne_of_lt h
  simp [divRound, hdiv, hmod, hne]

theorem log2_mul_two_pow {n : Nat} (h : n ≠ 0) (k : Nat) : (n * 2 ^ k).log2 = n.log2 + k := by
  have hne : n * 2 ^ k ≠ 0 := Nat.mul_ne_zero h (Nat.ne_of_gt (Nat.two_pow_pos k))
  rw [Nat.log2_eq_iff hne]
  constructor
  · rw [Nat.pow_add]
    exact Nat.mul_le_mul_right _ (Nat.log2_self_le h)
  · rw [Nat.add_right_comm, Nat.pow_add]
    exact Nat.mul_lt_mul_of_pos_right Nat.lt_log2_self (Nat.two_pow_pos k)

/-- A number of at most 53 bits is brought to exactly 53. -/
theorem significand_bounds {n : Nat} (h : n ≠ 0) (hn : n < 2 ^ 53) :
    n.log2 ≤ 52 ∧ exponentWeight ≤ n * 2 ^ (52 - n.log2) ∧
      n * 2 ^ (52 - n.log2) < 2 * exponentWeight := by
  have hlog : n.log2 ≤ 52 := Nat.lt_succ_iff.mp ((Nat.log2_lt h).mpr hn)
  have hlow : 2 ^ n.log2 * 2 ^ (52 - n.log2) ≤ n * 2 ^ (52 - n.log2) :=
    Nat.mul_le_mul_right _ (Nat.log2_self_le h)
  have hhigh : n * 2 ^ (52 - n.log2) < 2 ^ (n.log2 + 1) * 2 ^ (52 - n.log2) :=
    Nat.mul_lt_mul_of_pos_right Nat.lt_log2_self (Nat.two_pow_pos _)
  rw [← Nat.pow_add, show n.log2 + (52 - n.log2) = 52 by omega] at hlow
  rw [← Nat.pow_add, show n.log2 + 1 + (52 - n.log2) = 53 by omega] at hhigh
  exact ⟨hlog, hlow, hhigh⟩

variable {n den : Nat}

theorem log2_mul_unitsInOne (h : n ≠ 0) : (n * unitsInOne).log2 - 52 = n.log2 + 1022 := by
  obtain ⟨k, hk⟩ : ∃ k, k = 1074 := ⟨_, rfl⟩
  rw [unitsInOne_eq hk, log2_mul_two_pow h]
  omega

theorem lt_infiniteMagnitude {shift significand : Nat} (hshift : shift ≤ 2045)
    (hhigh : significand < 2 * exponentWeight) :
    shift * exponentWeight + significand < infiniteMagnitude := by
  have hmul : shift * exponentWeight ≤ 2045 * exponentWeight := Nat.mul_le_mul_right _ hshift
  unfold infiniteMagnitude
  omega

/-- A whole number is written without rounding. -/
theorem ofRatio_eq (h : n ≠ 0) (hn : n < 2 ^ 53) (hden : 0 < den) :
    ofRatio minus (n * den) den =
      ofMagnitude minus ((n.log2 + 1022) * exponentWeight + n * 2 ^ (52 - n.log2)) := by
  obtain ⟨hlog, -, hhigh⟩ := significand_bounds h hn
  have hquotient : n * den * unitsInOne / den = n * unitsInOne := by
    rw [Nat.mul_right_comm, Nat.mul_div_cancel _ hden]
  have hfinite := Nat.le_of_lt (lt_infiniteMagnitude (by omega : n.log2 + 1022 ≤ 2045) hhigh)
  -- a multiple of what it is divided by, so there is nothing to round
  have hexact : n * den * unitsInOne =
      den * 2 ^ (n.log2 + 1022) * (n * 2 ^ (52 - n.log2)) := by
    rw [unitsInOne_eq (show n.log2 + 1022 + (52 - n.log2) = 1074 by omega), Nat.pow_add,
      Nat.mul_comm n den, Nat.mul_mul_mul_comm]
  simp only [ofRatio, hquotient, log2_mul_unitsInOne h, Nat.pow_eq]
  rw [hexact, divRound_mul_left (Nat.mul_pos hden (Nat.two_pow_pos _)), Nat.min_eq_left hfinite]

/-! ### Whole numbers -/

/-- A finite number of this sign and whole size. -/
structure IsWhole (x : Binary64) (minus : Bool) (n : Nat) : Prop where
  negative : x.negative = minus
  finite : x.isFinite = true
  units : x.units = n * unitsInOne

theorem isFinite_ofMagnitude (h : m < infiniteMagnitude) :
    (ofMagnitude minus m).isFinite = true := by
  rw [isFinite, magnitude_ofMagnitude (Nat.lt_trans h infiniteMagnitude_lt)]
  exact decide_eq_true h

theorem isWhole_ofRatio (hn : n < 2 ^ 53) (hden : 0 < den) :
    (ofRatio minus (n * den) den).IsWhole minus n := by
  by_cases h : n = 0
  · -- zero is the one number that cannot be brought to 53 bits
    subst h
    have hzero : ofRatio minus (0 * den) den = ofMagnitude minus 0 := by
      simp [ofRatio, divRound]
    rw [hzero]
    refine ⟨negative_ofMagnitude (by decide), isFinite_ofMagnitude (by decide), ?_⟩
    simp [units, magnitude_ofMagnitude (show 0 < signWeight by decide)]
  · obtain ⟨hlog, hlow, hhigh⟩ := significand_bounds h hn
    have hfinite := lt_infiniteMagnitude (by omega : n.log2 + 1022 ≤ 2045) hhigh
    rw [ofRatio_eq h hn hden]
    refine ⟨negative_ofMagnitude (Nat.lt_trans hfinite infiniteMagnitude_lt),
      isFinite_ofMagnitude hfinite, ?_⟩
    rw [units_ofMagnitude (by omega) hlow hhigh,
      unitsInOne_eq (show 52 - n.log2 + (n.log2 + 1022) = 1074 by omega), Nat.mul_assoc,
      ← Nat.pow_add]

theorem isWhole_ofInt {i : Int} (h : i.natAbs < 2 ^ 53) :
    (ofInt i).IsWhole (decide (i < 0)) i.natAbs := by
  have hone : ofInt i = ofRatio (decide (i < 0)) (i.natAbs * 1) 1 := by
    rw [ofInt, Nat.mul_one]
  rw [hone]
  exact isWhole_ofRatio h Nat.one_pos

variable {x y : Binary64} {s t : Bool} {k : Nat}

theorem magnitude_lt (x : Binary64) : x.magnitude < signWeight := Nat.mod_lt _ (by decide)

theorem magnitude_neg (x : Binary64) : x.neg.magnitude = x.magnitude :=
  magnitude_ofMagnitude x.magnitude_lt

theorem IsWhole.isNonneg (h : x.IsWhole false n) : x.isNonneg = true := by
  have hkey : 0 ≤ x.key := by
    rw [key, h.negative]
    exact Int.natCast_nonneg _
  rw [Binary64.isNonneg, not_isNaN_of_isFinite h.finite]
  exact decide_eq_true hkey

theorem IsWhole.neg (h : x.IsWhole s n) : x.neg.IsWhole (!s) n := by
  refine ⟨?_, ?_, ?_⟩
  · rw [Binary64.neg, negative_ofMagnitude x.magnitude_lt, h.negative]
  · rw [isFinite, magnitude_neg]
    exact h.finite
  · rw [Binary64.units, magnitude_neg]
    exact h.units

/-- The product of whole numbers is not rounded. -/
theorem IsWhole.mul (hx : x.IsWhole s n) (hy : y.IsWhole t k) (h : n * k < 2 ^ 53) :
    (x.mul y).IsWhole (s != t) (n * k) := by
  have hunits : x.units * y.units = n * k * (unitsInOne * unitsInOne) := by
    rw [hx.units, hy.units, Nat.mul_mul_mul_comm]
  rw [Binary64.mul, hunits, hx.negative, hy.negative]
  exact isWhole_ofRatio h (Nat.mul_pos unitsInOne_pos unitsInOne_pos)

theorem IsWhole.round (h : x.IsWhole s n) : x.round = if s then -(n : Int) else n := by
  have hdiv : (n * unitsInOne + unitsInOne / 2) / unitsInOne = n := by
    have hhalf : unitsInOne / 2 < unitsInOne := Nat.div_lt_self unitsInOne_pos (by decide)
    rw [Nat.mul_comm, Nat.mul_add_div unitsInOne_pos, Nat.div_eq_of_lt hhalf, Nat.add_zero]
  simp only [Binary64.round, h.units, hdiv, h.negative]

end Binary64

end Enhance
