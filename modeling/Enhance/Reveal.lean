/-
  Enhance/Reveal.lean
  ===================
  **Staggered delays for elements that come into view together.**

  Each element of a batch starts one step later than the one before it, up to
  a cap.  Steps and caps are counts of 32 bits; a position or a product that
  does not fit stays at the greatest count.
-/

namespace Enhance.Reveal

def greatest : UInt32 := UInt32.ofNat (UInt32.size - 1)

/-- A natural number as a count; one that does not fit becomes the greatest. -/
def clamp (n : Nat) : UInt32 := if n < UInt32.size then UInt32.ofNat n else greatest

/-- The delay in milliseconds at a position of a batch. -/
def delay (position : Nat) (step cap : UInt32) : UInt32 :=
  min (clamp ((clamp position).toNat * step.toNat)) cap

def delayText (d : UInt32) : String := toString d.toNat ++ "ms"

@[simp] theorem toNat_clamp (n : Nat) : (clamp n).toNat = min n (UInt32.size - 1) := by
  unfold clamp greatest
  split
  · rename_i h
    rw [UInt32.toNat_ofNat_of_lt' h]; omega
  · rw [UInt32.toNat_ofNat_of_lt' (by decide)]; omega

theorem toNat_min (a b : UInt32) : (min a b).toNat = min a.toNat b.toNat := by
  show (if a ≤ b then a else b).toNat = _
  by_cases h : a ≤ b
  · rw [if_pos h, Nat.min_eq_left (UInt32.le_iff_toNat_le.mp h)]
  · have hlt : ¬ a.toNat ≤ b.toNat := fun hle => h (UInt32.le_iff_toNat_le.mpr hle)
    rw [if_neg h, Nat.min_eq_right (Nat.le_of_not_le hlt)]

/-- A factor that was clamped is not seen in a product that is clamped as well. -/
theorem clamp_toNat_mul (n m : Nat) : clamp ((clamp n).toNat * m) = clamp (n * m) := by
  apply UInt32.toNat_inj.mp
  rw [toNat_clamp, toNat_clamp, toNat_clamp]
  rcases Nat.le_total n (UInt32.size - 1) with hfits | hlarge
  · rw [Nat.min_eq_left hfits]
  · rw [Nat.min_eq_right hlarge]
    rcases Nat.eq_zero_or_pos m with hzero | hpos
    · rw [hzero]
      rfl
    · -- both products are at least the greatest count
      have hclamped : UInt32.size - 1 ≤ (UInt32.size - 1) * m := Nat.le_mul_of_pos_right _ hpos
      have hexact : n ≤ n * m := Nat.le_mul_of_pos_right _ hpos
      rw [Nat.min_eq_right hclamped, Nat.min_eq_right (Nat.le_trans hlarge hexact)]

/-- No step of the computation is seen in the delay: it is what it would be in unbounded
    numbers. -/
theorem toNat_delay (position : Nat) (step cap : UInt32) :
    (delay position step cap).toNat = min (position * step.toNat) cap.toNat := by
  have hcap : cap.toNat < UInt32.size := cap.toNat_lt
  rw [delay, clamp_toNat_mul, toNat_min, toNat_clamp]
  -- the cap is a count, so a product that was clamped is past it
  omega

end Enhance.Reveal
