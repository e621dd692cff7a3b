/-
  Enhance/Proofs/Reveal.lean
  ==========================
  **Delays in unbounded numbers.**

  A position that does not fit, or a product that does not, is clamped on the way to
  the delay.  None of it is seen: a delay is the exact product, up to the cap
  (`toNat_delay`).  So delays grow by a step from each position to the next until they
  reach the cap, and stay there.
-/
import Enhance.Reveal
import Mathlib.Order.Monotone.Basic

namespace Enhance.Reveal

variable (position : Nat) (step cap : UInt32)

theorem delay_le_cap : delay position step cap ≤ cap := by
  rw [UInt32.le_iff_toNat_le, toNat_delay]
  exact Nat.min_le_right _ _

/-- The cap is reached once the exact product reaches it. -/
theorem delay_eq_cap_iff : delay position step cap = cap ↔ cap.toNat ≤ position * step.toNat := by
  rw [← UInt32.toNat_inj, toNat_delay]
  omega

/-- A step later than at the position before, up to the cap. -/
theorem toNat_delay_succ : (delay (position + 1) step cap).toNat =
    min ((delay position step cap).toNat + step.toNat) cap.toNat := by
  rw [toNat_delay, toNat_delay, Nat.succ_mul]
  omega

theorem monotone_delay : Monotone fun position => (delay position step cap).toNat := by
  apply monotone_nat_of_le_succ
  intro position
  have hcap : (delay position step cap).toNat ≤ cap.toNat :=
    UInt32.le_iff_toNat_le.mp (delay_le_cap position step cap)
  rw [toNat_delay_succ]
  exact Nat.le_min.mpr ⟨Nat.le_add_right _ _, hcap⟩

/-- **A delay never wraps.**  At every position it is the product of the position and the step in
    unbounded numbers, or the cap where the product is past the cap, whether the position, the
    product or neither fits into 32 bits.  So it is never past the cap, is the cap from the
    position on at which the product reaches it, and never falls from one position to a later
    one. -/
theorem delay_exact :
    (∀ position,
      (delay position step cap).toNat = min (position * step.toNat) cap.toNat ∧
      delay position step cap ≤ cap ∧
      (delay position step cap = cap ↔ cap.toNat ≤ position * step.toNat)) ∧
    Monotone fun position => (delay position step cap).toNat := by
  refine ⟨fun position => ⟨?_, ?_, ?_⟩, ?_⟩
  · exact toNat_delay position step cap
  · exact delay_le_cap position step cap
  · exact delay_eq_cap_iff position step cap
  · exact monotone_delay step cap

/-- In 32 bits the position would wrap to zero here, and so would the product. -/
example : delay (2 ^ 32) 1 800 = 800 ∧ delay (2 ^ 31) 2 800 = 800 := by decide

end Enhance.Reveal
