/-
  Enhance/Scroll.lean
  ===================
  **When the back-to-top button shows.**

  The button shows while the page is scrolled past a threshold.  The gate
  remembers what it said last and speaks only when that changes, so that a
  scroll event touches the page no more often than needed; its first word is
  always spoken.
-/
import Enhance.Number.Binary64

namespace Enhance

/-- A threshold and the visibility announced last. -/
structure ScrollGate where
  threshold : Binary64
  announced : Option Bool := none
deriving DecidableEq, Inhabited

namespace ScrollGate

def passes (g : ScrollGate) (offset : Binary64) : Bool := g.threshold.lt offset

/-- Takes in an offset; the new visibility if it is not the one announced. -/
def update (g : ScrollGate) (offset : Binary64) : Option Bool × ScrollGate :=
  let visible := g.passes offset
  if g.announced = some visible then (none, g)
  else (some visible, { g with announced := some visible })

/-- The visibility announced last; hidden before the first word. -/
def visible (g : ScrollGate) : Bool := g.announced.getD false

@[simp] theorem threshold_update (g : ScrollGate) (y : Binary64) :
    (g.update y).2.threshold = g.threshold := by
  unfold update; simp only []; split <;> rfl

/-- After an offset, the gate stands at that offset's side of the threshold. -/
@[simp] theorem announced_update (g : ScrollGate) (y : Binary64) :
    (g.update y).2.announced = some (g.passes y) := by
  unfold update; simp only []; split <;> simp_all

/-- The gate speaks exactly when the side differs from the one announced. -/
theorem update_eq_none_iff (g : ScrollGate) (y : Binary64) :
    (g.update y).1 = none ↔ g.announced = some (g.passes y) := by
  unfold update; simp only []; split <;> simp_all

end ScrollGate

end Enhance
