/-
  Enhance/Text/Runs.lean
  ======================
  **Sets of code points, written as runs.**

  A run is a first and a last code point.  The runs of a set ascend, so the
  search for a code point can stop at the first run that begins above it;
  `covers_eq_true_iff` says that nothing is missed by stopping there.
-/

namespace Enhance.Text

/-- First and last code point of each run. -/
abbrev Runs := List (Nat × Nat)

namespace Runs

/-- Whether a code point lies in a run; runs that begin above it are not
    looked at. -/
def covers : Runs → Nat → Bool
  | [], _ => false
  | r :: rest, n => r.1 ≤ n && (n ≤ r.2 || covers rest n)

/-- Whether no run ends before it begins, and each begins above the end of the
    one before it. -/
def ascend : Runs → Bool
  | [] => true
  | r :: rest => r.1 ≤ r.2 && rest.head?.all (fun s => r.2 < s.1) && ascend rest

/-- Later runs begin above the end of the first. -/
theorem lt_of_ascend {r : Nat × Nat} {rest : Runs} (h : ascend (r :: rest) = true) :
    ∀ s ∈ rest, r.2 < s.1 := by
  induction rest generalizing r with
  | nil => intro s hs; cases hs
  | cons t rest ih =>
    simp only [ascend, List.head?_cons, Option.all_some, Bool.and_eq_true,
      decide_eq_true_eq] at h
    intro s hs
    rcases List.mem_cons.mp hs with rfl | hs
    · exact h.1.2
    · have hts : t.2 < s.1 := ih (by simp [ascend, h.2]) s hs
      omega

/-- In ascending runs, a code point is covered exactly when it lies in one. -/
theorem covers_eq_true_iff {l : Runs} (h : ascend l = true) (n : Nat) :
    l.covers n = true ↔ ∃ r ∈ l, r.1 ≤ n ∧ n ≤ r.2 := by
  induction l with
  | nil => simp [covers]
  | cons r rest ih =>
    have hr : r.1 ≤ r.2 ∧ ascend rest = true := by
      simp only [ascend, Bool.and_eq_true, decide_eq_true_eq] at h
      exact ⟨h.1.1, h.2⟩
    simp only [covers, Bool.and_eq_true, Bool.or_eq_true, decide_eq_true_eq, ih hr.2]
    constructor
    · rintro ⟨hn, hlast | ⟨s, hs, hsn⟩⟩
      · exact ⟨r, by simp, hn, hlast⟩
      · exact ⟨s, by simp [hs], hsn⟩
    · rintro ⟨s, hs, hsn⟩
      rcases List.mem_cons.mp hs with rfl | hs
      · exact ⟨hsn.1, Or.inl hsn.2⟩
      · have hrs : r.2 < s.1 := lt_of_ascend h s hs
        exact ⟨by omega, Or.inr ⟨s, hs, hsn⟩⟩

end Runs

end Enhance.Text
