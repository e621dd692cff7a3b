/-
  Enhance/Proofs/Scroll.lean
  ==========================
  **What a scroll gate says, offset after offset.**

  A gate that is fed one offset after the other remembers nothing but the side
  of the threshold that the last one was on (`feed_fresh`).  So what it says is
  the row of sides with repetitions left out (`words_fresh`): it speaks at the
  first offset and whenever the side changes, and never says the same twice in
  a row.
-/
import Enhance.Scroll
import Mathlib.Data.List.Destutter

namespace Enhance

/-! ### Changes in a row -/

/-- How often neighbours in a row differ. -/
def changes (l : List Bool) : Nat := (l.zip l.tail).countP fun p => p.1 != p.2

theorem changes_cons (a b : Bool) (l : List Bool) :
    changes (a :: b :: l) = changes (b :: l) + if a = b then 0 else 1 := by
  simp [changes, List.countP_cons]

/-- Without its repetitions, a row has an entry more than it has changes. -/
theorem length_destutter' (a : Bool) (l : List Bool) :
    (l.destutter' (· ≠ ·) a).length = 1 + changes (a :: l) := by
  induction l generalizing a with
  | nil => rfl
  | cons b l ih =>
    rw [List.destutter'_cons, changes_cons]
    by_cases hab : a = b
    · rw [if_neg (not_not_intro hab), if_pos hab, ih, hab, Nat.add_zero]
    · rw [if_pos hab, if_neg hab, List.length_cons, ih, Nat.add_assoc]

namespace ScrollGate

/-! ### One offset -/

theorem update_fst (g : ScrollGate) (y : Binary64) :
    (g.update y).1 = if g.announced = some (g.passes y) then none else some (g.passes y) := by
  unfold update
  simp only []
  split <;> rfl

theorem update_snd (g : ScrollGate) (y : Binary64) :
    (g.update y).2 = { g with announced := some (g.passes y) } := by
  unfold update
  simp only []
  split
  · rename_i hsame
    rw [← hsame]
  · rfl

/-! ### One offset after the other -/

/-- The gate after these offsets. -/
def feed (g : ScrollGate) (offsets : List Binary64) : ScrollGate :=
  offsets.foldl (fun g y => (g.update y).2) g

/-- What the gate says to these offsets, its silences left out. -/
def words (g : ScrollGate) : List Binary64 → List Bool
  | [] => []
  | y :: rest => (g.update y).1.toList ++ words (g.update y).2 rest

theorem feed_concat (g : ScrollGate) (offsets : List Binary64) (y : Binary64) :
    g.feed (offsets ++ [y]) = ((g.feed offsets).update y).2 := by
  rw [feed, List.foldl_append]
  rfl

theorem words_concat (g : ScrollGate) (offsets : List Binary64) (y : Binary64) :
    g.words (offsets ++ [y]) = g.words offsets ++ ((g.feed offsets).update y).1.toList := by
  induction offsets generalizing g with
  | nil => exact List.append_nil _
  | cons x rest ih =>
    rw [List.cons_append, words, ih, words, List.append_assoc]
    rfl

/-- The gate remembers the side of the last offset. -/
theorem feed_eq (g : ScrollGate) (offsets : List Binary64) :
    g.feed offsets = { g with announced := (offsets.map g.passes).getLast?.or g.announced } := by
  induction offsets generalizing g with
  | nil => rfl
  | cons y rest ih =>
    have hlast : (rest.map g.passes).getLast?.or (some (g.passes y)) =
        ((y :: rest).map g.passes).getLast?.or g.announced := by
      rw [List.map_cons, List.getLast?_cons]
      cases (rest.map g.passes).getLast? <;> rfl
    have hrest := ih (g.update y).2
    rw [update_snd] at hrest
    rw [← hlast, feed, List.foldl_cons, update_snd]
    exact hrest

theorem feed_fresh (threshold : Binary64) (offsets : List Binary64) :
    feed { threshold } offsets =
      { threshold, announced := (offsets.map threshold.lt).getLast? } := by
  rw [feed_eq]
  show _ = ({ threshold, announced := _ } : ScrollGate)
  rw [Option.or_none]
  rfl

/-- Behind what it said last, the gate says the sides without repetitions. -/
theorem cons_words {g : ScrollGate} {side : Bool} (hg : g.announced = some side)
    (offsets : List Binary64) :
    side :: g.words offsets = (offsets.map g.passes).destutter' (· ≠ ·) side := by
  induction offsets generalizing g side with
  | nil => rfl
  | cons y rest ih =>
    have hrest : g.passes y :: (g.update y).2.words rest =
        (rest.map g.passes).destutter' (· ≠ ·) (g.passes y) := by
      rw [update_snd]
      exact ih rfl
    rw [words, update_fst, hg, List.map_cons, List.destutter'_cons]
    by_cases hsame : side = g.passes y
    · rw [if_pos (congrArg some hsame), if_neg (not_not_intro hsame), hsame, ← hrest]
      rfl
    · rw [if_neg fun h => hsame (Option.some.inj h), if_pos hsame, ← hrest]
      rfl

theorem words_fresh (threshold : Binary64) (offsets : List Binary64) :
    words { threshold } offsets = (offsets.map threshold.lt).destutter (· ≠ ·) := by
  cases offsets with
  | nil => rfl
  | cons y rest =>
    have hspoken : (update { threshold } y).2.announced = some (threshold.lt y) := by
      rw [update_snd]
      rfl
    have hrest := cons_words hspoken rest
    rw [words, update_fst, if_neg nofun, List.map_cons, List.destutter_cons']
    rw [update_snd] at hrest ⊢
    exact hrest

/-- **A gate speaks on change only.**  Whatever offsets a new gate was fed, it
    answers the next one with its side of the threshold, unless the offset before
    was on the same side, and then stands for that side.  What it says never
    repeats itself, and is said once more than the side changes. -/
theorem update_feed (threshold : Binary64) (offsets : List Binary64) :
    (∀ y, let g := feed { threshold } offsets
      (g.update y).1 = (if (offsets.getLast?.map threshold.lt) = some (threshold.lt y) then none
        else some (threshold.lt y)) ∧
      (g.update y).2.visible = threshold.lt y) ∧
    (words { threshold } offsets).IsChain (· ≠ ·) ∧
    (offsets ≠ [] → (words { threshold } offsets).length =
      1 + changes (offsets.map threshold.lt)) := by
  refine ⟨fun y => ?_, ?_, fun hne => ?_⟩
  · intro g
    have hg : g = { threshold, announced := offsets.getLast?.map threshold.lt } := by
      rw [← List.getLast?_map]
      exact feed_fresh threshold offsets
    rw [update_fst, update_snd, hg]
    exact ⟨rfl, rfl⟩
  · rw [words_fresh]
    exact List.isChain_destutter _ _
  · obtain ⟨y, rest, rfl⟩ := List.exists_cons_of_ne_nil hne
    rw [words_fresh, List.map_cons, List.destutter_cons', length_destutter']

end ScrollGate

end Enhance
