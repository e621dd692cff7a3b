/-
  Enhance/Proofs/Theme/Independence.lean
  ======================================
  **What a store has no say in.**

  A switch consults its store when it starts and when it is asked for the
  preference, and at no other time.  So once it runs, pages that are equal stay
  equal, whatever is behind them: stores of two kinds, with other contents,
  other keys and other failures, cannot be told apart by what is shown
  (`showing_eq_of_page_eq`).

  The two runs are compared act by act.  Equal pages are all that one act needs
  to know of the other run (`act_eq_of_page_eq`), so the induction over the
  acts carries nothing else.
-/
import Enhance.Proofs.Theme.Marker

namespace Enhance.Bench

/-! ### Acts that do without the store -/

/-- The act asks the store what to show. -/
def Act.consults : Act → Bool
  | .start | .askPreference => true
  | .flip | .askShown | .markDark _ | .refuseControl _ => false

section OneRun

variable {σ : Type} [Storage σ]

/-- What a run shows: after every act the theme answered, if any, and the page. -/
def showing (settings : ThemeSettings) (b : Bench σ) : List Act → List (Option Theme × BarePage)
  | [] => []
  | a :: rest =>
    ((act settings a b).1, (act settings a b).2.page) :: showing settings (act settings a b).2 rest

variable (settings : ThemeSettings) (b : Bench σ)

theorem dark_act_flip : (act settings .flip b).2.page.dark = !b.page.dark := by
  simp only [act, bind_apply, flip_eq, pure_apply, BarePage.dark_renderControl, turned,
    Theme.isDark_opposite, Theme.isDark_ofDark]

/-- Flips turn the marker round once each, whatever becomes of their writes. -/
theorem dark_run_flips (n : Nat) :
    (run settings b (List.replicate n .flip)).page.dark = Nat.repeat not n b.page.dark := by
  induction n with
  | zero => rfl
  | succ n ih =>
    -- the last flip turns round what the others left
    rw [List.replicate_succ', run, List.foldl_append, ← run]
    calc (act settings .flip (run settings b (List.replicate n .flip))).2.page.dark
        = !(run settings b (List.replicate n .flip)).page.dark := dark_act_flip settings _
      _ = Nat.repeat not (n + 1) b.page.dark := by rw [ih, Nat.repeat]

end OneRun

/-! ### Two runs -/

section TwoRuns

variable {σ₁ σ₂ : Type} [Storage σ₁] [Storage σ₂] {settings₁ settings₂ : ThemeSettings}
  {b₁ : Bench σ₁} {b₂ : Bench σ₂}

/-- On equal pages an act that does without the store answers alike and leaves
    equal pages. -/
theorem act_eq_of_page_eq (hpage : b₁.page = b₂.page) {a : Act} (ha : a.consults = false) :
    (act settings₁ a b₁).1 = (act settings₂ a b₂).1 ∧
      (act settings₁ a b₁).2.page = (act settings₂ a b₂).2.page := by
  cases a with
  | start => cases ha
  | askPreference => cases ha
  | flip =>
    -- the theme turned to is read off the page, and the write comes last
    have hturned : b₁.turned = b₂.turned := by rw [turned, turned, hpage]
    simp only [act, bind_apply, flip_eq, pure_apply]
    rw [hturned, hpage]
    exact ⟨rfl, rfl⟩
  | askShown =>
    refine ⟨?_, hpage⟩
    simp only [act, bind_apply, shown_eq, pure_apply]
    rw [hpage]
  | markDark dark =>
    have hmarked : { b₁.page with dark } = { b₂.page with dark } := by rw [hpage]
    exact ⟨rfl, hmarked⟩
  | refuseControl refuse => exact ⟨rfl, hpage⟩

theorem showing_congr (hpage : b₁.page = b₂.page) {acts : List Act}
    (hacts : ∀ a ∈ acts, a.consults = false) :
    showing settings₁ b₁ acts = showing settings₂ b₂ acts := by
  induction acts generalizing b₁ b₂ with
  | nil => rfl
  | cons a rest ih =>
    have hstep : (act settings₁ a b₁).1 = (act settings₂ a b₂).1 ∧
        (act settings₁ a b₁).2.page = (act settings₂ a b₂).2.page :=
      act_eq_of_page_eq hpage (hacts a List.mem_cons_self)
    obtain ⟨hanswer, hnext⟩ := hstep
    have hrest := ih hnext fun c hc => hacts c (List.mem_cons_of_mem a hc)
    rw [showing, showing, hanswer, hnext, hrest]

end TwoRuns

/-- **A store never influences what is shown.**  Two switches, with whatever
    settings, stand on equal pages over stores of any two kinds.  As long as
    neither is started again or asked for its preference, the same acts answer
    the same themes and leave equal pages after every act; and `n` flips in a
    row leave the marker as it was, turned round `n` times, whichever of their
    writes fail. -/
theorem showing_eq_of_page_eq {σ₁ σ₂ : Type} [Storage σ₁] [Storage σ₂]
    (settings₁ settings₂ : ThemeSettings) (b₁ : Bench σ₁) (b₂ : Bench σ₂)
    (hpage : b₁.page = b₂.page) (acts : List Act) (hacts : ∀ a ∈ acts, a.consults = false) :
    showing settings₁ b₁ acts = showing settings₂ b₂ acts ∧
      ∀ n, (run settings₁ b₁ (List.replicate n .flip)).page.dark =
        Nat.repeat not n b₁.page.dark :=
  ⟨showing_congr hpage hacts, fun n => dark_run_flips settings₁ b₁ n⟩

/-- A store that takes writes beside one behind a fault, under other keys, with
    the marker changed from outside between the flips. -/
theorem showing_eq_of_page_eq_behind_fault :
    let acts : List Act := [.flip, .markDark true, .flip, .flip]
    let b₁ : Bench MemoryStorage := { store := {}, page := { hasControl := true } }
    let b₂ : Bench (Guarded MemoryStorage) :=
      { store := ⟨.withEntry "mode" "light", some .unavailable, some .unavailable⟩,
        page := { hasControl := true } }
    b₁.page = b₂.page ∧ (∀ a ∈ acts, a.consults = false) ∧
      showing {} b₁ acts = showing { storageKey := "mode", fallback := .dark } b₂ acts ∧
      (run { storageKey := "mode", fallback := .dark } b₂ [.flip, .flip, .flip]).page.dark =
        true := by
  intro acts b₁ b₂
  have hacts : ∀ a ∈ acts, a.consults = false := by decide
  have h := showing_eq_of_page_eq {} { storageKey := "mode", fallback := .dark } b₁ b₂ rfl acts
    hacts
  have hflips := showing_eq_of_page_eq { storageKey := "mode", fallback := .dark } {} b₂ b₁ rfl
    acts hacts
  exact ⟨rfl, hacts, h.1, hflips.2 3⟩

end Enhance.Bench
