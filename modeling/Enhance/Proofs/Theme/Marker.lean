/-
  Enhance/Proofs/Theme/Marker.lean
  ================================
  **Marker and control never drift apart.**

  A switch keeps no theme of its own: what it shows is the marker on the page,
  and what it offers is drawn on the control.  Both may be touched in any order
  of starts and flips, the control may be refused for a while, the marker may
  be changed behind the switch's back, and the store may answer whatever it
  likes.  Still, whenever a start or a flip has answered a theme, marker and
  control agree on it (`marker_control_agree`), and a page gets at most one
  control.

  What a run keeps is stated against the page it began with (`Grown`): a
  control never goes away, one is counted exactly when the page has one that
  was not there at first, and nothing is drawn without one.
-/
import Enhance.Proofs.Theme.Bench

namespace Enhance

/-! ### Pages that show a theme -/

/-- Marker and control agree on a theme; without a control nothing is drawn. -/
structure BarePage.Shows (t : Theme) (p : BarePage) : Prop where
  marker : p.dark = t.isDark
  drawn : p.hasControl = true → p.control = some t.offer
  blank : p.hasControl = false → p.control = none

/-- A page that some run can have made of another one. -/
structure BarePage.Grown (origin p : BarePage) : Prop where
  kept : origin.hasControl = true → p.hasControl = true
  counted : p.controlsCreated =
    origin.controlsCreated + (if p.hasControl && !origin.hasControl then 1 else 0)
  blank : p.hasControl = false → p.control = none

namespace BarePage

variable {origin p : BarePage}

theorem Grown.refl (h : origin.control = none) : Grown origin origin :=
  ⟨fun hc => hc, by simp, fun _ => h⟩

theorem Grown.mark (h : Grown origin p) (dark : Bool) : Grown origin { p with dark } :=
  ⟨h.kept, h.counted, h.blank⟩

theorem Grown.renderControl (h : Grown origin p) (o : Offer) :
    Grown origin (p.renderControl o) := by
  unfold BarePage.renderControl
  split
  · rename_i hc
    exact ⟨h.kept, h.counted, fun hn => by rw [hc] at hn; cases hn⟩
  · exact h

/-- Making a control counts one, and only where there is none. -/
theorem Grown.ensureControl (h : Grown origin p) : Grown origin p.ensureControl.2 := by
  unfold BarePage.ensureControl
  split
  · exact h
  · rename_i hc
    have hp : p.hasControl = false := by simpa using hc
    have ho : origin.hasControl = false := by
      rcases hb : origin.hasControl with _ | _
      · rfl
      · rw [h.kept hb] at hp; cases hp
    have hn : p.controlsCreated = origin.controlsCreated := by
      rw [h.counted, hp]; simp
    exact ⟨fun _ => rfl, by simp [hn, ho], fun hf => by cases hf⟩

theorem shows_renderControl {t : Theme} (h : p.hasControl = false → p.control = none) :
    Shows t { p.renderControl t.offer with dark := t.isDark } := by
  cases hc : p.hasControl with
  | false =>
    refine ⟨rfl, ?_, ?_⟩
    · intro hd
      simp [hc] at hd
    · intro _
      simpa [BarePage.renderControl, hc] using h hc
  | true =>
    refine ⟨rfl, ?_, ?_⟩
    · intro _
      simp [BarePage.renderControl, hc]
    · intro hb
      simp [hc] at hb

theorem renderControl_mark (p : BarePage) (dark : Bool) (o : Offer) :
    { p with dark }.renderControl o = { p.renderControl o with dark } := by
  unfold BarePage.renderControl
  split <;> rfl

end BarePage

/-! ### One act -/

namespace Bench

open BarePage

variable {σ : Type} {origin : BarePage} {b : Bench σ}

theorem grown_opened (h : Grown origin b.page) : Grown origin b.opened.2 := by
  unfold opened
  split
  · exact h
  · exact h.ensureControl

variable [Storage σ] {settings : ThemeSettings}

theorem grown_act (h : Grown origin b.page) (a : Act) :
    Grown origin (act settings a b).2.page := by
  cases a with
  | start =>
    simp only [act, bind_apply, start_eq, pure_apply]
    exact ((grown_opened h).renderControl _).mark _
  | flip =>
    simp only [act, bind_apply, flip_eq, pure_apply]
    exact (h.mark _).renderControl _
  | askShown => exact h
  | askPreference =>
    simp only [act, bind_apply, preference_eq, pure_apply]
    exact h
  | markDark dark => exact h.mark dark
  | refuseControl refuse => exact h

/-- A start or a flip answers a theme, and the page shows it then. -/
theorem shows_of_start_or_flip (h : Grown origin b.page) {a : Act} (ha : a = .start ∨ a = .flip) :
    ∃ t, (act settings a b).1 = some t ∧ Shows t (act settings a b).2.page := by
  rcases ha with rfl | rfl
  · refine ⟨settings.settled (Storage.read settings.storageKey b.store).1, ?_, ?_⟩
    · simp only [act, bind_apply, start_eq, pure_apply]
    · simp only [act, bind_apply, start_eq, pure_apply]
      exact shows_renderControl (grown_opened h).blank
  · refine ⟨b.turned, ?_, ?_⟩
    · simp only [act, bind_apply, flip_eq, pure_apply]
    · simp only [act, bind_apply, flip_eq, pure_apply]
      rw [renderControl_mark]
      exact shows_renderControl h.blank

/-! ### Runs -/

theorem run_cons (a : Act) (acts : List Act) :
    run settings b (a :: acts) = run settings (act settings a b).2 acts := rfl

theorem grown_run (h : Grown origin b.page) (acts : List Act) :
    Grown origin (run settings b acts).page := by
  induction acts generalizing b with
  | nil => exact h
  | cons a rest ih =>
    rw [run_cons]
    exact ih (grown_act h a)

/-- A page that has a control is never given another one. -/
theorem controlsCreated_run (hc : b.page.hasControl = true) (acts : List Act) :
    (run settings b acts).page.controlsCreated = b.page.controlsCreated := by
  have hb : Grown b.page b.page :=
    ⟨fun h => h, by simp, fun h => by rw [hc] at h; cases h⟩
  have hrun : Grown b.page (run settings b acts).page := grown_run hb acts
  rw [hrun.counted, hc]
  simp

/-- **Marker and control never drift apart.**  On a page with nothing drawn yet,
    and whatever its store answers: after any run, a start or a flip answers a
    theme which the marker then shows and the control, if there is one, then
    offers a way out of; a flip answers the opposite of the marker as it stood;
    and at most one control was made, none if there was one at first, and none
    after the first. -/
theorem marker_control_agree (settings : ThemeSettings) (store : σ) (page : BarePage)
    (blank : page.control = none) (refusesControl : Bool) (acts : List Act) :
    let b := run settings { store, page, refusesControl } acts
    (∀ a, a = .start ∨ a = .flip →
      ∃ t, (act settings a b).1 = some t ∧
        (act settings .askShown (act settings a b).2).1 = some t ∧
        ((act settings a b).2.page.hasControl = true →
          (act settings a b).2.page.control = some t.offer) ∧
        ((act settings a b).2.page.hasControl = false →
          (act settings a b).2.page.control = none)) ∧
    (act settings .flip b).1 = some (Theme.ofDark b.page.dark).opposite ∧
    b.page.controlsCreated =
      page.controlsCreated + (if b.page.hasControl && !page.hasControl then 1 else 0) ∧
    ∀ later, b.page.hasControl = true →
      (run settings b later).page.controlsCreated = b.page.controlsCreated := by
  intro b
  have hb : Grown page b.page :=
    grown_run (b := { store, page, refusesControl }) (Grown.refl blank) acts
  refine ⟨?_, ?_, hb.counted, fun later hc => controlsCreated_run hc later⟩
  · intro a ha
    obtain ⟨t, ht, hs⟩ : ∃ t, (act settings a b).1 = some t ∧
        Shows t (act settings a b).2.page := shows_of_start_or_flip hb ha
    refine ⟨t, ht, ?_, hs.drawn, hs.blank⟩
    calc (act settings .askShown (act settings a b).2).1
        = some (Theme.ofDark (act settings a b).2.page.dark) := rfl
      _ = some t := by rw [hs.marker, Theme.ofDark_isDark]
  · simp only [act, bind_apply, flip_eq, pure_apply]
    rfl

/-- A page that is refused its control at first and gets it later, over a store
    that takes no writes, with the marker turned in between. -/
theorem marker_control_agree_refused :
    ({} : BarePage).control = none ∧
      let store : MemoryStorage := { refusesWrites := true }
      let b := run {} { store, refusesControl := true }
        [.start, .flip, .refuseControl false, .markDark false, .start]
      (act {} .flip b).1 = some .dark ∧ b.page.controlsCreated = 1 := by
  refine ⟨rfl, ?_⟩
  have h := marker_control_agree {} ({ refusesWrites := true } : MemoryStorage) {} rfl true
    [.start, .flip, .refuseControl false, .markDark false, .start]
  exact ⟨h.2.1, h.2.2.1⟩

end Bench

end Enhance
