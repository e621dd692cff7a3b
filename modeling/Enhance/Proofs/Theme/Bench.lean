/-
  Enhance/Proofs/Theme/Bench.lean
  ===============================
  **What each use of a switch does to a bench.**

  A switch on a bench can be run to the end whatever its store answers.  The
  equations of this file give the theme answered and the whole bench
  afterwards: what the store was asked, what the page became, which requests
  were made and what was said.  Later files read off them what they need and
  never run the switch again.
-/
import Enhance.Proofs.Action
import Enhance.Theme.Bench

namespace Enhance

/-! ### What follows from an answer of the store -/

/-- The theme that a switch settles on when its store gives this answer. -/
def ThemeSettings.settled (s : ThemeSettings) : Except StorageFault (Option String) → Theme
  | .ok (some raw) => (Theme.ofText? raw).getD s.fallback
  | .ok none => s.fallback
  | .error _ => s.fallback

/-- What a switch says of the answer to its read. -/
def readRemarks : Except StorageFault (Option String) → List Log.Entry
  | .ok (some raw) =>
    match Theme.ofText? raw with
    | some _ => []
    | none => [⟨.debug, "ignoring stored theme: " ++ Theme.unknownMessage raw⟩]
  | .ok none => []
  | .error fault => [⟨.warn, "theme preference unreadable: " ++ fault.message⟩]

/-- What a switch says of the answer to its write. -/
def writeRemarks : Except StorageFault Unit → List Log.Entry
  | .ok () => []
  | .error fault => [⟨.warn, "theme preference not saved: " ++ fault.message⟩]

/-- What a switch says when it starts with a theme, having made its control or
    not. -/
def startRemarks (made : Bool) (theme : Theme) : List Log.Entry :=
  (if made then [⟨.debug, "theme toggle control created"⟩] else []) ++
    [⟨.info, "theme initialized: " ++ theme.text⟩]

namespace Bench

variable {σ : Type}

/-! ### The page of a bench -/

/-- The page when a control is asked for: whether one was made, and the page
    then. -/
def opened (b : Bench σ) : Bool × BarePage :=
  if b.refusesControl then (false, b.page) else b.page.ensureControl

/-- The theme that a flip turns to. -/
def turned (b : Bench σ) : Theme := (Theme.ofDark b.page.dark).opposite

variable [Storage σ] (settings : ThemeSettings) (b : Bench σ)

/-! ### The uses of a switch -/

theorem settle_eq (answer : Except StorageFault (Option String)) :
    surface.settle settings answer b =
      (settings.settled answer, { b with log := b.log ++ readRemarks answer }) := by
  rcases answer with fault | (_ | raw)
  · rfl
  · simp [Surface.settle, ThemeSettings.settled, readRemarks]
  · cases h : Theme.ofText? raw with
    | none => simp [Surface.settle, ThemeSettings.settled, readRemarks, h, surface]
    | some t => simp [Surface.settle, ThemeSettings.settled, readRemarks, h]

/-- Asking for the preference is one read, and leaves the page alone. -/
theorem preference_eq :
    surface.preference settings b =
      let key := settings.storageKey
      let answer := (Storage.read key b.store).1
      (settings.settled answer,
        { b with
          store := (Storage.read key b.store).2
          calls := b.calls ++ [.read key]
          log := b.log ++ readRemarks answer }) := by
  unfold Surface.preference
  rw [bind_apply, settle_eq]
  rfl

theorem shown_eq :
    surface.shown b = (Theme.ofDark b.page.dark, { b with calls := b.calls ++ [.isDark] }) := rfl

/-- A start is one read; the control is asked for before anything is drawn. -/
theorem start_eq :
    surface.start settings b =
      let key := settings.storageKey
      let answer := (Storage.read key b.store).1
      let theme := settings.settled answer
      (theme,
        { b with
          store := (Storage.read key b.store).2
          page := { b.opened.2.renderControl theme.offer with dark := theme.isDark }
          calls := b.calls ++ [.read key, .ensureControl, .renderControl theme.offer.label,
            .setDark theme.isDark]
          log := b.log ++ readRemarks answer ++ startRemarks b.opened.1 theme }) := by
  unfold Surface.start
  rw [bind_apply, preference_eq]
  cases hr : b.refusesControl
  · cases hc : b.page.hasControl <;>
      simp [surface, note, ensureControl, opened, hr, hc, BarePage.ensureControl, startRemarks]
  · simp [surface, note, ensureControl, opened, hr, startRemarks]

theorem save_eq (t : Theme) :
    surface.save settings t b =
      let answer := Storage.write settings.storageKey t.text b.store
      ((),
        { b with
          store := answer.2
          calls := b.calls ++ [.write settings.storageKey t.text]
          log := b.log ++ writeRemarks answer.1 }) := by
  rcases h : Storage.write settings.storageKey t.text b.store with ⟨_ | _, store⟩ <;>
    simp [Surface.save, surface, note, ask, h, writeRemarks]

/-- A flip is one write, of the theme opposite to the marker, after the page has
    been changed. -/
theorem flip_eq :
    surface.flip settings b =
      let key := settings.storageKey
      let next := b.turned
      let answer := Storage.write key next.text b.store
      (next,
        { b with
          store := answer.2
          page := { b.page with dark := next.isDark }.renderControl next.offer
          calls := b.calls ++ [.isDark, .setDark next.isDark, .renderControl next.offer.label,
            .write key next.text]
          log := b.log ++ writeRemarks answer.1 }) := by
  simp only [Surface.flip, bind_apply, shown_eq, save_eq, pure_apply]
  simp [surface, note, turned]

end Bench

end Enhance
