/-
  Enhance/Theme/Basic.lean
  ========================
  **The two themes of a page** and what the toggle offers under each.

  A theme has one written form, which is also what the store keeps; nothing
  else reads back as a theme (`ofText?_eq_some_iff`).  The control shows what a
  click would switch *to*, so its icon and label follow from the theme shown.
-/
import Enhance.Text.Quoted

namespace Enhance

/-- The visual mode of the page. -/
inductive Theme where
  | light | dark
deriving DecidableEq, Inhabited

/-- Icon and label on the toggle control; the label serves as accessible name
    and as title. -/
structure Offer where
  icon : String
  label : String
deriving DecidableEq, Inhabited

/-- The markup inside the control. -/
def Offer.html (o : Offer) : String := "<i class=\"" ++ o.icon ++ "\"></i>"

namespace Theme

/-- Written form, which is what the store keeps. -/
def text : Theme → String
  | light => "light"
  | dark => "dark"

/-- The theme of a page that is dark or is not. -/
def ofDark (d : Bool) : Theme := if d then dark else light

def isDark : Theme → Bool
  | light => false
  | dark => true

def opposite : Theme → Theme
  | light => dark
  | dark => light

/-- Reads a written form. -/
def ofText? (s : String) : Option Theme :=
  if s = "light" then some light else if s = "dark" then some dark else none

/-- What the control offers while this theme is shown. -/
def offer : Theme → Offer
  | light => ⟨"bx bx-moon", "Switch to dark mode"⟩
  | dark => ⟨"bx bx-sun", "Switch to light mode"⟩

def unknownMessage (s : String) : String := "unknown theme: " ++ Text.quote s

@[simp] theorem ofDark_isDark (t : Theme) : ofDark t.isDark = t := by cases t <;> rfl

@[simp] theorem isDark_ofDark (d : Bool) : (ofDark d).isDark = d := by cases d <;> rfl

@[simp] theorem opposite_opposite (t : Theme) : t.opposite.opposite = t := by cases t <;> rfl

@[simp] theorem isDark_opposite (t : Theme) : t.opposite.isDark = !t.isDark := by
  cases t <;> rfl

@[simp] theorem ofText?_text (t : Theme) : ofText? t.text = some t := by cases t <;> decide

/-- Only a theme's written form reads as a theme. -/
theorem ofText?_eq_some_iff {s : String} {t : Theme} : ofText? s = some t ↔ s = t.text := by
  constructor
  · intro h
    unfold ofText? at h
    split at h
    · cases h; assumption
    · split at h
      · cases h; assumption
      · cases h
  · rintro rfl; exact ofText?_text t

end Theme

/-! ### Settings of the toggle -/

/-- Where the preference is kept, what stands in for a missing one, the class
    that makes the body dark, and the id of the toggle control. -/
structure ThemeSettings where
  storageKey : String := "theme"
  fallback : Theme := .light
  darkClass : String := "dark-mode"
  toggleId : String := "dark-mode-toggle"
deriving DecidableEq, Inhabited

end Enhance
