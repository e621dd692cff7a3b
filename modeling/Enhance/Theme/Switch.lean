/-
  Enhance/Theme/Switch.lean
  =========================
  **Showing a theme, and switching it.**

  The switch works on a `Surface`: a store for the preference, the dark marker
  on the page root, one toggle control, and the log.  It keeps no theme of its
  own; the marker alone says what is shown.  Starting up shows the preference
  and never writes the store.  A flip turns the marker round, redraws the
  control and then tries to save; a store that fails is reported and changes
  nothing on the page.
-/
import Enhance.Log
import Enhance.Theme.Basic
import Enhance.Theme.Storage

namespace Enhance

/-- What a switch needs of its surroundings `ω`. -/
structure Surface (ω : Type) where
  /-- Reads the entry under a key. -/
  read : String → StateM ω (Except StorageFault (Option String))
  /-- Writes an entry. -/
  write : String → String → StateM ω (Except StorageFault Unit)
  /-- Whether the page root carries the dark marker. -/
  isDark : StateM ω Bool
  /-- Adds or removes the dark marker. -/
  setDark : Bool → StateM ω Unit
  /-- Makes the control unless there is one; whether it was made. -/
  ensureControl : StateM ω Bool
  /-- Draws an offer on the control, if there is one. -/
  renderControl : Offer → StateM ω Unit
  /-- Adds a message to the log. -/
  say : Log.Level → String → StateM ω Unit

namespace Surface

variable {ω : Type}

/-- The theme to start with, given what the store answered: what is stored if
    it names a theme, and the fallback in every other case. -/
def settle (s : Surface ω) (settings : ThemeSettings) :
    Except StorageFault (Option String) → StateM ω Theme
  | .ok (some raw) =>
    match Theme.ofText? raw with
    | some t => pure t
    | none => do
      s.say .debug ("ignoring stored theme: " ++ Theme.unknownMessage raw)
      pure settings.fallback
  | .ok none => pure settings.fallback
  | .error fault => do
    s.say .warn ("theme preference unreadable: " ++ fault.message)
    pure settings.fallback

/-- The theme that the store asks for. -/
def preference (s : Surface ω) (settings : ThemeSettings) : StateM ω Theme := do
  s.settle settings (← s.read settings.storageKey)

/-- The theme that the page shows. -/
def shown (s : Surface ω) : StateM ω Theme := do
  return Theme.ofDark (← s.isDark)

/-- Makes sure that there is a control and shows the preferred theme. -/
def start (s : Surface ω) (settings : ThemeSettings) : StateM ω Theme := do
  let theme ← s.preference settings
  if ← s.ensureControl then
    s.say .debug "theme toggle control created"
  s.renderControl theme.offer
  s.setDark theme.isDark
  s.say .info ("theme initialized: " ++ theme.text)
  return theme

/-- Saves a theme, reporting a failure. -/
def save (s : Surface ω) (settings : ThemeSettings) (theme : Theme) : StateM ω Unit := do
  match ← s.write settings.storageKey theme.text with
  | .ok () => pure ()
  | .error fault => s.say .warn ("theme preference not saved: " ++ fault.message)

/-- Shows the opposite of the theme shown, then saves it. -/
def flip (s : Surface ω) (settings : ThemeSettings) : StateM ω Theme := do
  let next := (← s.shown).opposite
  s.setDark next.isDark
  s.renderControl next.offer
  s.save settings next
  return next

end Surface

end Enhance
