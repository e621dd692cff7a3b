/-
  Enhance/Host/Wiring.lean
  ========================
  **Setting up every enhancement of a page.**

  Each feature looks for its own elements and does without when they are
  missing, so that one missing element disables one feature.  `enhance` reads
  the settings off the body and sets all of them up; `start` does so at once
  or, while the page is still loading, when the document is ready.
-/
import Enhance.Host.Toggle
import Enhance.Reveal
import Enhance.Settings.Attribute

namespace Enhance.HostM

/-! ### Back to top -/

/-- Feeds the scroll offset to a gate, and shows or hides its button when the
    gate says so.  An offset that cannot be read counts as zero. -/
def syncGate (i : Nat) : HostM Unit := do
  let offset ← scrollOffset
  match (← get).gates[i]? with
  | none => return ()
  | some g =>
    let (answer, gate) := g.gate.update (offset.toOption.getD (.zero false))
    modify fun h => { h with gates := h.gates.modify i fun g => { g with gate } }
    match answer with
    | some visible => markClass g.button visibleClass visible
    | none => return ()

/-- Has the button show past the threshold and scroll up when clicked. -/
def wireBackToTop (s : BackToTopSettings) : HostM Unit := do
  match (← get).byId? s.elementId with
  | none => say .debug ("#" ++ s.elementId ++ " not found; back-to-top skipped")
  | some button =>
    let i := (← get).gates.length
    modify fun h => { h with gates := h.gates ++ [⟨{ threshold := s.threshold }, button⟩] }
    syncGate i
    listen .window "scroll" (.follow i)
    listen (.node button) "click" .scrollUp

/-! ### Reveal -/

def revealAll (l : List NodeId) : HostM Unit := l.forM fun i => markClass i visibleClass true

/-- Has elements fade in as they come into view; shows them at once for a
    visitor who wants reduced motion, or when they cannot be watched. -/
def wireReveal (s : RevealSettings) (reducedMotion : Bool) : HostM Unit := do
  match ← querySelectorAll s.selector with
  | .error t =>
    say .warn ("reveal selector " ++ Text.quote s.selector ++ " rejected: " ++ t.reason)
  | .ok [] => say .debug ("no " ++ s.selector ++ " elements; reveal skipped")
  | .ok elements =>
    if reducedMotion then revealAll elements
    else
      match ← makeObserver s.threshold s.step s.cap with
      | .error t =>
        say .warn ("IntersectionObserver unavailable: " ++ t.reason)
        revealAll elements
      | .ok i => elements.forM (observe i)

/-! ### Typing -/

/-- Has the tagline typed anew, unless it is blank or the visitor wants reduced
    motion. -/
def wireTyping (s : TypingSettings) (reducedMotion : Bool) : HostM Unit := do
  match (← get).byId? s.elementId with
  | none => say .debug ("#" ++ s.elementId ++ " not found; typing skipped")
  | some i =>
    let line := Text.trim (← node i).text
    if reducedMotion ∨ line = "" then return ()
    else
      setText i ""
      spawn (.typing i s.delay (.ofText line) .ready)

/-! ### Last update -/

/-- Has the time of the newest commit fetched and shown, if there is anything
    to ask and somewhere to show it. -/
def wireCommits (s : CommitSettings) : HostM Unit := do
  let element := (← get).byId? s.elementId
  match lastUpdatedUrl s element.isSome with
  | .error skip => say .debug skip.message
  | .ok url =>
    match element with
    | none => return ()
    | some i => spawn (.commit i url (offsetOfMinutesBehind (← get).minutesBehind) .ready)

/-! ### Everything -/

/-- The settings that the body asks for, and the values refused. -/
def readSettings : HostM (Settings × List Rejection) := do
  let h ← get
  match h.body? with
  | none => return Settings.ofAttributes fun _ => none
  | some i =>
    let body ← node i
    return Settings.ofAttributes body.attributes.get?

/-- Sets the limit of the log, the first time only. -/
def limitLog (level : Log.Level) : HostM Unit :=
  modify fun h => { h with logLimit := some (h.logLimit.getD level) }

/-- Sets every enhancement up, as the body asks for. -/
def enhancePage : HostM Unit := do
  let (settings, rejected) ← readSettings
  limitLog settings.logLevel
  rejected.forM fun r =>
    say .warn ("page config attribute ignored, keeping its default: " ++ r.message)
  let reducedMotion ← wantsReducedMotion
  match ← wireTheme settings.theme with
  | some i => wireShortcut settings.shortcut i
  | none => pure ()
  wireBackToTop settings.backToTop
  wireReveal settings.reveal reducedMotion
  wireTyping settings.typing reducedMotion
  wireCommits settings.commits

/-- Sets every enhancement up, if there is a page at all. -/
def enhance : HostM Unit := do
  let h ← get
  if h.hasWindow && h.hasDocument then enhancePage

/-- Sets every enhancement up as soon as the document is ready. -/
def start : HostM Unit := do
  let h ← get
  if h.hasWindow && h.hasDocument then
    if h.readyState = "loading" then listen .document "DOMContentLoaded" .enhance else enhance

end Enhance.HostM
