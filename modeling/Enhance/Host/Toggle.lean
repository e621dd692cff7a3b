/-
  Enhance/Host/Toggle.lean
  ========================
  **The theme switch of a page with a document.**

  The body carries the dark marker as a class, the toggle control is a button
  with a known id, and the preference is an entry of the visitor's store.  A
  switch looks for its store once, when it is made; it keeps the control that
  it found or made, and looks again as long as it has none.

  The control flips the theme when clicked.  The attribute `boundAttribute`
  on the control says that it does already, so that a second switch on the
  same control does not flip a second time.
-/
import Enhance.Host.Effect

namespace Enhance.HostM

/-! ### Parts of a switch -/

def switch (i : Nat) : HostM BodySwitch := return ((← get).switches[i]?).getD ⟨{}, false, none⟩

def setControl (i : Nat) (control : NodeId) : HostM Unit :=
  modify fun h =>
    { h with switches := h.switches.modify i fun s => { s with control := some control } }

def bodyHasClass (name : String) : HostM Bool := return (← node 0).hasClass name

/-- Turns what an access to the store threw into a fault. -/
def refusal {α : Type} (access : Access) (key : String) :
    Except Thrown α → Except StorageFault α
  | .ok a => .ok a
  | .error t => .error (.refused access key t.reason)

/-- Makes the button.  One that cannot be finished stays out of the page. -/
def createControl (id : String) : HostM (Except Thrown NodeId) := do
  match ← createElement "button" with
  | .error t => return .error t
  | .ok button =>
    setId button id
    match ← setAttribute button "type" "button" with
    | .error t => return .error t
    | .ok () =>
      match ← appendChild 0 button with
      | .error t => return .error t
      | .ok () => return .ok button

/-- Finds or makes the control of a switch, unless it has one; whether it was
    made. -/
def ensureControl (i : Nat) : HostM Bool := do
  let s ← switch i
  if s.control.isSome then return false
  else
    match (← get).byId? s.settings.toggleId with
    | some found =>
      setControl i found
      return false
    | none =>
      match ← createControl s.settings.toggleId with
      | .ok button =>
        setControl i button
        return true
      | .error t =>
        say .warn ("theme toggle not created: " ++ t.reason)
        return false

/-- Draws an offer on the control of a switch, if it has one. -/
def renderControl (i : Nat) (o : Offer) : HostM Unit := do
  match (← switch i).control with
  | none => return ()
  | some control =>
    setMarkup control o.html
    tryAttribute control "aria-label" o.label
    tryAttribute control "title" o.label

/-- The host as surroundings of the switch of a number. -/
def surface (i : Nat) : Surface Host where
  read key := do
    if (← switch i).hasStore then return refusal .read key (← getItem key)
    else return .error .unavailable
  write key value := do
    if (← switch i).hasStore then return refusal .write key (← setItem key value)
    else return .error .unavailable
  isDark := do bodyHasClass (← switch i).settings.darkClass
  setDark dark := do markClass 0 (← switch i).settings.darkClass dark
  ensureControl := ensureControl i
  renderControl := renderControl i
  say := say

/-! ### Using a switch -/

/-- Does something with the switch of a number, under its settings. -/
def operate (act : Surface Host → ThemeSettings → HostM Theme) (i : Nat) : HostM Theme := do
  act (surface i) (← switch i).settings

def flipTheme (i : Nat) : HostM Theme := operate Surface.flip i

/-! ### Making a switch -/

/-- Says that clicks on a control flip the theme already. -/
def boundAttribute : String := "data-theme-bound"

/-- Makes a switch that has not started; its number. -/
def makeSwitch (settings : ThemeSettings) : HostM Nat := do
  let hasStore ← findStore
  if ¬ hasStore then say .warn "localStorage unavailable; theme changes will not persist"
  modifyGet fun h =>
    (h.switches.length, { h with switches := h.switches ++ [{ settings, hasStore }] })

/-- Has clicks on the control of a switch flip the theme, unless they do. -/
def bindControl (i : Nat) : HostM Unit := do
  match (← switch i).control with
  | none => return ()
  | some control =>
    if (← node control).attributes.contains boundAttribute then return ()
    else
      tryAttribute control boundAttribute ""
      listen (.node control) "click" (.flip i)

/-- Shows the preferred theme and makes it switchable; the number of the
    switch, if the page has a body. -/
def wireTheme (settings : ThemeSettings) : HostM (Option Nat) := do
  match (← get).body? with
  | none =>
    say .debug "no <body>; theme toggle skipped"
    return none
  | some _ =>
    let i ← makeSwitch settings
    let _ ← operate Surface.start i
    bindControl i
    return some i

def wireShortcut (chord : Chord) (i : Nat) : HostM Unit :=
  listen .document "keydown" (.shortcut chord i)

end Enhance.HostM
