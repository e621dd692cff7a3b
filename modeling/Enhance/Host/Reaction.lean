/-
  Enhance/Host/Reaction.lean
  ==========================
  **What happens when an event comes.**

  An event is handed to the listeners of its target and type, in the order in
  which they were attached; those attached meanwhile have to wait for the
  next one.  A reaction may prevent what the event would do by default.
  Observers are told of nodes that come into view in batches.
-/
import Enhance.Host.Wiring

namespace Enhance

/-- An event, with what a keyboard tells if it comes from one. -/
structure PageEvent where
  isKeyboard : Bool := false
  key : String := ""
  code : String := ""
  modifiers : Modifiers := {}
  repeated : Bool := false
  /-- The node it happened on. -/
  source : Option NodeId := none
deriving DecidableEq, Inhabited

/-- What came of sending an event: how many listeners were called, and whether
    one prevented the default. -/
structure Dispatched where
  handlers : Nat
  prevented : Bool
deriving DecidableEq

/-- A report to an observer: a node and whether it is in view now, or something
    that is no report at all. -/
inductive Sighting where
  | entry (node : NodeId) (inView : Bool)
  | other
deriving DecidableEq

namespace HostM

/-! ### Listeners -/

def keystroke (e : PageEvent) : HostM Keystroke := do
  let inEditable ← match e.source with
    | none => pure false
    | some i => do pure (← node i).isField
  return ⟨e.key, e.code, e.modifiers, e.repeated, inEditable⟩

/-- What a handler does about an event; whether it prevents the default. -/
def react (e : PageEvent) : Handler → HostM Bool
  | .enhance => do
    enhance
    return false
  | .flip i => do
    let _ ← flipTheme i
    return false
  | .shortcut chord i => do
    if ¬ e.isKeyboard then return false
    else if chord.matched (← keystroke e) then
      let theme ← flipTheme i
      say .debug (chord.render ++ " switched theme to " ++ theme.text)
      return true
    else return false
  | .follow i => do
    syncGate i
    return false
  | .scrollUp => do
    scrollUp
    return true

def handlersFor (target : Target) (type : String) : HostM (List Handler) := do
  let l := (← get).listeners.filter fun l => l.target = target ∧ l.type = type
  return l.map fun l => l.handler

def dispatch (target : Target) (type : String) (e : PageEvent) : HostM Dispatched := do
  let handlers ← handlersFor target type
  let prevented ← handlers.mapM (react e)
  return ⟨handlers.length, prevented.any id⟩

/-! ### Observers -/

/-- Reveals the nodes of a batch that are in view, each one later than the one
    before, and watches them no longer. -/
def revealBatch (o : Nat) (step cap : UInt32) : Nat → List Sighting → HostM Unit
  | _, [] => return ()
  | k, .entry i true :: rest => do
    if (← node i).isHtml then
      setStyle i "transition-delay" (Reveal.delayText (Reveal.delay k step cap))
    markClass i visibleClass true
    unobserve o i
    revealBatch o step cap (k + 1) rest
  | k, .entry _ false :: rest => revealBatch o step cap k rest
  | k, .other :: rest => revealBatch o step cap k rest

/-- Whether an observer gets to see a report: it watches the node, or there is
    no node. -/
def Sighting.reaches (o : Observer) : Sighting → Bool
  | .entry i _ => o.nodes.contains i
  | .other => true

/-- Tells an observer of a batch; how many reports reached it. -/
def sight (o : Nat) (batch : List Sighting) : HostM Nat := do
  match (← get).observers[o]? with
  | none => return 0
  | some observer =>
    let seen := batch.filter (Sighting.reaches observer)
    revealBatch o observer.step observer.cap 0 seen
    return seen.length

end HostM

end Enhance
