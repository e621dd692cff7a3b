/-
  Enhance/Host/Session.lean
  =========================
  **Runs of an enhanced page.**

  A session is a host with the theme switch at hand, if there is one.  A step
  is something the page does by itself, something the visitor or the network
  does, or a change from outside.  After every step the tasks run once, so
  that work begun in a step gets as far as its first wait.
-/
import Enhance.Host.Reaction
import Enhance.Host.Work

namespace Enhance

/-- A host and the number of the switch at hand. -/
structure Session where
  host : Host
  held : Option Nat := none

namespace Session

/-! ### Steps -/

/-- What can be done with the switch at hand. -/
inductive Use where
  | start | flip | askShown | askPreference
deriving DecidableEq

/-- One thing that can happen. -/
inductive Step where
  | start
  | enhance
  /-- Makes a theme switch and takes it to hand. -/
  | wireTheme (s : ThemeSettings)
  /-- Has a chord flip the switch at hand. -/
  | wireShortcut (c : Chord)
  | wireBackToTop (s : BackToTopSettings)
  | wireReveal (s : RevealSettings) (reducedMotion : Bool)
  | wireTyping (s : TypingSettings) (reducedMotion : Bool)
  | wireCommits (s : CommitSettings)
  | use (u : Use)
  /-- The document is ready. -/
  | ready
  | event (target : Target) (type : String) (e : PageEvent)
  | scroll (offset : Binary64)
  | sight (observer : Nat) (batch : List Sighting)
  /-- Milliseconds pass. -/
  | elapse (ms : Nat)
  /-- The network answers. -/
  | respond (d : Delivery)
  /-- Something else sets an attribute, or takes it away. -/
  | putAttribute (node : NodeId) (name : String) (value : Option String)
  /-- Something else adds an element. -/
  | addElement (n : Node)
  /-- Something else takes an element off the page. -/
  | detach (node : NodeId)
  /-- A call fails from now on, or works again. -/
  | putFailure (c : Failable) (t : Option Thrown)

inductive Answer where
  | none
  /-- The number of the theme switch that was made, if one was. -/
  | made (switch : Option Nat)
  | flag (b : Bool)
  | count (n : Nat)
  | theme (t : Theme)
  | dispatched (d : Dispatched)
  /-- A task broke down. -/
  | broken (o : Overrun)
deriving DecidableEq

def operate (i : Nat) : Use → HostM Theme
  | .start => HostM.operate Surface.start i
  | .flip => HostM.flipTheme i
  | .askShown => HostM.operate (fun s _ => s.shown) i
  | .askPreference => HostM.operate Surface.preference i

/-- Sends an event, and answers what came of it. -/
def send (target : Target) (type : String) (e : PageEvent) : HostM Answer := do
  return .dispatched (← HostM.dispatch target type e)

/-- An action that answers nothing. -/
def silent (act : HostM Unit) : HostM Answer := do
  act
  return .none

/-- The answer of a breakdown, if there was one. -/
def ofOverrun : Option Overrun → Answer
  | some o => .broken o
  | none => .none

/-- What a step does before the tasks run, with a switch at hand. -/
def act (held : Option Nat) : Step → HostM Answer
  | .start => silent HostM.start
  | .enhance => silent HostM.enhance
  | .wireTheme s => do return .made (← HostM.wireTheme s)
  | .wireShortcut c =>
    match held with
    | some i => silent (HostM.wireShortcut c i)
    | none => return .none
  | .wireBackToTop s => silent (HostM.wireBackToTop s)
  | .wireReveal s reducedMotion => silent (HostM.wireReveal s reducedMotion)
  | .wireTyping s reducedMotion => silent (HostM.wireTyping s reducedMotion)
  | .wireCommits s => silent (HostM.wireCommits s)
  | .use u =>
    match held with
    | some i => do return .theme (← operate i u)
    | none => return .none
  | .ready => do
    modify fun h => { h with readyState := "interactive" }
    send .document "DOMContentLoaded" {}
  | .event target type e => send target type e
  | .scroll offset => do
    modify fun h => { h with scrollY := offset }
    send .window "scroll" {}
  | .sight o batch => do return .count (← HostM.sight o batch)
  | .elapse ms => do return ofOverrun (← HostM.elapse ms)
  | .respond d => do return .flag (← HostM.respond d)
  | .putAttribute i name value =>
    silent (HostM.editNode i fun n =>
      match value with
      | some v => n.setAttribute name v
      | none => n.removeAttribute name)
  | .addElement n => silent (modify fun h => { h with nodes := h.nodes ++ [n] })
  | .detach i => silent (HostM.editNode i fun n => { n with attached := false })
  | .putFailure c t => silent (modify fun h => h.setFailure c t)

/-- The switch at hand after an answer: the one just made, or none if it could
    not be made. -/
def Answer.held (before : Option Nat) : Answer → Option Nat
  | .made switch => switch
  | _ => before

/-- A step with the tasks run after it, and the switch then at hand; a
    breakdown takes the answer's place. -/
def perform (held : Option Nat) (t : Step) : HostM (Answer × Option Nat) := do
  let answer ← act held t
  let held := answer.held held
  match ← HostM.runTasks with
  | some o => return (.broken o, held)
  | none => return (answer, held)

def step (s : Session) (t : Step) : Answer × Session :=
  let ((answer, held), host) := perform s.held t s.host
  (answer, { host, held })

/-- Forgets the effects and messages so far. -/
def cleared (s : Session) : Session := { s with host := { s.host with trace := [], log := [] } }

def run (s : Session) (steps : List Step) : Session :=
  steps.foldl (fun s t => (s.step t).2) s

end Session

end Enhance
