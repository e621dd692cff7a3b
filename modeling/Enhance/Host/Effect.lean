/-
  Enhance/Host/Effect.lean
  ========================
  **What the enhancements can do to a host.**

  One action per effect.  Each lists itself in the trace and takes place, or,
  where its call can fail and does, answers what was thrown and leaves the
  host as it was.  Three calls are listed even when they fail: the query of
  the visitor's wishes and the two accesses to stored entries.
-/
import Enhance.Host.Basic

namespace Enhance.HostM

/-! ### Elements -/

def setAttribute (i : NodeId) (name value : String) : HostM (Except Thrown Unit) :=
  attempt .setAttribute do
    record (.setAttribute i name value)
    editNode i fun n => n.setAttribute name value
    return .ok ()

def setId (i : NodeId) (id : String) : HostM Unit := do
  record (.setAttribute i "id" id)
  editNode i fun n => n.setAttribute "id" id

def setMarkup (i : NodeId) (html : String) : HostM Unit := do
  record (.setMarkup i html)
  editNode i fun n => n.setMarkup html

def setText (i : NodeId) (text : String) : HostM Unit := do
  record (.setText i text)
  editNode i fun n => n.setText text

def setStyle (i : NodeId) (property value : String) : HostM Unit := do
  record (.setStyle i property value)
  editNode i fun n => n.setStyle property value

/-- What is thrown for a name that cannot be a class. -/
def classFault? (name : String) : Option Thrown :=
  if name = "" then some (.object "SyntaxError")
  else if name.toList.any Text.isAsciiBlank then some (.object "InvalidCharacterError")
  else none

def putClass (i : NodeId) (name : String) (present : Bool) : HostM (Except Thrown Unit) :=
  attempt .classList do
    match classFault? name with
    | some t => return .error t
    | none =>
      record (if present then .addClass i name else .removeClass i name)
      editNode i fun n => n.putClass name present
      return .ok ()

/-- Makes an element that is not part of the page yet. -/
def createElement (tag : String) : HostM (Except Thrown NodeId) :=
  attempt .createElement do
    let i := (← get).nodes.length
    record (.createElement i tag)
    modify fun h => { h with nodes := h.nodes ++ [{ tag, attached := false }] }
    return .ok i

/-- Makes an element part of the page. -/
def appendChild (parent child : NodeId) : HostM (Except Thrown Unit) :=
  attempt .appendChild do
    record (.appendChild parent child)
    editNode child fun n => { n with attached := true }
    return .ok ()

/-- The elements that a written selector selects. -/
def querySelectorAll (selector : String) : HostM (Except Thrown (List NodeId)) :=
  attempt .querySelectorAll do
    match Selector.ofText? selector with
    | some s => return .ok ((← get).select s)
    | none => return .error (.object "SyntaxError")

/-! ### Events, scrolling, the visitor's wishes -/

/-- Has a handler called for a type of event on a target. -/
def addListener (target : Target) (type : String) (handler : Handler) :
    HostM (Except Thrown Unit) :=
  attempt (.listen type) do
    record (.listen target type)
    modify fun h => { h with listeners := h.listeners ++ [⟨target, type, handler⟩] }
    return .ok ()

def scrollOffset : HostM (Except Thrown Binary64) :=
  attempt .scrollY do return .ok (← get).scrollY

def scrollUp : HostM Unit := record (.scrollTo (.zero false) "smooth")

/-- Whether the visitor asks for reduced motion; taken as no when that cannot
    be found out. -/
def wantsReducedMotion : HostM Bool := do
  record (.matchMedia "(prefers-reduced-motion: reduce)")
  let h ← get
  match h.failures .matchMedia with
  | some _ => return false
  | none => return h.reducedMotion.getD false

/-! ### The store -/

/-- Whether there is a store to use; without a window there is none. -/
def findStore : HostM Bool := do
  let h ← get
  match h.failures .localStorage with
  | some _ => return false
  | none => return h.hasWindow && h.storage.isSome

def getItem (key : String) : HostM (Except Thrown (Option String)) := do
  record (.getItem key)
  attempt .getItem do return .ok ((← get).storage.bind fun t => t.get? key)

def setItem (key value : String) : HostM (Except Thrown Unit) := do
  record (.setItem key value)
  attempt .setItem do
    modify fun h => { h with storage := h.storage.map fun t => t.insert key value }
    return .ok ()

/-! ### Observers -/

/-- Makes an observer that reveals what comes into view; its number. -/
def makeObserver (threshold : Binary64) (step cap : UInt32) : HostM (Except Thrown Nat) :=
  attempt .observer do
    record (.makeObserver threshold)
    let i := (← get).observers.length
    modify fun h => { h with observers := h.observers ++ [{ step, cap }] }
    return .ok i

/-- Changes the nodes that an observer watches. -/
def watch (i : Nat) (f : List NodeId → List NodeId) : HostM Unit :=
  modify fun h =>
    { h with observers := h.observers.modify i fun o => { o with nodes := f o.nodes } }

def observe (i : Nat) (node : NodeId) : HostM Unit := do
  record (.observe i node)
  watch i fun l => if l.contains node then l else l ++ [node]

def unobserve (i : Nat) (node : NodeId) : HostM Unit := do
  record (.unobserve i node)
  watch i fun l => l.filter fun m => m ≠ node

/-! ### Work for later -/

def spawn (t : Task) : HostM Unit := modify fun h => { h with tasks := h.tasks ++ [t] }

/-- Makes a timer: when it runs out, and its age. -/
def makeTimer (delay : UInt32) : HostM (Nat × Nat) := do
  record (.makeTimer delay)
  modifyGet fun h =>
    ((h.now + delay.toNat, h.timersMade), { h with timersMade := h.timersMade + 1 })

/-! ### Effects whose failure is only logged -/

/-- Adds or removes a class; a failure is worth a remark. -/
def markClass (i : NodeId) (name : String) (present : Bool) : HostM Unit := do
  match ← putClass i name present with
  | .ok () => return ()
  | .error t => say .debug ("class " ++ name ++ " not updated: " ++ t.reason)

/-- Has a handler called; a failure is worth a warning. -/
def listen (target : Target) (type : String) (handler : Handler) : HostM Unit := do
  match ← addListener target type handler with
  | .ok () => return ()
  | .error t => say .warn (type ++ " listener not attached: " ++ t.reason)

/-- Sets an attribute, and does nothing about a failure. -/
def tryAttribute (i : NodeId) (name value : String) : HostM Unit := do
  let _ ← setAttribute i name value
  return ()

end Enhance.HostM
