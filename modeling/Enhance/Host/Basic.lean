/-
  Enhance/Host/Basic.lean
  =======================
  **The surroundings of the enhancements: a page, a clock, a store, a network.**

  A `Host` is everything the enhancements can see or change.  What they leave
  behind for later, such as listeners, observers, timers and requests, is
  plain data in it, and so is what they share among themselves.  Every effect is
  listed in `trace`; some calls can be made to fail, and then have no effect.

  The body is the first node of the page.  Nodes are never dropped from the
  list, only detached, so that a number goes on meaning the same node.
-/
import Enhance.Commit.Status
import Enhance.Page.Selector
import Enhance.Scroll
import Enhance.Theme.Switch
import Enhance.Typewriter

namespace Enhance

/-- The number of a node; 0 is the body. -/
abbrev NodeId := Nat

/-! ### Calls -/

/-- What events are sent to. -/
inductive Target where
  | window
  | document
  | node (n : NodeId)
deriving DecidableEq

/-- A call that can be made to fail. -/
inductive Failable where
  | listen (type : String)
  | classList
  | createElement
  | appendChild
  | setAttribute
  | querySelectorAll
  | observer
  | scrollY
  | localStorage
  | matchMedia
  | getItem
  | setItem
deriving DecidableEq

/-- What a failing call throws: a text, or an object of which only a
    description is known. -/
inductive Thrown where
  | text (s : String)
  | object (description : String)
deriving DecidableEq

def Thrown.reason : Thrown → String
  | text s => s
  | object description => "JsValue(" ++ description ++ ")"

/-- One effect on the host. -/
inductive Call where
  | listen (target : Target) (type : String)
  | addClass (node : NodeId) (name : String)
  | removeClass (node : NodeId) (name : String)
  | setAttribute (node : NodeId) (name value : String)
  | setMarkup (node : NodeId) (html : String)
  | setText (node : NodeId) (text : String)
  | createElement (node : NodeId) (tag : String)
  | appendChild (parent child : NodeId)
  | setStyle (node : NodeId) (property value : String)
  | matchMedia (query : String)
  | getItem (key : String)
  | setItem (key value : String)
  | scrollTo (top : Binary64) (behavior : String)
  | makeObserver (threshold : Binary64)
  | observe (observer : Nat) (node : NodeId)
  | unobserve (observer : Nat) (node : NodeId)
  | makeTimer (delay : UInt32)
  | fetch (url : String) (headers : List (String × String))
  | readBody
deriving DecidableEq

/-! ### What the enhancements leave behind -/

/-- What a listener does when its event comes. -/
inductive Handler where
  /-- Enhances the page. -/
  | enhance
  /-- Flips the theme by the switch of this number. -/
  | flip (switch : Nat)
  /-- Flips the theme if the keystroke matches. -/
  | shortcut (chord : Chord) (switch : Nat)
  /-- Feeds the scroll offset to the gate of this number. -/
  | follow (gate : Nat)
  /-- Scrolls up smoothly. -/
  | scrollUp
deriving DecidableEq

/-- A handler for one type of event on one target. -/
structure Listener where
  target : Target
  type : String
  handler : Handler
deriving DecidableEq

/-- A theme switch on the body: whether it found a store when it was made, and
    the control it knows. -/
structure BodySwitch where
  settings : ThemeSettings
  hasStore : Bool
  control : Option NodeId := none
deriving DecidableEq

/-- A scroll gate and the button that it shows and hides. -/
structure ButtonGate where
  gate : ScrollGate
  button : NodeId
deriving DecidableEq

/-- Watches nodes for coming into view. -/
structure Observer where
  step : UInt32
  cap : UInt32
  nodes : List NodeId := []
deriving DecidableEq

/-- Where a typing task stands. -/
inductive TypingPhase where
  /-- About to make a timer. -/
  | ready
  /-- Its timer runs out at a time; the timers are numbered by age. -/
  | waiting (deadline age : Nat)
  /-- Its timer has run out. -/
  | woken
deriving DecidableEq

/-- What the network brings for a request. -/
inductive Delivery where
  | reply (status : UInt16) (body : String)
  /-- A reply whose body cannot be read. -/
  | brokenBody (status : UInt16) (reason : String)
  /-- No reply. -/
  | failure (reason : String)
deriving DecidableEq

/-- Where a commit task stands. -/
inductive CommitPhase where
  /-- About to send its request. -/
  | ready
  | waiting
  | answered (d : Delivery)
deriving DecidableEq

/-- Work that goes on after the step that began it. -/
inductive Task where
  | typing (node : NodeId) (delay : UInt32) (writer : Typewriter) (phase : TypingPhase)
  | commit (node : NodeId) (url : String) (offset : Int) (phase : CommitPhase)
deriving DecidableEq

/-! ### The host -/

/-- The surroundings of the enhancements. -/
structure Host where
  hasWindow : Bool := true
  hasDocument : Bool := true
  readyState : String := "complete"
  nodes : List Node
  /-- The stored entries; none if there is no store. -/
  storage : Option (Table String) := some .empty
  scrollY : Binary64 := .zero false
  /-- What the query for reduced motion finds; none if queries are not known. -/
  reducedMotion : Option Bool := some false
  /-- Minutes of the visitor's clock behind UTC. -/
  minutesBehind : Binary64 := .zero false
  /-- What each failing call throws. -/
  failures : Failable → Option Thrown := fun _ => none
  listeners : List Listener := []
  switches : List BodySwitch := []
  gates : List ButtonGate := []
  observers : List Observer := []
  tasks : List Task := []
  /-- Milliseconds since the beginning. -/
  now : Nat := 0
  timersMade : Nat := 0
  /-- The most talkative level that is logged; every level before one is set. -/
  logLimit : Option Log.Level := none
  trace : List Call := []
  log : List Log.Entry := []

abbrev HostM := StateM Host

namespace Host

def body? (h : Host) : Option NodeId :=
  match h.nodes with
  | n :: _ => if n.attached then some 0 else none
  | [] => none

/-- The first attached node with an id; no node has the empty one. -/
def byId? (h : Host) (id : String) : Option NodeId :=
  if id = "" then none else h.nodes.findIdx? fun n => n.attached && n.id? == some id

/-- The attached nodes that a selector selects, in order. -/
def select (h : Host) (s : Selector) : List NodeId :=
  (List.range h.nodes.length).filter fun i =>
    match h.nodes[i]? with
    | some n => n.attached && s.selects n
    | none => false

/-- Changes a node. -/
def edit (h : Host) (i : NodeId) (f : Node → Node) : Host := { h with nodes := h.nodes.modify i f }

def setFailure (h : Host) (c : Failable) (t : Option Thrown) : Host :=
  { h with failures := fun d => if d = c then t else h.failures d }

def Sound (h : Host) : Prop := ∀ c, h.failures c = none

theorem getElem?_edit_self (h : Host) (i : NodeId) (f : Node → Node) :
    (h.edit i f).nodes[i]? = h.nodes[i]?.map f := by
  simp [edit]

theorem getElem?_edit_of_ne (h : Host) {i j : NodeId} (hij : i ≠ j) (f : Node → Node) :
    (h.edit i f).nodes[j]? = h.nodes[j]? := by
  simp [edit, hij]

@[simp] theorem length_edit (h : Host) (i : NodeId) (f : Node → Node) :
    (h.edit i f).nodes.length = h.nodes.length := by
  simp [edit]

end Host

/-! ### Actions -/

namespace HostM

def record (c : Call) : HostM Unit := modify fun h => { h with trace := h.trace ++ [c] }

/-- Adds a message to the log, unless it is too talkative. -/
def say (level : Log.Level) (text : String) : HostM Unit :=
  modify fun h =>
    if (h.logLimit.map level.within).getD true then { h with log := h.log ++ [⟨level, text⟩] }
    else h

/-- Goes on unless this call is made to fail. -/
def attempt {α : Type} (c : Failable) (act : HostM (Except Thrown α)) :
    HostM (Except Thrown α) := do
  match (← get).failures c with
  | some t => return .error t
  | none => act

def node (i : NodeId) : HostM Node := return ((← get).nodes[i]?).getD {}

/-- Changes a node. -/
def editNode (i : NodeId) (f : Node → Node) : HostM Unit := modify fun h => h.edit i f

end HostM

end Enhance
