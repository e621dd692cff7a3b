/-
  Enhance/Host/Work.lean
  ======================
  **Tasks, timers and requests.**

  A task runs until it has to wait for a timer or a reply.  A pass runs every
  task once, in the order in which they began.  Time passes only in `elapse`:
  the timers due by then run out one at a time, earliest first and the older
  of two first, the clock standing at the time of each; a pass after each lets
  the woken task go on, and a timer that it makes may run out as well.
-/
import Enhance.Host.Effect

namespace Enhance

namespace HostM

/-! ### One task -/

/-- The host as surroundings of a refresh that has its reply. -/
def commitPort (i : NodeId) (brought : Except FetchFault Reply) : CommitPort Host where
  fetch _ := return brought
  setText text := setText i text
  say e := say e.level e.text

/-- Whether a response is a success to the network, from 200 to 299. -/
def isOkStatus (status : UInt16) : Bool := 200 ≤ status && status ≤ 299

/-- The network and the judge of the reply agree on what a success is, so a
    body that is judged was read. -/
theorem isOkStatus_eq_ok (status : UInt16) (body : String) :
    isOkStatus status = Reply.ok ⟨status, body⟩ := by
  have hlast : status ≤ 299 ↔ status < 300 := by
    simp only [UInt16.le_iff_toNat_le, UInt16.lt_iff_toNat_lt]
    exact Nat.lt_succ_iff.symm
  simp only [isOkStatus, Reply.ok, hlast]

/-- What a request brought, once its body is read; the body of a response that
    is no success is not. -/
def receive : Delivery → HostM (Except FetchFault Reply)
  | .failure reason => return .error (.request reason)
  | .reply status body => do
    if isOkStatus status then
      record .readBody
      return .ok ⟨status, body⟩
    else return .ok ⟨status, ""⟩
  | .brokenBody status reason => do
    if isOkStatus status then
      record .readBody
      return .error (.body reason)
    else return .ok ⟨status, ""⟩

/-- Makes the timer before the next character, unless the line is typed. -/
def awaitKey (i : NodeId) (delay : UInt32) (writer : Typewriter) : HostM (Option Task) := do
  match writer.left with
  | [] => return none
  | _ :: _ =>
    let (deadline, age) ← makeTimer delay
    return some (.typing i delay writer (.waiting deadline age))

/-- The header that asks for the network's newest format. -/
def acceptHeader : String × String := ("Accept", "application/vnd.github+json")

/-- Runs a task until it waits: what is left of it, and whether it broke down. -/
def runTask : Task → HostM (Option Task × Option Overrun)
  | .typing i delay writer .ready => do return (← awaitKey i delay writer, none)
  | .typing i delay writer (.waiting deadline age) =>
    return (some (.typing i delay writer (.waiting deadline age)), none)
  | .typing i delay writer .woken => do
    match writer.next? with
    | none => return (none, none)
    | some next =>
      setText i next.frame
      return (← awaitKey i delay next, none)
  | .commit i url offset .ready => do
    record (.fetch url [acceptHeader])
    return (some (.commit i url offset .waiting), none)
  | .commit i url offset .waiting => return (some (.commit i url offset .waiting), none)
  | .commit i url offset (.answered d) => do
    let brought ← receive d
    match ← (commitPort i brought).refresh url offset with
    | .error overrun => return (none, some overrun)
    | .ok status =>
      say .debug ("last commit status: " ++ status.logText)
      return (none, none)

/-! ### All tasks -/

/-- Runs every task once; whether one broke down. -/
def runTasks : HostM (Option Overrun) := do
  let outcomes ← (← get).tasks.mapM runTask
  modify fun h => { h with tasks := outcomes.filterMap Prod.fst }
  return outcomes.findSome? Prod.snd

end HostM

/-! ### Timers -/

namespace Task

/-- Deadline and age of the timer that a task waits for. -/
def timer? : Task → Option (Nat × Nat)
  | typing _ _ _ (.waiting deadline age) => some (deadline, age)
  | _ => none

/-- Wakes a task whose timer has this age. -/
def wake (age : Nat) : Task → Task
  | typing i delay writer (.waiting deadline a) =>
    if a = age then typing i delay writer .woken else typing i delay writer (.waiting deadline a)
  | t => t

/-- The characters that a task has still to type. -/
def left : Task → Nat
  | typing _ _ writer _ => writer.left.length
  | commit .. => 0

/-- Hands a delivery to a task that waits for one. -/
def answer? (d : Delivery) : Task → Option Task
  | commit i url offset .waiting => some (commit i url offset (.answered d))
  | _ => none

end Task

/-- The earlier of two timers, of two at the same time the older. -/
def earlierTimer (a b : Nat × Nat) : Nat × Nat :=
  if b.1 < a.1 ∨ (b.1 = a.1 ∧ b.2 < a.2) then b else a

namespace Host

def firstTimer? (h : Host) : Option (Nat × Nat) :=
  match h.tasks.filterMap Task.timer? with
  | [] => none
  | t :: rest => some (rest.foldl earlierTimer t)

/-- The characters that all tasks have still to type, and so a bound on the
    timers that can still run out. -/
def keysLeft (h : Host) : Nat := h.tasks.foldr (fun t sum => t.left + sum) 0

end Host

namespace HostM

/-- Lets the timer of an age run out at its deadline. -/
def fire (deadline age : Nat) : HostM (Option Overrun) := do
  modify fun h => { h with now := deadline, tasks := h.tasks.map (Task.wake age) }
  runTasks

/-- Lets the timers due by `limit` run out one after the other; no more of them
    than there are characters left. -/
def fireDue (limit : Nat) : Nat → HostM (Option Overrun)
  | 0 => return none
  | keys + 1 => do
    match (← get).firstTimer? with
    | none => return none
    | some (deadline, age) =>
      if limit < deadline then return none
      else
        match ← fire deadline age with
        | some overrun => return some overrun
        | none => fireDue limit keys

def elapse (ms : Nat) : HostM (Option Overrun) := do
  let h ← get
  let broken ← fireDue (h.now + ms) h.keysLeft
  modify fun g => { g with now := h.now + ms }
  return broken

/-! ### Requests -/

/-- Hands a delivery to the first task that waits for one. -/
def answerFirst (d : Delivery) : List Task → Option (List Task)
  | [] => none
  | t :: rest =>
    match t.answer? d with
    | some t' => some (t' :: rest)
    | none => (answerFirst d rest).map fun rest' => t :: rest'

/-- Answers the oldest waiting request; whether there was one. -/
def respond (d : Delivery) : HostM Bool := do
  match answerFirst d (← get).tasks with
  | none => return false
  | some tasks =>
    modify fun h => { h with tasks }
    return true

end HostM

end Enhance
