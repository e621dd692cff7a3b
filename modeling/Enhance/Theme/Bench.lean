/-
  Enhance/Theme/Bench.lean
  ========================
  **A page reduced to what the switch needs,** and a bench to try it on.

  `BarePage` has a dark marker and perhaps a control with an offer drawn on it;
  nothing is drawn while there is no control.  A `Bench` puts such a page
  beside a store of any kind, lists every request that the switch makes of
  either, and can keep the page from getting a control.  What befalls a switch
  on a bench is a `Bench.Act`: it is started, flipped or asked, or the page is
  changed from outside.
-/
import Enhance.Theme.Switch

namespace Enhance

/-! ### The page -/

/-- A page without a document. -/
structure BarePage where
  dark : Bool := false
  /-- There is a control, made here or there from the start. -/
  hasControl : Bool := false
  /-- Controls made here. -/
  controlsCreated : Nat := 0
  /-- What is drawn on the control. -/
  control : Option Offer := none
deriving DecidableEq, Inhabited

namespace BarePage

/-- Makes the control unless there is one; whether it was made. -/
def ensureControl (p : BarePage) : Bool × BarePage :=
  if p.hasControl then (false, p)
  else (true, { p with hasControl := true, controlsCreated := p.controlsCreated + 1 })

/-- Draws an offer on the control, if there is one. -/
def renderControl (p : BarePage) (o : Offer) : BarePage :=
  if p.hasControl then { p with control := some o } else p

theorem hasControl_ensureControl (p : BarePage) : p.ensureControl.2.hasControl = true := by
  unfold ensureControl; split <;> simp_all

@[simp] theorem hasControl_renderControl (p : BarePage) (o : Offer) :
    (p.renderControl o).hasControl = p.hasControl := by
  unfold renderControl; split <;> simp_all

@[simp] theorem dark_renderControl (p : BarePage) (o : Offer) :
    (p.renderControl o).dark = p.dark := by
  unfold renderControl; split <;> rfl

end BarePage

/-! ### The bench -/

/-- One request of the switch. -/
inductive SwitchCall where
  | read (key : String)
  | write (key value : String)
  | isDark
  | setDark (dark : Bool)
  | ensureControl
  | renderControl (label : String)
deriving DecidableEq

/-- A store, a page, and what was asked of them. -/
structure Bench (σ : Type) where
  store : σ
  page : BarePage := {}
  /-- While set, the page gets no control. -/
  refusesControl : Bool := false
  calls : List SwitchCall := []
  log : List Log.Entry := []

namespace Bench

variable {σ : Type}

/-- Lists a request. -/
def note (c : SwitchCall) : StateM (Bench σ) Unit :=
  modify fun b => { b with calls := b.calls ++ [c] }

/-- Passes a request on to the store. -/
def ask {α : Type} (request : StateM σ α) : StateM (Bench σ) α :=
  modifyGet fun b =>
    let (answer, store) := request b.store
    (answer, { b with store })

/-- Makes the control, unless there is one or the page may not get one. -/
def ensureControl : StateM (Bench σ) Bool :=
  modifyGet fun b =>
    if b.refusesControl then (false, b)
    else
      let (made, page) := b.page.ensureControl
      (made, { b with page })

def surface [Storage σ] : Surface (Bench σ) where
  read key := do note (.read key); ask (Storage.read key)
  write key value := do note (.write key value); ask (Storage.write key value)
  isDark := do note .isDark; return (← get).page.dark
  setDark dark := do
    note (.setDark dark)
    modify fun b => { b with page := { b.page with dark } }
  ensureControl := do note .ensureControl; ensureControl
  renderControl o := do
    note (.renderControl o.label)
    modify fun b => { b with page := b.page.renderControl o }
  say level text := modify fun b => { b with log := b.log ++ [⟨level, text⟩] }

/-! ### Runs -/

/-- One thing that can befall a switch and its page. -/
inductive Act where
  | start
  | flip
  | askShown
  | askPreference
  /-- Something else sets or removes the dark marker. -/
  | markDark (dark : Bool)
  /-- The page may not get a control from now on, or may again. -/
  | refuseControl (refuse : Bool)
deriving DecidableEq

/-- One act; the theme that the switch answers, if it was asked to do
    something. -/
def act [Storage σ] (settings : ThemeSettings) : Act → StateM (Bench σ) (Option Theme)
  | .start => do return some (← surface.start settings)
  | .flip => do return some (← surface.flip settings)
  | .askShown => do return some (← surface.shown)
  | .askPreference => do return some (← surface.preference settings)
  | .markDark dark => do
    modify fun b => { b with page := { b.page with dark } }
    return none
  | .refuseControl refuse => do
    modify fun b => { b with refusesControl := refuse }
    return none

def run [Storage σ] (settings : ThemeSettings) (b : Bench σ) (acts : List Act) : Bench σ :=
  acts.foldl (fun b a => (act settings a b).2) b

end Bench

end Enhance
