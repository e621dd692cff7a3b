/-
  Enhance/Proofs/Host/Loading.lean
  ================================
  **Starting early is starting late.**

  A start while the document is loading waits for it and does nothing else.
  What happens around the page meanwhile is not answered (`step_untouched`); when
  the document is ready, the page is enhanced as it stands then.  What comes of it
  differs from what comes of a start at that time in the listener that was left
  behind and in nothing else, whatever happens after that (`start_early`).
-/
import Enhance.Proofs.Host.Awaiting
import Enhance.Proofs.Host.Clicked
import Enhance.Proofs.Host.Standing

namespace Enhance

namespace Host

/-- Nothing on the page is listened for, watched or worked on. -/
structure Untouched (h : Host) : Prop where
  listeners : h.listeners = []
  observers : h.observers = []
  tasks : h.tasks = []

variable {h : Host}

theorem Untouched.handlers (h0 : h.Untouched) (target : Target) (type : String) :
    h.handlers target type = [] := by
  rw [Host.handlers, h0.listeners]
  rfl

theorem Untouched.handlers_awaiting (h0 : h.Untouched) (ready : String) (called : List Call) :
    (h.awaiting ready called).handlers .document "DOMContentLoaded" = [.enhance] := by
  rw [Host.handlers, awaiting, h0.listeners]
  rfl

end Host

namespace Session

open Host HostM

variable {s : Session} {ready : String} {called : List Call}

/-! ### Around a page -/

/-- The document says that it is ready. -/
def Step.isReady : Step → Bool
  | .ready => true
  | .event target type _ => target = .document ∧ type = "DOMContentLoaded"
  | _ => false

/-- A start, or what a start may wait for. -/
def Step.isStart : Step → Bool
  | .start => true
  | t => t.isReady

/-- What may happen around a page before its document is ready. -/
def Step.isAround : Step → Bool
  | .putFailure .. => true
  | t => t.befalls && !t.isReady

theorem Step.isStart_of_isAround {t : Step} (ht : t.isAround = true) : t.isStart = false := by
  cases t with
  | start => cases ht
  | ready => cases ht
  | event target type e => simpa [isAround, isStart, befalls, isVisit] using ht
  | _ => rfl

/-- What a step does to a page on which nothing answers it. -/
def Step.around (h : Host) : Step → Host
  | .scroll offset => { h with scrollY := offset }
  | .elapse ms => { h with now := h.now + ms }
  | .putAttribute i name value =>
    h.edit i fun n =>
      match value with
      | some v => n.setAttribute name v
      | none => n.removeAttribute name
  | .addElement n => { h with nodes := h.nodes ++ [n] }
  | .detach i => h.edit i fun n => { n with attached := false }
  | .putFailure c thrown => h.setFailure c thrown
  | _ => h

/-- The elements, the offset, the clock and the failures are all that changes around a page. -/
theorem exists_around (h : Host) (t : Step) : ∃ nodes scrollY now failures,
    t.around h = { h with nodes, scrollY, now, failures } := by
  cases t <;> exact ⟨_, _, _, _, rfl⟩

theorem exists_foldl_around (h : Host) (steps : List Step) : ∃ nodes scrollY now failures,
    steps.foldl Step.around h = { h with nodes, scrollY, now, failures } := by
  induction steps generalizing h with
  | nil => exact ⟨_, _, _, _, rfl⟩
  | cons t rest ih =>
    obtain ⟨nodes, scrollY, now, failures, hfirst⟩ := exists_around h t
    obtain ⟨nodes', scrollY', now', failures', hrest⟩ := ih (t.around h)
    rw [List.foldl_cons, hrest, hfirst]
    exact ⟨_, _, _, _, rfl⟩

theorem act_untouched {h : Host} (h0 : h.Untouched) (held : Option Nat) {t : Step}
    (ht : t.isAround = true) :
    ∃ answer : Answer, act held t h = (answer, t.around h) ∧ answer.held held = held := by
  have hsend : ∀ {k : Host} target type e, k.Untouched →
      send target type e k = (.dispatched ⟨0, false⟩, k) := by
    intro k target type e hk
    unfold send
    rw [bind_apply, dispatch_unheard (hk.handlers target type)]
    rfl
  cases t with
  | event target type e => exact ⟨_, hsend target type e h0, rfl⟩
  | scroll offset =>
    have hscrolled : ({ h with scrollY := offset } : Host).Untouched :=
      ⟨h0.listeners, h0.observers, h0.tasks⟩
    exact ⟨_, hsend .window "scroll" {} hscrolled, rfl⟩
  | sight o batch =>
    have hnone : sight o batch h = (0, h) := by
      unfold sight
      rw [bind_apply, get_apply, h0.observers]
      rfl
    refine ⟨.count 0, ?_, rfl⟩
    show (do return .count (← sight o batch) : HostM Answer) h = _
    rw [bind_apply, hnone]
    rfl
  | elapse ms =>
    refine ⟨.none, ?_, rfl⟩
    show (do return ofOverrun (← elapse ms) : HostM Answer) h = _
    rw [bind_apply, elapse_eq (by rw [h0.tasks]; rfl)]
    rfl
  | respond d =>
    refine ⟨.flag false, ?_, rfl⟩
    show (do return .flag (← respond d) : HostM Answer) h = _
    rw [bind_apply, respond_eq (by rw [h0.tasks]; rfl)]
    rfl
  | putAttribute i name value => exact ⟨.none, rfl, rfl⟩
  | addElement n => exact ⟨.none, rfl, rfl⟩
  | detach i => exact ⟨.none, rfl, rfl⟩
  | putFailure c thrown => exact ⟨.none, rfl, rfl⟩
  | _ => cases ht

theorem untouched_around {h : Host} (h0 : h.Untouched) (t : Step) : (t.around h).Untouched := by
  obtain ⟨nodes, scrollY, now, failures, heq⟩ := exists_around h t
  rw [heq]
  exact ⟨h0.listeners, h0.observers, h0.tasks⟩

theorem step_untouched (h0 : s.host.Untouched) {t : Step} (ht : t.isAround = true) :
    (s.step t).2 = { s with host := t.around s.host } := by
  obtain ⟨answer, hact, hheld⟩ := act_untouched h0 s.held ht
  rw [step_eq_of_act hact, hheld]
  rw [(untouched_around h0 t).tasks]
  exact fun task htask => nomatch htask

theorem run_untouched (h0 : s.host.Untouched) {steps : List Step}
    (hsteps : ∀ t ∈ steps, t.isAround = true) :
    s.run steps = { s with host := steps.foldl Step.around s.host } := by
  induction steps generalizing s with
  | nil => rfl
  | cons t rest ih =>
    obtain ⟨ht, hrest⟩ := List.forall_mem_cons.mp hsteps
    have hstep := step_untouched h0 ht
    show (s.step t).2.run rest = _
    rw [hstep]
    exact ih (untouched_around h0 t) hrest

/-! ### While the document is awaited -/

/-- The session on the page that awaits its document. -/
def awaiting (s : Session) (ready : String) (called : List Call) : Session :=
  { s with host := s.host.awaiting ready called }

theorem unaware_operate (i : Nat) (u : Use) : Unaware ready called (operate i u) := by
  cases u with
  | start => exact unaware_operate_start i
  | flip => exact unaware_flipTheme i
  | askShown =>
    exact (unaware_switch i).bind fun _ => Unaware.bind (twin_awaiting i).isDark fun _ =>
      unaware_pure _
  | askPreference =>
    exact (unaware_switch i).bind fun s => Unaware.bind ((twin_awaiting i).read _) fun _ =>
      (twin_awaiting i).settle s.settings _

theorem unaware_act (held : Option Nat) {t : Step} (ht : t.isStart = false) :
    Unaware ready called (act held t) := by
  have hsend : ∀ {target : Target} {type : String},
      ¬ (target = .document ∧ type = "DOMContentLoaded") → ∀ e,
      Unaware ready called (send target type e) := fun hother e =>
    (unaware_dispatch hother e).bind fun _ => unaware_pure _
  have hsilent : ∀ {made : HostM Unit}, Unaware ready called made →
      Unaware ready called (silent made) := fun hmade => hmade.bind fun _ => unaware_pure _
  cases t with
  | start => cases ht
  | ready => cases ht
  | enhance => exact hsilent unaware_enhance
  | wireTheme settings => exact (unaware_wireTheme settings).bind fun _ => unaware_pure _
  | wireShortcut chord =>
    cases held with
    | none => exact unaware_pure _
    | some i => exact hsilent (unaware_listen _ _ _)
  | wireBackToTop settings => exact hsilent (unaware_wireBackToTop settings)
  | wireReveal settings reducedMotion => exact hsilent (unaware_wireReveal settings _)
  | wireTyping settings reducedMotion => exact hsilent (unaware_wireTyping settings _)
  | wireCommits settings => exact hsilent (unaware_wireCommits settings)
  | use u =>
    cases held with
    | none => exact unaware_pure _
    | some i => exact (unaware_operate i u).bind fun _ => unaware_pure _
  | event target type e => exact hsend (of_decide_eq_false ht) e
  | scroll offset =>
    refine (unaware_modify fun _ => rfl).bind fun _ => hsend ?_ {}
    rintro ⟨⟨⟩, -⟩
  | sight o batch => exact (unaware_sight o batch).bind fun _ => unaware_pure _
  | elapse ms => exact (unaware_elapse ms).bind fun _ => unaware_pure _
  | respond d => exact (unaware_respond d).bind fun _ => unaware_pure _
  | putAttribute i name value => exact hsilent (unaware_editNode _ _)
  | addElement n => exact hsilent (unaware_modify fun _ => rfl)
  | detach i => exact hsilent (unaware_editNode _ _)
  | putFailure c thrown => exact hsilent (unaware_modify fun _ => rfl)

theorem step_awaiting {t : Step} (ht : t.isStart = false) :
    (s.awaiting ready called).step t = ((s.step t).1, (s.step t).2.awaiting ready called) := by
  have hperform : Unaware ready called (perform s.held t) := by
    refine (unaware_act s.held ht).bind fun answer => unaware_runTasks.bind fun broken => ?_
    cases broken <;> exact unaware_pure _
  obtain ⟨hanswer, hhost⟩ := hperform s.host _ rfl
  have hstep : ∀ s : Session, s.step t = ((perform s.held t s.host).1.1,
      ⟨(perform s.held t s.host).2, (perform s.held t s.host).1.2⟩) := fun _ => rfl
  rw [hstep, hstep, awaiting, awaiting]
  rw [hanswer, ← hhost]

theorem run_awaiting {steps : List Step} (hsteps : ∀ t ∈ steps, t.isStart = false) :
    (s.awaiting ready called).run steps = (s.run steps).awaiting ready called := by
  induction steps generalizing s with
  | nil => rfl
  | cons t rest ih =>
    obtain ⟨ht, hrest⟩ := List.forall_mem_cons.mp hsteps
    show ((s.awaiting ready called).step t).2.run rest = _
    rw [step_awaiting ht]
    exact ih hrest

/-! ### Early and late -/

/-- While the document is loading a start leaves its listener behind. -/
theorem start_loading {h : Host} (h0 : h.Untouched) (hwindow : h.hasWindow = true)
    (hdocument : h.hasDocument = true) (hloading : h.readyState = "loading")
    (hlisten : h.failures (.listen "DOMContentLoaded") = none) :
    HostM.start h = ((), ({ h with trace := [] } : Host).awaiting "loading"
      (h.trace ++ [.listen .document "DOMContentLoaded"])) := by
  have hlater : HostM.start h = listen .document "DOMContentLoaded" .enhance h := by
    unfold HostM.start
    simp [hwindow, hdocument, hloading]
  rw [hlater, listen_of_works hlisten, Host.awaiting, ← hloading, h0.listeners, List.append_nil]
  rfl

theorem step_start_loading (h0 : s.host.Untouched) (hwindow : s.host.hasWindow = true)
    (hdocument : s.host.hasDocument = true) (hloading : s.host.readyState = "loading")
    (hlisten : s.host.failures (.listen "DOMContentLoaded") = none) :
    (s.step .start).2 = ({ s with host := { s.host with trace := [] } } : Session).awaiting
      "loading" (s.host.trace ++ [.listen .document "DOMContentLoaded"]) := by
  have hstart := start_loading h0 hwindow hdocument hloading hlisten
  have hact : act s.held .start s.host = (.none, (HostM.start s.host).2) := rfl
  rw [hstart] at hact
  rw [step_eq_of_act hact fun t ht => ?_]
  · rfl
  · have hnone : t ∈ s.host.tasks := ht
    rw [h0.tasks] at hnone
    cases hnone

/-- The document is ready: what is done is what a start would do. -/
theorem step_isReady {page : Host} (h0 : page.Untouched) (hwindow : page.hasWindow = true)
    (hdocument : page.hasDocument = true) {r : String} (hr : r ≠ "loading") {d : Step}
    (hd : d.isReady = true) (called : List Call) (held : Option Nat) : ∃ ready,
    ((⟨page.awaiting "loading" called, held⟩ : Session).step d).2 =
      ((⟨{ page with readyState := r }, held⟩ : Session).step .start).2.awaiting ready called := by
  -- before its event the document may say that it is ready
  obtain ⟨ready, e, hact⟩ : ∃ ready e, act held d (page.awaiting "loading" called) =
      send .document "DOMContentLoaded" e (page.awaiting ready called) := by
    cases d with
    | ready => exact ⟨"interactive", {}, rfl⟩
    | event target type e =>
      obtain ⟨rfl, rfl⟩ := of_decide_eq_true hd
      exact ⟨"loading", e, rfl⟩
    | _ => cases hd
  have hsend : send .document "DOMContentLoaded" e (page.awaiting ready called) =
      (.dispatched ⟨1, false⟩, (enhance (page.awaiting ready called)).2) := by
    unfold send
    rw [bind_apply, dispatch_of_single (h0.handlers_awaiting ready called)]
    rfl
  have henhance : (enhance (page.awaiting ready called)).2 =
      (enhance { page with readyState := r }).2.awaiting ready called :=
    (unaware_enhance { page with readyState := r } _ rfl).2
  have htasks : ∀ h : Host, (runTasks (h.awaiting ready called)).2 =
      (runTasks h).2.awaiting ready called := fun h => (unaware_runTasks h _ rfl).2
  refine ⟨ready, ?_⟩
  rw [step_start hwindow hdocument hr, session_step, session_step, hact, hsend, henhance, htasks]
  rfl

/-- **Starting early is starting late.**  A page is started while its document is loading, and
    nothing is listened for, watched or worked on before.  However its surroundings change it then,
    the start changes nothing: the page is what they made of it, but for a listener that waits for
    the document.  Once the document is ready, the page differs from one that is started as it is
    by then in that listener only, with the call that made it, and in what it says of its loading.
    It goes on to differ in nothing else and to answer alike, until the next start or event of the
    document. -/
theorem start_early (h0 : s.host.Untouched) (hwindow : s.host.hasWindow = true)
    (hdocument : s.host.hasDocument = true) (hloading : s.host.readyState = "loading")
    (hlisten : s.host.failures (.listen "DOMContentLoaded") = none) (steps : List Step)
    (hsteps : ∀ t ∈ steps, t.isAround = true) :
    let page := steps.foldl Step.around { s.host with trace := [] }
    let called := s.host.trace ++ [.listen .document "DOMContentLoaded"]
    let waiting := s.run (.start :: steps)
    waiting = ({ s with host := page } : Session).awaiting "loading" called ∧
    (∃ nodes scrollY now failures,
      page = { s.host with trace := [], nodes, scrollY, now, failures }) ∧
    ∀ r ≠ "loading", ∀ d : Step, d.isReady = true →
      let early := (waiting.step d).2
      let late := (({ s with host := { page with readyState := r } } : Session).step .start).2
      ∃ ready, early = late.awaiting ready called ∧
        ∀ later, (∀ t ∈ later, t.isStart = false) →
          early.run later = (late.run later).awaiting ready called ∧
          ∀ t : Step, t.isStart = false →
            ((early.run later).step t).1 = ((late.run later).step t).1 := by
  intro page called waiting
  have hfresh : ({ s.host with trace := [] } : Host).Untouched :=
    ⟨h0.listeners, h0.observers, h0.tasks⟩
  obtain ⟨nodes, scrollY, now, failures, hpage⟩ :
      ∃ nodes scrollY now failures,
        page = { s.host with trace := [], nodes, scrollY, now, failures } :=
    exists_foldl_around _ steps
  have hnow : page.Untouched := by
    rw [hpage]
    exact ⟨h0.listeners, h0.observers, h0.tasks⟩
  have hwaiting : waiting = ({ s with host := page } : Session).awaiting "loading" called := by
    show (s.step .start).2.run steps = _
    rw [step_start_loading h0 hwindow hdocument hloading hlisten,
      run_awaiting fun t ht => Step.isStart_of_isAround (hsteps t ht), run_untouched hfresh hsteps]
  refine ⟨hwaiting, ⟨nodes, scrollY, now, failures, hpage⟩, ?_⟩
  intro r hr d hd early late
  obtain ⟨ready, hready⟩ := step_isReady hnow (by rw [hpage]; exact hwindow)
    (by rw [hpage]; exact hdocument) hr hd called s.held
  have hearly : early = late.awaiting ready called := by
    show (waiting.step d).2 = _
    rw [hwaiting]
    exact hready
  refine ⟨ready, hearly, fun later hlater => ?_⟩
  have hrun : early.run later = (late.run later).awaiting ready called := by
    rw [hearly]
    exact run_awaiting hlater
  refine ⟨hrun, fun t ht => ?_⟩
  rw [hrun, step_awaiting ht]

/-- The tagline comes while the page is loading, the visitor scrolls meanwhile, and the store
    breaks; afterwards the theme is flipped and the tagline typed. -/
theorem start_early_tagline :
    let page : Host :=
      { nodes := [{ tag := "body" },
          { tag := "button", attributes := .ofList [("id", "back-to-top")] }]
        readyState := "loading" }
    let s : Session := { host := page }
    let steps : List Step := [.scroll (.ofInt 400),
      .addElement { tag := "p", attributes := .ofList [("id", "tagline")], text := "Hi" },
      .event (.node 1) "click" {}, .elapse 40, .putFailure .setItem (some (.text "full"))]
    let now := steps.foldl Step.around page
    let early := ((s.run (.start :: steps)).step .ready).2
    let late := (({ host := { now with readyState := "complete" } } : Session).step .start).2
    let later : List Step := [.event (.node 3) "click" {}, .elapse 100]
    (page.Untouched ∧ page.readyState = "loading" ∧ (∀ t ∈ steps, t.isAround = true) ∧
      (∀ t ∈ later, t.isStart = false)) ∧
    (now.scrollY = .ofInt 400 ∧ now.nodes.length = 3 ∧ now.now = 40) ∧
    (late.host.listeners.length = 4 ∧ late.host.tasks.length = 1) ∧
    ∃ ready, early.run later =
      (late.run later).awaiting ready [.listen .document "DOMContentLoaded"] := by
  intro page s steps now early late later
  have huntouched : page.Untouched := ⟨rfl, rfl, rfl⟩
  have hsteps : ∀ t ∈ steps, t.isAround = true := by decide +kernel
  have hlater : ∀ t ∈ later, t.isStart = false := by decide +kernel
  obtain ⟨-, -, hready⟩ := start_early (s := s) huntouched rfl rfl rfl rfl steps hsteps
  obtain ⟨ready, -, hruns⟩ := hready "complete" (by decide) .ready rfl
  obtain ⟨hrun, -⟩ := hruns later hlater
  refine ⟨⟨huntouched, rfl, hsteps, hlater⟩, by decide +kernel, by decide +kernel, ready, ?_⟩
  exact hrun

end Session

end Enhance
