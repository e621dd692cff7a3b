/-
  Enhance/Proofs/Host/Clicked.lean
  ================================
  **A click on the control flips the theme, unless the markup forbids it.**

  A start listens for clicks on the control that it finds or makes, and notes
  that on the control.  Whatever befalls the page then, the switch goes on to
  know its control and nothing else to listen for clicks on it (`Tended`): one
  step keeps that, and so does a run.

  The note is an attribute, though, and the markup may have put it there before
  the start.  The start then takes the control for one that is listened for
  already; no click on it does anything, ever (`click_started`).
-/
import Enhance.Proofs.Host.Pressed

namespace Enhance

namespace Host

/-- A page on which no call fails, and whose first switch uses the store and knows its control
    `c`.  Clicks on that go to these handlers, and nothing else has to do with the theme but keys
    that flip it. -/
structure Tended (settings : Settings) (c : NodeId) (click : List Handler) (h : Host) : Prop where
  sound : h.Sound
  body : 0 < h.nodes.length
  store : h.storage.isSome = true
  held : h.switches[0]? = some ⟨settings.theme, true, some c⟩
  click : h.handlers (.node c) "click" = click
  others : ∀ l ∈ h.listeners, l.handler.isAside = true ∨ l.handler = .flip 0 ∨
    l.handler = .shortcut settings.shortcut 0

variable {settings : Settings} {c : NodeId} {click : List Handler} {h h' : Host}

namespace Tended

theorem congr (h0 : h.Tended settings c click) (hfailures : h'.failures = h.failures)
    (hlength : h.nodes.length ≤ h'.nodes.length) (hstore : h'.storage.isSome = h.storage.isSome)
    (hswitches : h'.switches = h.switches) (hlisteners : h'.listeners = h.listeners) :
    h'.Tended settings c click where
  sound := by
    rw [Sound, hfailures]
    exact h0.sound
  body := Nat.lt_of_lt_of_le h0.body hlength
  store := hstore.trans h0.store
  held := by
    rw [hswitches]
    exact h0.held
  click := by
    rw [Host.handlers, hlisteners]
    exact h0.click
  others := by
    rw [hlisteners]
    exact h0.others

theorem edit (h0 : h.Tended settings c click) (j : NodeId) (f : Node → Node) :
    (h.edit j f).Tended settings c click :=
  h0.congr rfl (Nat.le_of_eq (length_edit h j f).symm) rfl rfl rfl

/-- One listener more, which is not for clicks on the control. -/
theorem withListener (h0 : h.Tended settings c click) {l : Listener}
    (haside : l.handler.isAside = true) (hclick : ¬ (l.target = .node c ∧ l.type = "click")) :
    ({ h with listeners := h.listeners ++ [l] } : Host).Tended settings c click where
  sound := h0.sound
  body := h0.body
  store := h0.store
  held := h0.held
  click := by
    rw [← h0.click]
    simp [handlers, List.filter_append, hclick]
  others := by
    intro m hm
    rcases List.mem_append.mp hm with hm | hm
    · exact h0.others m hm
    · rw [List.mem_singleton.mp hm]
      exact .inl haside

/-- The other features leave the control to the switch, unless it is the button that leads up. -/
theorem unmoved : Unmoved (fun f j => f = .backToTop → j ≠ c) (Tended settings c click) where
  log h0 := h0.congr rfl (Nat.le_refl _) rfl rfl rfl
  logLimit h0 := h0.congr rfl (Nat.le_refl _) rfl rfl rfl
  noted _ h0 := h0.congr rfl (Nat.le_refl _) rfl rfl rfl
  clock h0 := h0.congr rfl (Nat.le_refl _) rfl rfl rfl
  scrollY h0 := h0.congr rfl (Nat.le_refl _) rfl rfl rfl
  visible h0 := h0.edit _ _
  style h0 := h0.edit _ _
  text _ h0 := h0.edit _ _
  gate _ h0 := h0.congr rfl (Nat.le_refl _) rfl rfl rfl
  moved h0 := h0.congr rfl (Nat.le_refl _) rfl rfl rfl
  observer h0 := h0.congr rfl (Nat.le_refl _) rfl rfl rfl
  watched _ h0 := h0.congr rfl (Nat.le_refl _) rfl rfl rfl
  tasks _ h0 := h0.congr rfl (Nat.le_refl _) rfl rfl rfl
  writes _ t _ ht := absurd ht (by cases t <;> exact Feature.noConfusion)
  follow h0 := h0.withListener rfl fun h => nomatch h.1
  scrollUp hbutton h0 := h0.withListener rfl fun h => hbutton rfl (Target.node.inj h.1)

end Tended

/-- A page that was enhanced once is tended. -/
theorem Layered.tended {g : Host} {bound : Bool} {v : ThemeView}
    (h0 : Layered g settings c 1 click [.shortcut settings.shortcut 0] bound v h)
    (hclick : ∀ handler ∈ click, handler = .flip 0) : h.Tended settings c click where
  sound := h0.arranged.sound
  body := length_pos_of_body? h0.body
  store := h0.store
  held := by
    rw [h0.held]
    rfl
  click := h0.listens.click
  others := by
    have hmem : ∀ l ∈ h.listeners, ∀ target type, l.target = target ∧ l.type = type →
        l.handler ∈ h.handlers target type := fun l hl target type hsent =>
      List.mem_map.mpr ⟨l, List.mem_filter.mpr ⟨hl, by simpa using hsent⟩, rfl⟩
    intro l hl
    rcases h0.listens.others l hl with haside | hclicks | hkeys
    · exact .inl haside
    · have hhandler := hmem l hl _ _ hclicks
      rw [h0.listens.click] at hhandler
      exact .inr (.inl (hclick _ hhandler))
    · have hhandler := hmem l hl _ _ hkeys
      rw [h0.listens.keys] at hhandler
      exact .inr (.inr (List.mem_singleton.mp hhandler))

end Host

namespace HostM

open Host

variable {settings : Settings} {c : NodeId} {click : List Handler} {h : Host}

theorem keeps_tended_flipTheme (hdark : Node.IsToken settings.theme.darkClass) :
    Keeps (Tended settings c click) (flipTheme 0) := by
  intro h h0
  rw [flipTheme_of_held h0.sound h0.held hdark rfl]
  exact ((h0.edit 0 _).edit c _).congr rfl (Nat.le_refl _) Option.isSome_map rfl rfl

theorem keeps_tended_dispatch (hdark : Node.IsToken settings.theme.darkClass) (target : Target)
    (type : String) (e : PageEvent) : Keeps (Tended settings c click) (dispatch target type e) :=
  keeps_dispatch_of_flip Tended.unmoved (keeps_tended_flipTheme hdark) (fun h0 => h0.others) target
    type e

/-- The marker after a flip. -/
theorem hasClass_flipTheme (h0 : h.Tended settings c click)
    (hdark : Node.IsToken settings.theme.darkClass) {next : Theme}
    (hnext : (Theme.ofDark ((h.nodeAt 0).hasClass settings.theme.darkClass)).opposite = next) :
    ((flipTheme 0 h).2.nodeAt 0).hasClass settings.theme.darkClass = next.isDark := by
  have hmarked : ((h.edit 0 fun n => n.putClass settings.theme.darkClass next.isDark).nodeAt
      0).hasClass settings.theme.darkClass = next.isDark := by
    rw [nodeAt_edit_self h0.body, Node.hasClass_putClass hdark, if_pos rfl]
  rw [flipTheme_of_held h0.sound h0.held hdark hnext]
  -- the body may be the control itself
  refine (nodeAt_edit_induction (i := c) (f := Node.bear next.offer)
    (P := fun n => n.hasClass settings.theme.darkClass = next.isDark) hmarked fun _ => ?_)
  exact (Node.hasClass_congr (get?_bear _ _ (by decide) (by decide))).trans hmarked

end HostM

namespace Session

open Host HostM

variable {settings : Settings} {c : NodeId} {click : List Handler} {s : Session}

/-- What befalls a page that is set up: it gets ready, it is visited, and something else changes
    what is on it. -/
def Step.befalls : Step → Bool
  | .ready => true
  | .putAttribute .. => true
  | .addElement _ => true
  | .detach _ => true
  | t => t.isVisit

theorem tended_step (hdark : Node.IsToken settings.theme.darkClass) {t : Step}
    (ht : t.befalls = true) (h0 : s.host.Tended settings c click) :
    (s.step t).2.host.Tended settings c click := by
  have hunmoved : Unmoved _ (Tended settings c click) := Tended.unmoved
  have hdispatch : ∀ target type e, Keeps (Tended settings c click) (dispatch target type e) :=
    keeps_tended_dispatch hdark
  rw [host_step]
  apply hunmoved.disregards.keeps_runTasks nofun
  by_cases hvisit : t.isVisit = true
  · exact keeps_visit hunmoved hdispatch s.held hvisit s.host h0
  · cases t with
    | ready => exact hdispatch _ _ _ _ (h0.congr rfl (Nat.le_refl _) rfl rfl rfl)
    | putAttribute i name value => exact h0.edit _ _
    | addElement n =>
      refine h0.congr rfl ?_ rfl rfl rfl
      show s.host.nodes.length ≤ (s.host.nodes ++ [n]).length
      simp
    | detach i => exact h0.edit _ _
    | _ => exact absurd ht hvisit

theorem tended_run (hdark : Node.IsToken settings.theme.darkClass)
    (h0 : s.host.Tended settings c click) (steps : List Step)
    (hsteps : ∀ t ∈ steps, t.befalls = true) : (s.run steps).host.Tended settings c click := by
  induction steps generalizing s with
  | nil => exact h0
  | cons t rest ih =>
    obtain ⟨ht, hrest⟩ := List.forall_mem_cons.mp hsteps
    exact ih (tended_step hdark ht h0) hrest

/-- After every step the tasks wait. -/
theorem isIdle_step (t : Step) : ∀ task ∈ (s.step t).2.host.tasks, task.isIdle = true := by
  rw [host_step]
  exact isIdle_runTasks

theorem isIdle_run (hidle : ∀ task ∈ s.host.tasks, task.isIdle = true) (steps : List Step) :
    ∀ task ∈ (s.run steps).host.tasks, task.isIdle = true := by
  induction steps generalizing s with
  | nil => exact hidle
  | cons t rest ih => exact ih (isIdle_step t)

/-- Once the document has loaded, a start is an enhancement. -/
theorem step_start (hwindow : s.host.hasWindow = true) (hdocument : s.host.hasDocument = true)
    (hready : s.host.readyState ≠ "loading") : s.step .start = s.step .enhance := by
  have hact : act s.held .start s.host = act s.held .enhance s.host := by
    show silent HostM.start s.host = silent HostM.enhance s.host
    unfold silent HostM.start
    simp [hwindow, hdocument, hready]
  unfold step perform
  simp only [bind_apply, hact]

/-- A start has clicks on the control flip the theme, unless there was a note on it. -/
theorem tended_start (h0 : s.host.Pristine) (hwindow : s.host.hasWindow = true)
    (hdocument : s.host.hasDocument = true) (hbody : s.host.body? = some 0)
    (hstore : s.host.storage.isSome = true) (hready : s.host.readyState ≠ "loading") :
    let theme := s.host.settings.theme
    let c := (s.host.byId? theme.toggleId).getD s.host.nodes.length
    (s.step .start).2.host.byId? theme.toggleId = some c ∧
      (s.step .start).2.host.Tended s.host.settings c
        (if (s.host.nodeAt c).attributes.contains boundAttribute then [] else [.flip 0]) := by
  intro theme c
  have hpristine := Layered.of_pristine h0 hwindow hdocument hbody hstore
  obtain ⟨hlayered, -⟩ := layered_step_enhance hpristine
  rw [List.nil_append, List.nil_append] at hlayered
  rw [step_start hwindow hdocument hready]
  refine ⟨hlayered.found Nat.one_pos, hlayered.tended ?_⟩
  intro handler hhandler
  split at hhandler
  · cases hhandler
  · exact List.mem_singleton.mp hhandler

/-- **A click on the control flips the theme, unless the markup said that it does.**  A page with
    a body and a store, no call on which fails, is started once it has loaded, and anything may
    befall it after that.  Its control is the first element of the toggle's id, or one that the
    start adds.  If the markup had no note on it, a click makes the calls of one flip and no
    other: the other theme is marked on the body and stored.  If the note was there, a click is
    not listened for, and nothing changes. -/
theorem click_started (h0 : s.host.Pristine) (hwindow : s.host.hasWindow = true)
    (hdocument : s.host.hasDocument = true) (hbody : s.host.body? = some 0)
    (hstore : s.host.storage.isSome = true) (hready : s.host.readyState ≠ "loading")
    (steps : List Step) (hsteps : ∀ t ∈ steps, t.befalls = true) (e : PageEvent) :
    let theme := s.host.settings.theme
    let c := (s.host.byId? theme.toggleId).getD s.host.nodes.length
    let noted := (s.host.nodeAt c).attributes.contains boundAttribute
    let started := (s.step .start).2
    let now := started.run steps
    let next := (Theme.ofDark ((now.host.nodeAt 0).hasClass theme.darkClass)).opposite
    let clicked := now.step (.event (.node c) "click" e)
    started.host.byId? theme.toggleId = some c ∧
    (noted = false →
      clicked.1 = .dispatched ⟨1, false⟩ ∧
      clicked.2.host.trace = now.host.trace ++ flipCalls theme c next ∧
      (clicked.2.host.nodeAt 0).hasClass theme.darkClass = next.isDark ∧
      clicked.2.host.storage = now.host.storage.map fun t => t.insert theme.storageKey next.text) ∧
    (noted = true → clicked = (.dispatched ⟨0, false⟩, now)) := by
  intro theme c noted started now next clicked
  have hdark : Node.IsToken theme.darkClass :=
    (Settings.standardNames_ofAttributes _).isToken_darkClass
  obtain ⟨hfound, htended⟩ := tended_start h0 hwindow hdocument hbody hstore hready
  have hnow : now.host.Tended s.host.settings c (if noted then [] else [.flip 0]) :=
    tended_run hdark htended steps hsteps
  have hidle : ∀ task ∈ now.host.tasks, task.isIdle = true := isIdle_run (isIdle_step .start) steps
  have hclick := hnow.click
  refine ⟨hfound, fun hfree => ?_, fun hbound => ?_⟩
  · rw [hfree, if_neg Bool.false_ne_true] at hclick
    have hflip := flipTheme_of_held hnow.sound hnow.held hdark (rfl : _ = next)
    have hact : act now.held (.event (.node c) "click" e) now.host =
        (.dispatched ⟨1, false⟩, (flipTheme 0 now.host).2) := by
      show (do return .dispatched (← dispatch (.node c) "click" e) : HostM Answer) now.host = _
      rw [bind_apply, dispatch_of_single hclick]
      rfl
    have hclicked :
        clicked = (.dispatched ⟨1, false⟩, { now with host := (flipTheme 0 now.host).2 }) := by
      refine step_eq_of_act hact ?_
      rw [hflip]
      exact hidle
    rw [hclicked]
    refine ⟨rfl, ?_, hasClass_flipTheme hnow hdark rfl, ?_⟩
    · rw [hflip]
    · rw [hflip]
  · rw [hbound, if_pos rfl] at hclick
    have hact : act now.held (.event (.node c) "click" e) now.host =
        (.dispatched ⟨0, false⟩, now.host) := by
      show (do return .dispatched (← dispatch (.node c) "click" e) : HostM Answer) now.host = _
      rw [bind_apply, dispatch_unheard hclick]
      rfl
    exact step_eq_of_act hact hidle

/-- A control in a page that was saved while it was dark, but for the note: the markup is inside,
    the class and the labels are there, and something else takes its label away in between. -/
theorem click_started_saved :
    let page : Host :=
      { nodes := [{ tag := "body", attributes := .ofList [("class", "dark-mode")] },
          { tag := "button"
            attributes := .ofList [("id", "dark-mode-toggle"), ("type", "button"),
              ("aria-label", "Switch to light mode"), ("onclick", "return false")]
            markup := some "<i class=\"bx bx-sun\"></i>" }]
        readyState := "interactive" }
    let s : Session := { host := page }
    let steps : List Step := [.ready, .putAttribute 1 "aria-label" none, .addElement {},
      .event (.node 1) "click" {}]
    let theme := s.host.settings.theme
    let c := (s.host.byId? theme.toggleId).getD s.host.nodes.length
    let now := (s.step .start).2.run steps
    let next := (Theme.ofDark ((now.host.nodeAt 0).hasClass theme.darkClass)).opposite
    let clicked := now.step (.event (.node c) "click" {})
    (page.Pristine ∧ page.body? = some 0 ∧ page.readyState ≠ "loading" ∧
      (∀ t ∈ steps, t.befalls = true) ∧
      (s.host.nodeAt c).attributes.contains boundAttribute = false) ∧
    c = 1 ∧ next = .light ∧ clicked.1 = .dispatched ⟨1, false⟩ ∧
    clicked.2.host.trace = now.host.trace ++ flipCalls theme c next := by
  intro page s steps theme c now next clicked
  have hpristine : page.Pristine := ⟨fun _ => rfl, rfl, rfl, rfl, rfl, rfl⟩
  have hbody : page.body? = some 0 := by decide +kernel
  have hready : page.readyState ≠ "loading" := by decide
  have hsteps : ∀ t ∈ steps, t.befalls = true := by decide +kernel
  have hunnoted : (s.host.nodeAt c).attributes.contains boundAttribute = false := by decide +kernel
  obtain ⟨-, hfree, -⟩ := click_started (s := s) hpristine rfl rfl hbody rfl hready steps hsteps {}
  obtain ⟨hanswer, htrace, -⟩ := hfree hunnoted
  refine ⟨⟨hpristine, hbody, hready, hsteps, hunnoted⟩, by decide +kernel, by decide +kernel,
    hanswer, ?_⟩
  simp only [clicked, now, next, c, theme]
  exact htrace

/-- The same with the note: the page was saved as it was after a start. -/
theorem click_started_noted :
    let page : Host :=
      { nodes := [{ tag := "body" },
          { tag := "button"
            attributes := .ofList [("id", "dark-mode-toggle"), ("data-theme-bound", "")] }] }
    let now := (({ host := page } : Session).step .start).2
    let clicked := now.step (.event (.node 1) "click" {})
    let calls := clicked.2.host.trace.drop now.host.trace.length
    now.host.byId? "dark-mode-toggle" = some 1 ∧ clicked.1 = .dispatched ⟨0, false⟩ ∧
      calls.countP (Call.marks "dark-mode") = 0 ∧ calls.countP Call.isWrite = 0 ∧
      (now.host.nodeAt 0).hasClass "dark-mode" = false ∧
      (clicked.2.host.nodeAt 0).hasClass "dark-mode" = false := by
  decide +kernel

end Session

end Enhance
