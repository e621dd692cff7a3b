/-
  Enhance/Proofs/Host/Mirror.lean
  ===============================
  **The theme of a page is the theme of a bench.**

  A started page is a wired one, and a bench that was started shows the same.
  Every step of a visit leaves the page wired: it flips the theme if the step
  asks for that, and the switch does not notice it otherwise.  So a page and a
  bench that is flipped whenever the page is asked to stay alike
  (`run_simulates`), whatever the other features do in between.
-/
import Enhance.Proofs.Host.Opening

namespace Enhance

namespace HostM

open Host

variable {s : ThemeSettings} {i c : Nat} {click keys : List Handler} {chord : Chord}
  {v : ThemeView} {h : Host}

/-! ### Flips -/

theorem flipTheme_wired (hdark : Node.IsToken s.darkClass) (hid : s.toggleId ≠ "")
    (h0 : h.Wired s i c click keys v) : (flipTheme i h).2.Wired s i c click keys v.flip := by
  obtain ⟨-, hshows, hwork⟩ := operate_flip hdark hid h0.toShowsTheme
  exact ⟨hshows, h0.toListens.congr hwork.listeners hwork.tasks⟩

theorem react_flip_wired (hdark : Node.IsToken s.darkClass) (hid : s.toggleId ≠ "")
    (h0 : h.Wired s i c click keys v) (e : PageEvent) :
    (react e (.flip i) h).2.Wired s i c click keys v.flip := by
  have hflipped := flipTheme_wired hdark hid h0
  rw [react, bind_apply]
  exact hflipped

/-- Whether an event on the document is a keystroke that matches the chord. -/
def strikes (chord : Chord) (e : PageEvent) (h : Host) : Bool :=
  e.isKeyboard && chord.matched (keystroke e h).1

theorem react_shortcut_wired (hdark : Node.IsToken s.darkClass)
    (hvisible : s.darkClass ≠ visibleClass) (hid : s.toggleId ≠ "")
    (h0 : h.Wired s i c click keys v) (e : PageEvent) :
    (react e (.shortcut chord i) h).2.Wired s i c click keys
      (if strikes chord e h then v.flip else v) := by
  rw [react]
  by_cases hkeyboard : e.isKeyboard = true
  · rw [if_neg (not_not_intro hkeyboard), bind_apply, keystroke_snd]
    by_cases hmatched : chord.matched (keystroke e h).1 = true
    · have hstrikes : strikes chord e h = true := by rw [strikes, hkeyboard, hmatched]; rfl
      have hflipped := flipTheme_wired hdark hid h0
      rw [if_pos hmatched, if_pos hstrikes, bind_apply, bind_apply]
      exact (Wired.unmoved hvisible).disregards.keeps_say _ _ _ hflipped
    · have hstrikes : ¬ strikes chord e h = true := by
        rw [strikes, hkeyboard, Bool.true_and]
        exact hmatched
      rw [if_neg hmatched, if_neg hstrikes]
      exact h0
  · have hstrikes : ¬ strikes chord e h = true := by
      rw [strikes, Bool.and_eq_true]
      exact fun hboth => hkeyboard hboth.1
    rw [if_pos hkeyboard, if_neg hstrikes]
    exact h0

/-! ### Events -/

/-- Whether an event flips the theme: a click on the control, or the chord. -/
def flips (settings : Settings) (target : Target) (type : String) (e : PageEvent) (h : Host) :
    Bool :=
  decide (type = "click" ∧ (h.byId? settings.theme.toggleId).map Target.node = some target) ||
    decide (type = "keydown" ∧ target = .document) && strikes settings.shortcut e h

theorem handlersFor_eq (target : Target) (type : String) :
    handlersFor target type h = (h.handlers target type, h) := rfl

theorem dispatch_unheard {target : Target} {type : String} (hnone : h.handlers target type = [])
    (e : PageEvent) : dispatch target type e h = (⟨0, false⟩, h) := by
  unfold dispatch
  rw [bind_apply, handlersFor_eq, hnone]
  rfl

/-- An event with one listener is what that does about it. -/
theorem dispatch_of_single {target : Target} {type : String} {handler : Handler}
    (hone : h.handlers target type = [handler]) (e : PageEvent) :
    dispatch target type e h = (⟨1, (react e handler h).1⟩, (react e handler h).2) := by
  unfold dispatch
  rw [bind_apply, handlersFor_eq, hone, bind_apply, mapM_cons_apply]
  simp [List.mapM_nil]

/-- The listeners of any other event have nothing to do with the theme. -/
theorem isAside_of_mem_handlers (h0 : h.Listens c click keys) {target : Target} {type : String}
    (hclick : ¬ (type = "click" ∧ target = .node c))
    (hkey : ¬ (type = "keydown" ∧ target = .document)) :
    ∀ handler ∈ h.handlers target type, handler.isAside = true := by
  intro handler hhandler
  obtain ⟨l, hl, rfl⟩ := List.mem_map.mp hhandler
  obtain ⟨hmem, hsent⟩ := List.mem_filter.mp hl
  obtain ⟨rfl, rfl⟩ : l.target = target ∧ l.type = type := by simpa using hsent
  rcases h0.others l hmem with haside | ⟨htarget, htype⟩ | ⟨htarget, htype⟩
  · exact haside
  · exact absurd ⟨htype, htarget⟩ hclick
  · exact absurd ⟨htype, htarget⟩ hkey

theorem dispatch_aside (hvisible : s.darkClass ≠ visibleClass) (h0 : h.Wired s i c click keys v)
    {target : Target} {type : String}
    (haside : ∀ handler ∈ h.handlers target type, handler.isAside = true) (e : PageEvent) :
    (dispatch target type e h).2.Wired s i c click keys v := by
  have hkeeps : Keeps (Wired s i c click keys v) ((h.handlers target type).mapM (react e)) :=
    Keeps.mapM fun handler hhandler =>
      (Wired.unmoved hvisible).disregards.keeps_react rfl e (haside handler hhandler)
  unfold dispatch
  rw [bind_apply, handlersFor_eq]
  exact hkeeps h h0

theorem dispatch_wired {settings : Settings} (hdark : Node.IsToken settings.theme.darkClass)
    (hvisible : settings.theme.darkClass ≠ visibleClass) (hid : settings.theme.toggleId ≠ "")
    (h0 : h.Wired settings.theme 0 c [.flip 0] [.shortcut settings.shortcut 0] v)
    (target : Target) (type : String) (e : PageEvent) :
    (dispatch target type e h).2.Wired settings.theme 0 c [.flip 0] [.shortcut settings.shortcut 0]
      (if flips settings target type e h then v.flip else v) := by
  have hflips : flips settings target type e h =
      (decide (type = "click" ∧ target = .node c) ||
        decide (type = "keydown" ∧ target = .document) && strikes settings.shortcut e h) := by
    rw [flips, h0.control, Option.map_some]
    simp only [Option.some.injEq, eq_comm]
  rw [hflips]
  by_cases hclick : type = "click" ∧ target = .node c
  · obtain ⟨rfl, rfl⟩ := hclick
    rw [dispatch_of_single h0.click]
    simpa using react_flip_wired hdark hid h0 e
  · by_cases hkey : type = "keydown" ∧ target = .document
    · obtain ⟨rfl, rfl⟩ := hkey
      rw [dispatch_of_single h0.keys]
      simpa using react_shortcut_wired hdark hvisible hid h0 e
    · have haside := isAside_of_mem_handlers h0.toListens hclick hkey
      simpa [hclick, hkey] using dispatch_aside hvisible h0 haside e

theorem enhance_eq (hwindow : h.hasWindow = true) (hdocument : h.hasDocument = true) :
    enhance h = enhancePage h := by
  unfold enhance
  rw [bind_apply, get_apply, hwindow, hdocument]
  rfl

end HostM

/-! ### Steps -/

namespace Session

open HostM

variable {settings : Settings} {c : Nat} {v : ThemeView} {s : Session}

/-- What happens on a page that is left to its visitor and the network. -/
def Step.isVisit : Step → Bool
  | .event .. => true
  | .scroll _ => true
  | .sight .. => true
  | .elapse _ => true
  | .respond _ => true
  | _ => false

/-- Whether a step flips the theme of a page. -/
def Step.flips (settings : Settings) (h : Host) : Step → Bool
  | .event target type e => HostM.flips settings target type e h
  | _ => false

/-- A page that was enhanced by these settings, and shows this. -/
def Enhanced (settings : Settings) (c : NodeId) (v : ThemeView) (s : Session) : Prop :=
  s.host.Wired settings.theme 0 c [.flip 0] [.shortcut settings.shortcut 0] v

/-- A step is what it does before the tasks, and a pass of the tasks. -/
theorem session_step (t : Step) :
    (s.step t).2 = ⟨(runTasks (act s.held t s.host).2).2, (act s.held t s.host).1.held s.held⟩ := by
  have hperform : (perform s.held t s.host).1.2 = (act s.held t s.host).1.held s.held ∧
      (perform s.held t s.host).2 = (runTasks (act s.held t s.host).2).2 := by
    unfold perform
    simp only [bind_apply]
    cases (runTasks (act s.held t s.host).2).1 <;> exact ⟨rfl, rfl⟩
  rw [← hperform.1, ← hperform.2]
  rfl

theorem host_step (t : Step) :
    (s.step t).2.host = (runTasks (act s.held t s.host).2).2 := by
  rw [session_step]

theorem host_enhance (hwindow : s.host.hasWindow = true) (hdocument : s.host.hasDocument = true) :
    (s.step .enhance).2.host = (runTasks (enhancePage s.host).2).2 := by
  rw [host_step]
  exact congrArg (fun made => (runTasks made.2).2) (enhance_eq hwindow hdocument)

/-- A step whose tasks wait afterwards is what it does before they run. -/
theorem step_eq_of_act {t : Step} {answer : Answer} {h : Host}
    (hact : act s.held t s.host = (answer, h)) (hidle : ∀ t ∈ h.tasks, t.isIdle = true) :
    s.step t = (answer, { host := h, held := answer.held s.held }) := by
  unfold step perform
  simp only [bind_apply, hact, runTasks_idle hidle]
  rfl

theorem enhanced_of_act (hvisible : settings.theme.darkClass ≠ visibleClass) {t : Step}
    (h : (act s.held t s.host).2.Wired settings.theme 0 c [.flip 0]
      [.shortcut settings.shortcut 0] v) : (s.step t).2.Enhanced settings c v := by
  rw [Enhanced, host_step]
  exact (Host.Wired.unmoved hvisible).disregards.keeps_runTasks nofun _ h

/-- The flips that a run of steps asks for. -/
def flipsAsked (settings : Settings) : Session → List Step → List Bench.Act
  | _, [] => []
  | s, t :: rest =>
    (if t.flips settings s.host then [Bench.Act.flip] else []) ++
      flipsAsked settings (s.step t).2 rest

section Steps

variable (hdark : Node.IsToken settings.theme.darkClass)
  (hvisible : settings.theme.darkClass ≠ visibleClass) (hid : settings.theme.toggleId ≠ "")

include hdark hvisible hid

/-- One step of a visit: the page stays enhanced, and is flipped if the step
    asks for that. -/
theorem enhanced_step {t : Step} (h : s.Enhanced settings c v) (ht : t.isVisit = true) :
    (s.step t).2.Enhanced settings c (if t.flips settings s.host then v.flip else v) := by
  refine enhanced_of_act hvisible ?_
  cases t with
  | event target type e => exact dispatch_wired hdark hvisible hid h target type e
  | scroll offset =>
    have hscrolled : ({ s.host with scrollY := offset } : Host).Wired settings.theme 0 c [.flip 0]
        [.shortcut settings.shortcut 0] v :=
      Host.Wired.congr h ⟨rfl, rfl, rfl, rfl, rfl⟩ rfl rfl
    -- a scroll is an event as well, but not one that flips
    have hdispatch := dispatch_wired hdark hvisible hid hscrolled .window "scroll" {}
    have hflips : HostM.flips settings .window "scroll" {} { s.host with scrollY := offset } =
        false := by
      simp [HostM.flips]
    rw [hflips] at hdispatch
    exact hdispatch
  | sight o batch => exact (Host.Wired.unmoved hvisible).disregards.keeps_sight rfl o batch _ h
  | elapse ms => exact (Host.Wired.unmoved hvisible).disregards.keeps_elapse nofun rfl ms _ h
  | respond d => exact (Host.Wired.unmoved hvisible).disregards.keeps_respond rfl d _ h
  | _ => cases ht

/-- A page and a bench that show the same do so after every run of steps, with
    the bench flipped whenever the page is asked to. -/
theorem run_simulates {b : Bench MemoryStorage} (steps : List Step)
    (h : s.Enhanced settings c v) (hb : b.Shows settings.theme.storageKey v)
    (hsteps : ∀ t ∈ steps, t.isVisit = true) :
    ∃ v', (s.run steps).Enhanced settings c v' ∧
      (Bench.run settings.theme b (s.flipsAsked settings steps)).Shows
        settings.theme.storageKey v' := by
  induction steps generalizing s b v with
  | nil => exact ⟨v, h, hb⟩
  | cons t rest ih =>
    have hstep := enhanced_step hdark hvisible hid h (hsteps t List.mem_cons_self)
    have hrest : ∀ u ∈ rest, u.isVisit = true := fun u hu => hsteps u (List.mem_cons_of_mem t hu)
    obtain ⟨b', hb', hrun⟩ : ∃ b' : Bench MemoryStorage,
        b'.Shows settings.theme.storageKey (if t.flips settings s.host then v.flip else v) ∧
          ∀ acts, Bench.run settings.theme b
            ((if t.flips settings s.host then [Bench.Act.flip] else []) ++ acts) =
              Bench.run settings.theme b' acts := by
      cases t.flips settings s.host with
      | true => exact ⟨_, hb.act_flip, fun _ => rfl⟩
      | false => exact ⟨b, hb, fun _ => rfl⟩
    obtain ⟨v', hpage, hbench⟩ := ih hstep hb' hrest
    refine ⟨v', hpage, ?_⟩
    rw [flipsAsked, hrun]
    exact hbench

end Steps

/-! ### Runs -/

/-- A start enhances the page at once, unless it is still loading. -/
theorem enhanced_start (h0 : s.host.Fresh) (hready : s.host.readyState ≠ "loading")
    (hbound : ∀ c, s.host.byId? s.host.settings.theme.toggleId = some c →
      (s.host.nodeAt c).attributes.get? boundAttribute = none) :
    ∃ c, (s.step .start).2.Enhanced s.host.settings c
      ((s.host.themeView s.host.settings.theme).start s.host.settings.theme) := by
  obtain ⟨c, hwired⟩ := enhancePage_wired h0 hbound
  have hstart : (HostM.start s.host).2 = (enhancePage s.host).2 := by
    unfold HostM.start enhance
    simp [h0.window, h0.document, hready]
  have hnames : s.host.settings.StandardNames := Settings.standardNames_ofAttributes _
  refine ⟨c, enhanced_of_act hnames.darkClass_ne_visibleClass ?_⟩
  show (HostM.start s.host).2.Wired _ _ _ _ _ _
  rw [hstart]
  exact hwired

/-- **The theme of a page is the theme of a bench.**  A fresh page is started
    and visited in any way.  A bench whose store has the same entry, whose marker
    is the body's, and which has a control if the page has one, is started and
    then flipped whenever the page is asked to flip.  Then both show the same
    and have stored the same. -/
theorem themeView_run (h0 : s.host.Fresh) (hready : s.host.readyState ≠ "loading")
    (hbound : ∀ c, s.host.byId? s.host.settings.theme.toggleId = some c →
      (s.host.nodeAt c).attributes.get? boundAttribute = none)
    (store : MemoryStorage) (hreads : store.refusesReads = false)
    (hwrites : store.refusesWrites = false)
    (hstored : store.get? s.host.settings.theme.storageKey =
      s.host.storage.bind fun t => t.get? s.host.settings.theme.storageKey)
    (steps : List Step) (hsteps : ∀ t ∈ steps, t.isVisit = true) :
    let theme := s.host.settings.theme
    let opened := (s.step .start).2
    let bench : Bench MemoryStorage :=
      { store
        page :=
          { dark := (s.host.nodeAt 0).hasClass theme.darkClass
            hasControl := (s.host.byId? theme.toggleId).isSome } }
    (opened.run steps).host.themeView theme =
      (Bench.run theme bench
        (.start :: opened.flipsAsked s.host.settings steps)).themeView theme.storageKey := by
  intro theme opened bench
  obtain ⟨c, hpage⟩ := enhanced_start h0 hready hbound
  have hnames : s.host.settings.StandardNames := Settings.standardNames_ofAttributes _
  have hopens : bench.Opens theme.storageKey (bench.themeView theme.storageKey) :=
    ⟨hreads, hwrites, rfl, rfl⟩
  have hbench := hopens.act_start
  -- what the markup already has on a control is drawn over
  have hview : (bench.themeView theme.storageKey).start theme =
      (s.host.themeView theme).start theme := by
    refine ThemeView.start_congr ?_ ?_ hstored
    · show (s.host.byId? theme.toggleId).isSome = ((s.host.byId? theme.toggleId).map _).isSome
      rw [Option.isSome_map]
    · show 0 = s.host.trace.countP Call.isCreation
      rw [h0.trace]
      rfl
  rw [hview] at hbench
  obtain ⟨v', hpage', hbench'⟩ := run_simulates hnames.isToken_darkClass
    hnames.darkClass_ne_visibleClass hnames.toggleId_ne_empty steps hpage hbench hsteps
  exact hpage'.view.trans hbench'.1.view.symm

/-- A dark page with a control, whose store asks for the light theme. -/
theorem themeView_run_markup_control :
    let page : Host :=
      { nodes := [{ tag := "body", attributes := .ofList [("class", "dark-mode")] },
          { tag := "button", attributes := .ofList [("id", "dark-mode-toggle")] }]
        storage := some (.ofList [("theme", "light")]) }
    let opened := (({ host := page } : Session).step .start).2
    let steps : List Step := [.event (.node 1) "click" {}, .scroll (.ofInt 400),
      .event .document "keydown"
        { isKeyboard := true, code := "KeyD", modifiers := { alt := true, shift := true } },
      .event (.node 1) "click" {}]
    let bench : Bench MemoryStorage :=
      { store := .withEntry "theme" "light", page := { dark := true, hasControl := true } }
    (opened.run steps).host.themeView {} =
      (Bench.run {} bench [.start, .flip, .flip, .flip]).themeView "theme" := by
  intro page opened steps bench
  have hsettings : page.settings = {} := by decide +kernel
  have hcontrol : page.byId? "dark-mode-toggle" = some 1 := by decide +kernel
  have hasked : opened.flipsAsked page.settings steps = [.flip, .flip, .flip] := by
    decide +kernel
  have hbound : ∀ c, page.byId? page.settings.theme.toggleId = some c →
      (page.nodeAt c).attributes.get? HostM.boundAttribute = none := by
    intro c hc
    rw [hsettings] at hc
    obtain rfl : 1 = c := Option.some.inj (hcontrol.symm.trans hc)
    decide +kernel
  have hdark : (page.nodeAt 0).hasClass page.settings.theme.darkClass = true := by decide +kernel
  have hfound : (page.byId? page.settings.theme.toggleId).isSome = true := by decide +kernel
  have hrun : (opened.run steps).host.themeView page.settings.theme =
      (Bench.run page.settings.theme
        { store := .withEntry "theme" "light"
          page :=
            { dark := (page.nodeAt 0).hasClass page.settings.theme.darkClass
              hasControl := (page.byId? page.settings.theme.toggleId).isSome } }
        (.start :: opened.flipsAsked page.settings steps)).themeView
          page.settings.theme.storageKey :=
    themeView_run (s := { host := page })
      ⟨rfl, rfl, by decide +kernel, rfl, fun _ => rfl, rfl, rfl, rfl, rfl⟩ (by decide) hbound
      (.withEntry "theme" "light") rfl rfl (by decide +kernel) steps (by decide)
  rw [hasked, hdark, hfound, hsettings] at hrun
  exact hrun

end Session

end Enhance
