/-
  Enhance/Proofs/Host/Missing.lean
  ================================
  **A missing element disables its own feature only.**

  Take the elements of one feature off a page, and let the same things happen on
  the page with them and on the page without them.  Whatever happens, the
  elements left over, the store and the answers to clicks and keys stay the same
  (`missing_run`).
-/
import Enhance.Proofs.Host.Lacking

namespace Enhance

namespace HostM

open Host

variable {f : Feature} {gone : NodeId → Bool}

/-! ### Setting up -/

theorem readSettings_without {h h' : Host} (h0 : Without f gone h h') :
    (readSettings h').1 = (readSettings h).1 :=
  readSettings_congr h0.body? (h0.nodeAt h0.body)

theorem matches_wantsReducedMotion :
    Matches Eq (Without f gone) wantsReducedMotion wantsReducedMotion := by
  refine (matches_record _ _).then fun _ h h' h0 => ?_
  rw [bind_apply, get_apply, bind_apply, get_apply]
  dsimp only
  rw [h0.sound .matchMedia, h0.sound' .matchMedia, h0.reducedMotion]
  exact ⟨rfl, h0⟩

theorem matches_enhancePage : Matches Eq (Without f gone) enhancePage enhancePage := by
  intro h h' h0
  obtain ⟨hsame, hnames⟩ := readSettings_names h
  unfold enhancePage
  rw [bind_apply, bind_apply, hsame, (readSettings_names h').1, readSettings_without h0]
  generalize (readSettings h).1 = settings at hnames ⊢
  obtain ⟨s, rejected⟩ := settings
  have hlimit : Matches Eq (Without f gone) (limitLog s.logLevel) (limitLog s.logLevel) :=
    matches_modify fun _ _ h0 => { h0 with }
  have hfeatures : ∀ reducedMotion, Matches Eq (Without f gone)
      (do
        wireBackToTop s.backToTop
        wireReveal s.reveal reducedMotion
        wireTyping s.typing reducedMotion
        wireCommits s.commits)
      (do
        wireBackToTop s.backToTop
        wireReveal s.reveal reducedMotion
        wireTyping s.typing reducedMotion
        wireCommits s.commits) := fun reducedMotion =>
    (matches_wireBackToTop hnames.backToTop).then fun _ =>
    (matches_wireReveal hnames.selector reducedMotion).then fun _ =>
    (matches_wireTyping hnames.typing reducedMotion).then fun _ =>
    matches_wireCommits hnames.commits
  refine (hlimit.then fun _ => ?_) h h' h0
  refine (Matches.forM_same fun r _ => matches_say _ _).then fun _ => ?_
  refine matches_wantsReducedMotion.then fun reducedMotion => ?_
  refine (matches_wireTheme hnames.darkClass hnames.toggle).then fun made => ?_
  cases made with
  | none => exact hfeatures reducedMotion
  | some i => exact (matches_wireShortcut _ i).then fun _ => hfeatures reducedMotion

theorem matches_enhance : Matches Eq (Without f gone) enhance enhance := by
  intro h h' h0
  unfold enhance
  rw [bind_apply, get_apply, bind_apply, get_apply]
  dsimp only
  rw [h0.window, h0.document]
  split
  · exact matches_enhancePage h h' h0
  · exact ⟨rfl, h0⟩

theorem matches_start : Matches Eq (Without f gone) start start := by
  have hlater : Matches Eq (Without f gone) (listen .document "DOMContentLoaded" .enhance)
      (listen .document "DOMContentLoaded" .enhance) :=
    matches_listen Target.isKept_document rfl rfl
  intro h h' h0
  unfold start
  rw [bind_apply, get_apply, bind_apply, get_apply]
  dsimp only
  rw [h0.window, h0.document, h0.ready]
  split
  · split
    · exact hlater h h' h0
    · exact matches_enhance h h' h0
  · exact ⟨rfl, h0⟩

/-! ### Events -/

theorem matches_keystroke {e : PageEvent} (he : e.IsKept gone) :
    Matches Eq (Without f gone) (keystroke e) (keystroke (e.renumber gone)) := by
  intro h h' h0
  unfold keystroke PageEvent.renumber
  cases hsource : e.source with
  | none => exact ⟨rfl, h0⟩
  | some i => exact ((matches_node (he i hsource)).then fun n => matches_pure rfl) h h' h0

/-- A handler that does not serve the feature. -/
theorem matches_react {e : PageEvent} (he : e.IsKept gone) {handler : Handler}
    (hhandler : handler.isOf f = false) :
    Matches Eq (Without f gone) (react e handler) (react (e.renumber gone) handler) := by
  have hother : handler.isAside = true → .backToTop ≠ f := by
    intro haside hf
    simp [Handler.isOf, haside, hf.symm] at hhandler
  cases handler with
  | enhance => exact matches_enhance.then fun _ => matches_pure rfl
  | flip i => exact (matches_flipTheme i).then fun _ => matches_pure rfl
  | shortcut chord i =>
    show Matches Eq (Without f gone) _ (if ¬ e.isKeyboard then _ else _)
    rw [react]
    split
    · exact matches_pure rfl
    · refine (matches_keystroke he).then fun stroke => ?_
      split
      · exact (matches_flipTheme i).then fun theme => (matches_say _ _).then fun _ =>
          matches_pure rfl
      · exact matches_pure rfl
  | follow i => exact (matches_syncGate (hother rfl) i).then fun _ => matches_pure rfl
  | scrollUp => exact (matches_record _ _).then fun _ => matches_pure rfl

/-- The handlers of an event that does not come to a struck node. -/
theorem handlers_without {h h' : Host} (h0 : Without f gone h h') {target : Target}
    (htarget : target.IsKept gone) (type : String) :
    h'.handlers (target.renumber gone) type =
      (h.handlers target type).filter fun handler => !handler.isOf f := by
  have hsame : ∀ l ∈ h.listeners,
      (decide ((l.renumber gone).target = target.renumber gone ∧ (l.renumber gone).type = type) &&
        !l.handler.isOf f) =
      (!l.handler.isOf f && decide (l.target = target ∧ l.type = type)) := by
    intro l hl
    cases hof : l.handler.isOf f with
    | true => simp
    | false =>
      have hkept := (h0.heard l hl).2.1 hof
      have htargets : (l.renumber gone).target = target.renumber gone ↔ l.target = target :=
        Target.renumber_inj hkept htarget
      rw [Bool.not_false, Bool.and_true, Bool.true_and]
      exact decide_eq_decide.mpr (and_congr htargets Iff.rfl)
  unfold handlers
  rw [h0.listeners, List.filter_map, List.map_map, List.filter_map, List.filter_filter,
    List.filter_filter]
  exact congrArg _ (List.filter_congr hsame)

/-- One handler after the other.  Those of the feature work on the one page only. -/
theorem without_mapM_react {e : PageEvent} (he : e.IsKept gone) {l : List Handler} {h h' : Host}
    (h0 : Without f gone h h') :
    let l' := l.filter fun handler => !handler.isOf f
    Without f gone (l.mapM (react e) h).2 (l'.mapM (react (e.renumber gone)) h').2 ∧
      ((∀ handler ∈ l, handler.isOf f = false) →
        (l'.mapM (react (e.renumber gone)) h').1 = (l.mapM (react e) h).1) := by
  induction l generalizing h h' with
  | nil => exact ⟨h0, fun _ => rfl⟩
  | cons handler rest ih =>
    intro l'
    rw [mapM_cons_apply]
    cases hof : handler.isOf f with
    | true =>
      have hsame : l' = rest.filter fun handler => !handler.isOf f :=
        List.filter_cons_of_neg (by simp [hof])
      obtain ⟨haside, hf⟩ : handler.isAside = true ∧ f = .backToTop := by
        simpa [Handler.isOf] using hof
      have hreact := (Without.disregards.keeps_react (decide_eq_true hf.symm) e haside h
        ⟨h0, rfl⟩).1
      rw [hsame]
      refine ⟨(ih hreact).1, fun hnone => ?_⟩
      rw [hnone handler List.mem_cons_self] at hof
      cases hof
    | false =>
      have hsame : l' = handler :: rest.filter fun handler => !handler.isOf f :=
        List.filter_cons_of_pos (by simp [hof])
      obtain ⟨hanswer, hreact⟩ := matches_react he hof h h' h0
      obtain ⟨hwithout, hanswers⟩ := ih hreact
      rw [hsame, mapM_cons_apply, ← hanswer]
      refine ⟨hwithout, fun hnone => ?_⟩
      rw [hanswers fun u hu => hnone u (List.mem_cons_of_mem handler hu)]

/-- An event leads to the same on both pages, and unless it is a scroll, it is answered alike. -/
theorem without_dispatch {h h' : Host} (h0 : Without f gone h h') {target : Target}
    (htarget : target.IsKept gone) (type : String) {e : PageEvent} (he : e.IsKept gone) :
    Without f gone (dispatch target type e h).2
        (dispatch (target.renumber gone) type (e.renumber gone) h').2 ∧
      (type ≠ "scroll" → (dispatch (target.renumber gone) type (e.renumber gone) h').1 =
        (dispatch target type e h).1) := by
  obtain ⟨hwithout, hanswers⟩ := without_mapM_react he (l := h.handlers target type) h0
  have hall : type ≠ "scroll" → ∀ handler ∈ h.handlers target type, handler.isOf f = false := by
    intro hscroll handler hhandler
    obtain ⟨l, hl, rfl⟩ := List.mem_map.mp hhandler
    obtain ⟨hmem, hevent⟩ := List.mem_filter.mp hl
    obtain ⟨rfl, rfl⟩ := of_decide_eq_true hevent
    refine Bool.eq_false_iff.mpr fun hof => ?_
    exact ((h0.heard l hmem).2.2 hof).elim hscroll fun hgone => hgone htarget
  rw [← handlers_without h0 htarget] at hwithout hanswers
  refine ⟨hwithout, fun hscroll => ?_⟩
  have hlength : (h'.handlers (target.renumber gone) type).length =
      (h.handlers target type).length := by
    rw [handlers_without h0 htarget, List.filter_eq_self.mpr]
    intro handler hhandler
    rw [hall hscroll handler hhandler]
    rfl
  have hdispatch : ∀ (k : Host) (target : Target) (e : PageEvent),
      (dispatch target type e k).1 =
        ⟨(k.handlers target type).length, ((k.handlers target type).mapM (react e) k).1.any id⟩ :=
    fun _ _ _ => rfl
  rw [hdispatch, hdispatch, hanswers (hall hscroll), hlength]

/-- Clicks and keys leave all work for later alone. -/
theorem keeps_sameWork_dispatch {g : Host} (target : Target) {type : String}
    (hheard : ∀ l ∈ g.listeners, l.type = l.handler.eventType)
    (htype : type = "click" ∨ type = "keydown") (e : PageEvent) :
    SameWork g (dispatch target type e g).2 := by
  have hreact : ∀ handler ∈ g.handlers target type, Keeps (SameWork g) (react e handler) := by
    intro handler hhandler
    obtain ⟨l, hl, rfl⟩ := List.mem_map.mp hhandler
    obtain ⟨hmem, hevent⟩ := List.mem_filter.mp hl
    obtain ⟨-, rfl⟩ := of_decide_eq_true hevent
    rw [hheard l hmem] at htype
    cases haside : l.handler.isAside with
    | false =>
      refine SameWork.unflipped.keeps_react e haside fun henhance => ?_
      simp [henhance, Handler.eventType] at htype
    | true =>
      cases hhandler : l.handler with
      | scrollUp => exact (SameWork.unflipped.keeps_record rfl rfl).bind fun _ => keeps_pure _
      | follow i => simp [hhandler, Handler.eventType] at htype
      | _ =>
        rw [hhandler] at haside
        cases haside
  exact Keeps.mapM hreact g (.refl g)

end HostM

namespace Session

open Host HostM

variable {f : Feature} {gone : NodeId → Bool} {h h' : Host}

/-! ### Steps -/

/-- A step with the numbers of the nodes that are left. -/
def Step.renumber (gone : NodeId → Bool) : Step → Step
  | .event target type e => .event (target.renumber gone) type (e.renumber gone)
  | .sight o batch => .sight o (batch.map (Sighting.renumber gone))
  | .putAttribute i name value => .putAttribute (rank gone i) name value
  | .detach i => .detach (rank gone i)
  | t => t

/-- A step of a page or a change from outside that does not touch the struck nodes and makes no
    new element that the feature looks for. -/
def Step.Spares (f : Feature) (gone : NodeId → Bool) : Step → Prop
  | .event target _ e => target.IsKept gone ∧ e.IsKept gone
  | .sight _ batch => f = .reveal ∨ ∀ s ∈ batch, s.IsKept gone
  | .putAttribute i name value =>
    gone i = false ∧ ∀ v, value = some v → f.seeks (({} : Node).setAttribute name v) = false
  | .addElement n => n.attached = true → f.seeks n = false
  | .detach i => gone i = false
  | t => t.isPage = true

/-- Typing without a tagline, and last-update without its element, have no tasks. -/
theorem ofFeature_without (h0 : Without f gone h h') : Task.ofFeature f h'.tasks = [] := by
  rw [h0.tasks]
  refine List.filter_eq_nil_iff.mpr fun t' ht' => ?_
  obtain ⟨t, ht, rfl⟩ := List.mem_map.mp ht'
  have hne : t.feature ≠ f := of_decide_eq_false (Task.mem_besides.mp ht).2
  simpa using hne

theorem without_elapse (h0 : Without f gone h h') (hidle : ∀ t ∈ h.tasks, t.isIdle = true)
    (ms : Nat) : Without f gone (elapse ms h).2 (elapse ms h').2 := by
  by_cases hf : .typing = f
  · subst hf
    have hothers : ∀ t ∈ Task.besides (fun f' => f' = .typing) h.tasks, t.isIdle = true :=
      fun t ht => hidle t (Task.mem_besides.mp ht).1
    have hleft := (Without.disregards.keeps_elapse hothers rfl ms h ⟨h0, rfl⟩).1
    rw [elapse_eq (ofFeature_without h0)]
    exact { hleft with clock := fun hne => absurd rfl hne }
  · exact (matches_elapse hf ms h h' ⟨h0, fun t ht _ => hidle t ht⟩).2.1

theorem without_respond (h0 : Without f gone h h') (d : Delivery) :
    Without f gone (respond d h).2 (respond d h').2 := by
  by_cases hf : .commits = f
  · subst hf
    rw [respond_eq (ofFeature_without h0)]
    exact (Without.disregards.keeps_respond rfl d h ⟨h0, rfl⟩).1
  · exact (matches_respond hf d h h' h0).2

theorem without_sight (h0 : Without f gone h h') (o : Nat) {batch : List Sighting}
    (hkept : f = .reveal ∨ ∀ s ∈ batch, s.IsKept gone) :
    Without f gone (sight o batch h).2 (sight o (batch.map (Sighting.renumber gone)) h').2 := by
  by_cases hf : .reveal = f
  · have hnone : sight o (batch.map (Sighting.renumber gone)) h' = (0, h') := by
      unfold sight
      rw [bind_apply, get_apply, h0.observers, if_pos hf.symm]
      rfl
    rw [hnone]
    exact (Without.disregards.keeps_sight (decide_eq_true hf) o batch h ⟨h0, rfl⟩).1
  · exact (matches_sight hf (hkept.resolve_left (Ne.symm hf)) o h h' h0).2

theorem without_act (h0 : Without f gone h h') (hidle : ∀ t ∈ h.tasks, t.isIdle = true)
    {t : Step} (ht : t.Spares f gone) (held held' : Option Nat) :
    Without f gone (act held t h).2 (act held' (t.renumber gone) h').2 := by
  cases t with
  | start => exact (matches_start h h' h0).2
  | enhance => exact (matches_enhance h h' h0).2
  | ready =>
    have hready : Without f gone { h with readyState := "interactive" }
        { h' with readyState := "interactive" } := { h0 with ready := rfl }
    exact (without_dispatch hready Target.isKept_document "DOMContentLoaded"
      (e := {}) fun i hi => nomatch hi).1
  | event target type e => exact (without_dispatch h0 ht.1 type ht.2).1
  | scroll offset =>
    have hscrolled : Without f gone { h with scrollY := offset } { h' with scrollY := offset } :=
      { h0 with scrollY := rfl }
    exact (without_dispatch hscrolled Target.isKept_window "scroll"
      (e := {}) fun i hi => nomatch hi).1
  | sight o batch => exact without_sight h0 o ht
  | elapse ms => exact without_elapse h0 hidle ms
  | respond d => exact without_respond h0 d
  | putAttribute i name value =>
    obtain ⟨hi, hvalue⟩ := ht
    cases value with
    | some v => exact h0.edit hi fun n ha hs => ⟨ha, Feature.seeks_setAttribute (hvalue v rfl) hs⟩
    | none => exact h0.edit hi fun n ha hs => ⟨ha, Feature.seeks_removeAttribute hs⟩
  | addElement n => exact h0.append ht
  | detach i => exact h0.edit ht fun n ha _ => nomatch ha
  | _ => cases ht

theorem without_step {s s' : Session} (h0 : Without f gone s.host s'.host)
    (hidle : ∀ t ∈ s.host.tasks, t.isIdle = true) {t : Step} (ht : t.Spares f gone) :
    Without f gone (s.step t).2.host (s'.step (t.renumber gone)).2.host := by
  rw [host_step, host_step]
  exact (without_runTasks (without_act h0 hidle ht s.held s'.held)).1

theorem without_run {s s' : Session} (h0 : Without f gone s.host s'.host)
    (hidle : ∀ t ∈ s.host.tasks, t.isIdle = true) (steps : List Step)
    (hsteps : ∀ t ∈ steps, t.Spares f gone) :
    Without f gone (s.run steps).host (s'.run (steps.map (Step.renumber gone))).host ∧
      ∀ t ∈ (s.run steps).host.tasks, t.isIdle = true := by
  induction steps generalizing s s' with
  | nil => exact ⟨h0, hidle⟩
  | cons t rest ih =>
    refine ih (without_step h0 hidle (hsteps t List.mem_cons_self)) ?_ fun u hu =>
      hsteps u (List.mem_cons_of_mem t hu)
    rw [host_step]
    exact isIdle_runTasks

/-- A click or a key is answered alike. -/
theorem answer_without {s s' : Session} (h0 : Without f gone s.host s'.host)
    (hidle : ∀ t ∈ s.host.tasks, t.isIdle = true) {target : Target} (htarget : target.IsKept gone)
    {type : String} (htype : type = "click" ∨ type = "keydown") {e : PageEvent}
    (he : e.IsKept gone) :
    (s'.step (.event (target.renumber gone) type (e.renumber gone))).1 =
      (s.step (.event target type e)).1 := by
  have hscroll : type ≠ "scroll" := by
    rintro rfl
    exact absurd htype (by decide)
  obtain ⟨hafter, hanswer⟩ := without_dispatch h0 htarget type he
  have hsame := keeps_sameWork_dispatch target (fun l hl => (h0.heard l hl).1) htype e
  have hidle1 : ∀ t ∈ (dispatch target type e s.host).2.tasks, t.isIdle = true := by
    rw [hsame.tasks]
    exact hidle
  have hidle2 : ∀ t ∈ (dispatch (target.renumber gone) type (e.renumber gone) s'.host).2.tasks,
      t.isIdle = true := by
    intro t' ht'
    rw [hafter.tasks] at ht'
    obtain ⟨t, ht, rfl⟩ := List.mem_map.mp ht'
    rw [Task.isIdle_renumber]
    exact hidle1 t (Task.mem_besides.mp ht).1
  have hact : ∀ (k : Session) (target : Target) (e : PageEvent),
      act k.held (.event target type e) k.host =
        (.dispatched (dispatch target type e k.host).1, (dispatch target type e k.host).2) :=
    fun _ _ _ => rfl
  rw [step_eq_of_act (hact s target e) hidle1,
    step_eq_of_act (hact s' (target.renumber gone) (e.renumber gone)) hidle2, hanswer hscroll]

/-- **A missing element disables its own feature only.**  Take away all elements that one
    feature looks for, as long as no other feature looks for one of them, and start the page.
    Then let anything happen to it that does not touch the elements taken away and puts no
    other in their place: the visitor and the network do what they like, the page is enhanced
    again, and elements are changed, added or detached from outside.  All of this on the page
    with the elements and on the page without them leads to the same nodes, but for those taken
    away, and to the same store; and every click and every key is answered alike. -/
theorem missing_run (hf : f ≠ .theme) {s : Session} (h0 : s.host.Pristine)
    (hbody : gone 0 = false) (hbound : ∀ i, gone i = true → i < s.host.nodes.length)
    (hapart : ∀ i n f', s.host.nodes[i]? = some n → n.attached = true → f'.seeks n = true →
      (gone i = true ↔ f' = f))
    (steps : List Step) (hsteps : ∀ t ∈ steps, t.Spares f gone) :
    let bare : Session := { s with host := { s.host with nodes := strike gone s.host.nodes } }
    let full := s.run (.start :: steps)
    let lacking := bare.run (.start :: steps.map (Step.renumber gone))
    lacking.host.nodes = strike gone full.host.nodes ∧
      lacking.host.storage = full.host.storage ∧
      ∀ target type e, target.IsKept gone → e.IsKept gone → type = "click" ∨ type = "keydown" →
        (lacking.step (.event (target.renumber gone) type (e.renumber gone))).1 =
          (full.step (.event target type e)).1 := by
  intro bare full lacking
  have hstart : Without f gone s.host bare.host := h0.without hf hbody hbound hapart
  have hidle : ∀ t ∈ s.host.tasks, t.isIdle = true := by
    rw [h0.tasks]
    exact List.forall_mem_nil _
  have hall : ∀ t ∈ Step.start :: steps, t.Spares f gone := by
    intro t ht
    rcases List.mem_cons.mp ht with rfl | ht
    · exact (rfl : Step.start.isPage = true)
    · exact hsteps t ht
  obtain ⟨hwithout, hidle'⟩ := without_run hstart hidle _ hall
  exact ⟨hwithout.nodes, hwithout.storage, fun target type e htarget he htype =>
    answer_without hwithout hidle' htarget htype he⟩

/-- Without its back-to-top button, a page with a tagline is scrolled, the theme is flipped by its
    control, which has moved up to the button's number, and time passes. -/
theorem missing_run_button :
    let nodes : List Node := [{ tag := "body" }, { attributes := .ofList [("id", "tagline")] },
      { tag := "a", attributes := .ofList [("id", "back-to-top")] }]
    let gone : NodeId → Bool := fun i => i == 2
    let pressed : Step := .event (.node 3) "click" {}
    let steps : List Step := [.scroll (.ofInt 400), pressed, .elapse 10]
    ({ nodes } : Host).Pristine ∧ strike gone nodes = nodes.take 2 ∧
      pressed.renumber gone = .event (.node 2) "click" {} ∧
      (({ host := { nodes := strike gone nodes } } : Session).run
          (.start :: steps.map (Step.renumber gone))).host.nodes =
        strike gone (({ host := { nodes } } : Session).run (.start :: steps)).host.nodes := by
  intro nodes gone pressed steps
  have hpristine : ({ nodes } : Host).Pristine := ⟨fun _ => rfl, rfl, rfl, rfl, rfl, rfl⟩
  have hbound : ∀ i, gone i = true → i < nodes.length := by
    intro i hi
    obtain rfl : i = 2 := by simpa [gone] using hi
    decide
  have hapart : ∀ i n f', nodes[i]? = some n → n.attached = true → Feature.seeks f' n = true →
      (gone i = true ↔ f' = .backToTop) := by
    intro i n f' hn _ hseeks
    rcases i with _ | _ | _ | i
    · cases hn
      cases f' <;> exact absurd hseeks (by decide +kernel)
    · cases hn
      cases f' with
      | typing => decide
      | _ => exact absurd hseeks (by decide +kernel)
    · cases hn
      cases f' with
      | backToTop => decide
      | _ => exact absurd hseeks (by decide +kernel)
    · cases hn
  have hsteps : ∀ t ∈ steps, t.Spares .backToTop gone := by
    intro t ht
    rcases List.mem_cons.mp ht with rfl | ht
    · exact (rfl : (Step.scroll _).isPage = true)
    rcases List.mem_cons.mp ht with rfl | ht
    · exact ⟨Target.isKept_node rfl, nofun⟩
    · rw [List.mem_singleton.mp ht]
      exact (rfl : (Step.elapse _).isPage = true)
  have hrun := missing_run (f := .backToTop) (s := { host := { nodes } }) nofun hpristine rfl hbound
    hapart _ hsteps
  have hrank : rank gone 3 = 2 := by decide
  have hnodes := hrun.1
  dsimp only at hnodes
  refine ⟨hpristine, rfl, ?_, hnodes⟩
  show Step.event (.node (rank gone 3)) "click" {} = _
  rw [hrank]

end Session

end Enhance
