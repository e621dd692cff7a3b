/-
  Enhance/Proofs/Host/Commuting.lean
  ==================================
  **Events of different features change places.**

  Time is the business of typing and replies are the business of last-update,
  with all that their tasks do then; clicks, keys, scrolling and coming into view
  are those of the other features.  So any two of them that belong to different
  features leave the page the same in either order, whatever happened before.
-/
import Enhance.Proofs.Host.Footprint

namespace Enhance

/-! ### Time -/

namespace Task

theorem ofFeature_map_wake (age : Nat) (l : List Task) (f : Feature) :
    ofFeature f (l.map (wake age)) = (ofFeature f l).map (wake age) := by
  rw [← besides_others, ← besides_others]
  exact besides_map (fun t => (sameWriter_wake age t).feature) l

theorem filterMap_timer? (l : List Task) :
    l.filterMap timer? = (ofFeature .typing l).filterMap timer? := by
  rw [← besides_others]
  exact (filterMap_besides rfl l).symm

theorem foldr_left (l : List Task) :
    l.foldr (fun t sum => t.left + sum) 0 =
      (ofFeature .typing l).foldr (fun t sum => t.left + sum) 0 := by
  rw [← besides_others]
  exact (foldr_besides rfl l).symm

end Task

namespace Host

open HostM

variable {g h : Host} {f : Feature}

namespace Confined

theorem setClock (now : Nat) :
    Confined g .typing (modify fun h : Host => { h with now } : HostM Unit) := by
  refine cell (k := .clock) rfl ?_ ?_ ?_
  · intro h h0
    exact h0.congr (h0.toArranged.congr rfl rfl rfl rfl rfl rfl rfl) rfl
  · intro h c hc
    cases c with
    | clock => exact absurd rfl hc
    | _ => rfl
  · intro h h' hsame
    have hclock : (h.now, h.timersMade) = (h'.now, h'.timersMade) := hsame .clock (.inr rfl)
    show (now, h.timersMade) = (now, h'.timersMade)
    rw [(Prod.mk.inj hclock).2]

theorem wakeAll (age : Nat) : Confined g .typing
    (modify fun h : Host => { h with tasks := h.tasks.map (Task.wake age) } : HostM Unit) := by
  refine cell (k := .typings) rfl ?_ ?_ ?_
  · intro h h0
    refine ⟨{ h0.toArranged with tasks := ?_ }, ?_⟩
    · intro t' ht'
      obtain ⟨t, ht, rfl⟩ := List.mem_map.mp ht'
      have hsame := Task.sameWriter_wake age t
      rw [hsame.feature, hsame.node]
      exact h0.tasks t ht
    · intro t' ht' hne
      obtain ⟨t, ht, rfl⟩ := List.mem_map.mp ht'
      rw [(Task.sameWriter_wake age t).feature] at hne
      rw [Task.wake_of_ne_typing hne]
      exact h0.idle t ht hne
  · intro h c hc
    cases c with
    | typings => exact absurd rfl hc
    | requests =>
      refine (Task.ofFeature_map_wake age h.tasks .commits).trans ?_
      refine (List.map_congr_left fun t ht => ?_).trans (List.map_id _)
      refine Task.wake_of_ne_typing ?_ age
      rw [(Task.mem_ofFeature.mp ht).2]
      exact Feature.noConfusion
    | _ => rfl
  · intro h h' hsame
    show Task.ofFeature _ (h.tasks.map _) = Task.ofFeature _ (h'.tasks.map _)
    rw [Task.ofFeature_map_wake, Task.ofFeature_map_wake, hsame.tasks]

theorem fire (deadline age : Nat) : Confined g .typing (HostM.fire deadline age) :=
  -- the clock stands at the deadline, and the task is woken
  ((setClock deadline).bind fun _ => wakeAll age).bind fun _ => runTasks

theorem fireDue (limit n : Nat) : Confined g .typing (HostM.fireDue limit n) := by
  induction n with
  | zero => exact pure _
  | succ n ih =>
    refine reading firstTimer? ?_ ?_
    · intro h h' _ _ hsame
      unfold firstTimer?
      rw [Task.filterMap_timer?, hsame.tasks, ← Task.filterMap_timer?]
    · intro k _
      cases hfirst : k.firstTimer? with
      | none =>
        refine ⟨_, pure none, ?_⟩
        intro h _ heq
        rw [HostM.fireDue, bind_apply, get_apply, heq]
      | some timer =>
        obtain ⟨deadline, age⟩ := timer
        refine ⟨if limit < deadline then return none
          else do
            let broken ← HostM.fire deadline age
            broken.elim (HostM.fireDue limit n) fun overrun => return some overrun, ?_, ?_⟩
        · split
          · exact pure _
          · refine (fire deadline age).bind fun broken => ?_
            cases broken with
            | some overrun => exact pure _
            | none => exact ih
        · intro h _ heq
          rw [HostM.fireDue, bind_apply, get_apply, heq]
          dsimp only
          split
          · rfl
          · rw [bind_apply, bind_apply]
            cases (HostM.fire deadline age h).1 <;> rfl

theorem elapse (ms : Nat) : Confined g .typing (HostM.elapse ms) := by
  refine reading (fun h => (h.now, h.keysLeft)) ?_ ?_
  · intro h h' _ _ hsame
    have hclock : (h.now, h.timersMade) = (h'.now, h'.timersMade) := hsame .clock (.inr rfl)
    unfold keysLeft
    rw [Task.foldr_left, hsame.tasks, ← Task.foldr_left, (Prod.mk.inj hclock).1]
  · intro k _
    refine ⟨do
      let broken ← HostM.fireDue (k.now + ms) k.keysLeft
      modify fun g : Host => { g with now := k.now + ms }
      return broken, ?_, ?_⟩
    · exact (fireDue _ _).bind fun _ => (setClock _).bind fun _ => pure _
    · intro h _ heq
      obtain ⟨hnow, hkeys⟩ := Prod.mk.inj heq
      unfold HostM.elapse
      rw [bind_apply, get_apply, hnow, hkeys]

end Confined

/-! ### Replies -/

namespace Confined

/-- A reply is for no task of typing. -/
theorem answerFirst_ofTyping {d : Delivery} {l l' : List Task} (hanswer : answerFirst d l = some l') :
    Task.ofFeature .typing l' = Task.ofFeature .typing l := by
  rw [← Task.besides_others, ← Task.besides_others]
  exact answerFirst_besides (by decide) hanswer

theorem respond (d : Delivery) : Confined g .commits (HostM.respond d) := by
  have hanswer : Confined g .commits (modify fun h : Host =>
      { h with tasks := (answerFirst d h.tasks).getD h.tasks } : HostM Unit) := by
    refine cell (k := .requests) rfl ?_ ?_ ?_
    · intro h h0
      have harranged : Arranged g { h with tasks := (answerFirst d h.tasks).getD h.tasks } := by
        have hkept := (Follows.unmoved.disregards.keeps_respond rfl d h h0.toArranged.follows).toArranged
        unfold HostM.respond at hkept
        rw [bind_apply, get_apply] at hkept
        cases hfirst : answerFirst d h.tasks with
        | none => exact h0.toArranged
        | some tasks =>
          rw [hfirst] at hkept
          exact hkept
      refine ⟨harranged, ?_⟩
      intro t ht hne
      -- the tasks of typing are those that wait already
      have htyping : t.feature = .typing := by
        cases t with
        | typing i delay writer phase => rfl
        | commit i url offset phase => exact absurd rfl hne
      have hmem : t ∈ Task.ofFeature .typing ((answerFirst d h.tasks).getD h.tasks) :=
        Task.mem_ofFeature.mpr ⟨ht, htyping⟩
      have hsame : Task.ofFeature .typing ((answerFirst d h.tasks).getD h.tasks) =
          Task.ofFeature .typing h.tasks := by
        cases hfirst : answerFirst d h.tasks with
        | none => rfl
        | some tasks => exact answerFirst_ofTyping hfirst
      rw [hsame] at hmem
      exact h0.idle t (Task.mem_ofFeature.mp hmem).1 hne
    · intro h c hc
      cases c with
      | requests => exact absurd rfl hc
      | typings =>
        show Task.ofFeature .typing ((answerFirst d h.tasks).getD h.tasks) = _
        cases hfirst : answerFirst d h.tasks with
        | none => rfl
        | some tasks => exact answerFirst_ofTyping hfirst
      | _ => rfl
    · intro h h' hsame
      have hgetD : ∀ l, Task.ofFeature .commits ((answerFirst d l).getD l) =
          (answerFirst d (Task.ofFeature .commits l)).getD (Task.ofFeature .commits l) := by
        intro l
        rw [← answerFirst_ofFeature d l]
        cases answerFirst d l <;> rfl
      show Task.ofFeature .commits ((answerFirst d h.tasks).getD h.tasks) =
        Task.ofFeature .commits ((answerFirst d h'.tasks).getD h'.tasks)
      rw [hgetD, hgetD, hsame.tasks]
  refine reading (fun h => (answerFirst d h.tasks).isSome) ?_ ?_
  · intro h h' _ _ hsame
    have hisSome : ∀ l, (answerFirst d l).isSome =
        (answerFirst d (Task.ofFeature .commits l)).isSome := by
      intro l
      rw [← answerFirst_ofFeature d l, Option.isSome_map]
    show (answerFirst d h.tasks).isSome = (answerFirst d h'.tasks).isSome
    rw [hisSome, hsame.tasks, ← hisSome]
  · intro k _
    refine ⟨do
      modify fun h : Host => { h with tasks := (answerFirst d h.tasks).getD h.tasks }
      return (answerFirst d k.tasks).isSome, hanswer.bind fun _ => pure _, ?_⟩
    intro h _ heq
    unfold HostM.respond
    rw [bind_apply, get_apply, bind_apply, modify_apply, ← heq]
    dsimp only
    cases answerFirst d h.tasks <;> rfl

end Confined

/-! ### The same page -/

/-- Two states of a page that are the same but for the log, the list of effects and the order
    in which classes are written. -/
structure SamePage (h h' : Host) : Prop where
  size : h'.nodes.length = h.nodes.length
  tag : ∀ i, (h'.nodeAt i).tag = (h.nodeAt i).tag
  attached : ∀ i, (h'.nodeAt i).attached = (h.nodeAt i).attached
  attributes : ∀ i name, name ≠ "class" →
    (h'.nodeAt i).attributes.get? name = (h.nodeAt i).attributes.get? name
  classes : ∀ i name, (h'.nodeAt i).hasClass name = (h.nodeAt i).hasClass name
  text : ∀ i, (h'.nodeAt i).text = (h.nodeAt i).text
  markup : ∀ i, (h'.nodeAt i).markup = (h.nodeAt i).markup
  style : ∀ i, (h'.nodeAt i).style = (h.nodeAt i).style
  storage : h'.storage = h.storage
  scrollY : h'.scrollY = h.scrollY
  gates : h'.gates = h.gates
  observers : h'.observers = h.observers
  typings : Task.ofFeature .typing h'.tasks = Task.ofFeature .typing h.tasks
  requests : Task.ofFeature .commits h'.tasks = Task.ofFeature .commits h.tasks
  tasks : h'.tasks.Perm h.tasks
  clock : (h'.now, h'.timersMade) = (h.now, h.timersMade)
  listeners : h'.listeners = h.listeners
  switches : h'.switches = h.switches

theorem perm_ofFeature (l : List Task) :
    (Task.ofFeature .typing l ++ Task.ofFeature .commits l).Perm l := by
  have hcommits : Task.ofFeature .commits l =
      l.filter fun t => !(decide (t.feature = .typing)) := by
    unfold Task.ofFeature
    congr 1
    funext t
    cases t <;> rfl
  rw [hcommits]
  exact List.filter_append_perm _ l

/-- Pages that are the same cell by cell. -/
theorem samePage_of_look {h h' : Host} (hlook : ∀ c : Cell, h'.look c = h.look c) :
    SamePage h h' := by
  have hkind : ∀ i, (h'.nodeAt i).see .kind = (h.nodeAt i).see .kind :=
    fun i => hlook (.node i .kind)
  have hcontent : ∀ i, (h'.nodeAt i).see .content = (h.nodeAt i).see .content :=
    fun i => hlook (.node i .content)
  have htypings : Task.ofFeature .typing h'.tasks = Task.ofFeature .typing h.tasks :=
    hlook .typings
  have hrequests : Task.ofFeature .commits h'.tasks = Task.ofFeature .commits h.tasks :=
    hlook .requests
  constructor
  · exact hlook .size
  · exact fun i => congrArg (fun k : String × Bool × Bool × Bool => k.1) (hkind i)
  · exact fun i => congrArg (fun k : String × Bool × Bool × Bool => k.2.2.2) (hkind i)
  · intro i name hname
    have hnamed : (h'.nodeAt i).see (.named name) = (h.nodeAt i).see (.named name) :=
      hlook (.node i (.named name))
    have hsee : ∀ n : Node, n.see (.named name) = n.attributes.get? name := fun n => if_neg hname
    rw [hsee, hsee] at hnamed
    exact hnamed
  · exact fun i name => hlook (.node i (.className name))
  · exact fun i => congrArg (fun k : String × Option String => k.1) (hcontent i)
  · exact fun i => congrArg (fun k : String × Option String => k.2) (hcontent i)
  · exact fun i => hlook (.node i .style)
  · exact hlook .storage
  · exact hlook .scroll
  · exact hlook .gates
  · exact hlook .observers
  · exact htypings
  · exact hrequests
  · refine (perm_ofFeature h'.tasks).symm.trans ?_
    rw [htypings, hrequests]
    exact perm_ofFeature h.tasks
  · exact hlook .clock
  · exact congrArg (fun k : List Listener × List BodySwitch => k.1) (hlook .setup)
  · exact congrArg (fun k : List Listener × List BodySwitch => k.2) (hlook .setup)

end Host

/-! ### Steps -/

namespace Session

open Host HostM

/-- The feature whose event a step is. -/
def Step.feature? : Step → Option Feature
  | .event _ type _ => if type = "click" ∨ type = "keydown" then some .theme else none
  | .scroll _ => some .backToTop
  | .sight .. => some .reveal
  | .elapse _ => some .typing
  | .respond _ => some .commits
  | _ => none

/-- A step, with the tasks that run after it. -/
def Step.whole (t : Step) : HostM Unit := do
  let _ ← act none t
  let _ ← HostM.runTasks

theorem isPage_of_feature? {t : Step} {f : Feature} (ht : t.feature? = some f) :
    t.isPage = true := by
  cases t with
  | event target type e => rfl
  | scroll offset => rfl
  | sight o batch => rfl
  | elapse ms => rfl
  | respond d => rfl
  | _ => cases ht

theorem host_step_whole {t : Step} {f : Feature} (ht : t.feature? = some f) (s : Session) :
    (s.step t).2.host = (t.whole s.host).2 := by
  rw [host_step]
  -- none of these steps uses the switch at hand
  cases t with
  | event target type e => rfl
  | scroll offset => rfl
  | sight o batch => rfl
  | elapse ms => rfl
  | respond d => rfl
  | _ => cases ht

theorem confined_whole {g : Host}
    (hbutton : ∀ b, g.byId? "back-to-top" = some b → (g.nodeAt b).hasClass "fade-in" = false)
    {t : Step} {f : Feature} (ht : t.feature? = some f) : Confined g f t.whole := by
  have hact : Confined g f (act none t) := by
    cases t with
    | event target type e =>
      rw [Step.feature?] at ht
      split at ht
      · rename_i htype
        cases ht
        refine (Confined.dispatch e (fun handler hhandler => ?_) target).bind fun _ => .pure _
        exact Confined.react_theme e (hhandler ▸ htype)
      · cases ht
    | scroll offset =>
      cases ht
      have hscroll : Confined g .backToTop
          (modify fun h : Host => { h with scrollY := offset } : HostM Unit) := by
        refine Confined.cell (k := .scroll) rfl ?_ ?_ fun _ => rfl
        · intro h h0
          exact h0.congr (h0.toArranged.congr rfl rfl rfl rfl rfl rfl rfl) rfl
        · intro h c hc
          cases c with
          | scroll => exact absurd rfl hc
          | _ => rfl
      refine hscroll.bind fun _ => ?_
      refine (Confined.dispatch {} (fun handler hhandler => ?_) .window).bind fun _ => .pure _
      cases handler with
      | follow n => exact (Confined.syncGate hbutton n).bind fun _ => .pure _
      | enhance => exact absurd hhandler (by decide)
      | flip n => exact absurd hhandler (by simp [Handler.eventType])
      | shortcut chord n => exact absurd hhandler (by simp [Handler.eventType])
      | scrollUp => exact absurd hhandler (by decide)
    | sight o batch =>
      cases ht
      exact (Confined.sight o batch).bind fun _ => .pure _
    | elapse ms =>
      cases ht
      exact (Confined.elapse ms).bind fun _ => .pure _
    | respond d =>
      cases ht
      exact (Confined.respond d).bind fun _ => .pure _
    | _ => cases ht
  exact hact.bind fun _ => Confined.runTasks.bind fun _ => .pure _

/-- **Events of different features change places.**  A page with no failing calls, whose
    back-to-top button does not fade in, is set up and visited in any way.  Then two events of
    different features leave it the same in either order. -/
theorem run_swap {s : Session} (h0 : s.host.Pristine)
    (hbutton : ∀ b, s.host.byId? "back-to-top" = some b →
      (s.host.nodeAt b).hasClass "fade-in" = false)
    (steps : List Step) (hsteps : ∀ t ∈ steps, t.isPage = true) {t u : Step} {f f' : Feature}
    (ht : t.feature? = some f) (hu : u.feature? = some f') (hne : f ≠ f') :
    SamePage (s.run (steps ++ [t, u])).host (s.run (steps ++ [u, t])).host := by
  have hresting := resting_run h0.resting steps hsteps
  have hrun : ∀ {t u : Step} {f f' : Feature}, t.feature? = some f → u.feature? = some f' →
      (s.run (steps ++ [t, u])).host = (u.whole (t.whole (s.run steps).host).2).2 := by
    intro t u f f' ht hu
    rw [run, List.foldl_append]
    show (((s.run steps).step t).2.step u).2.host = _
    rw [host_step_whole hu, host_step_whole ht]
  have hafter : ∀ {t : Step} {f : Feature}, t.feature? = some f →
      Resting s.host (t.whole (s.run steps).host).2 := by
    intro t f ht
    rw [← host_step_whole ht]
    exact resting_step hresting.toArranged (isPage_of_feature? ht)
  rw [hrun ht hu, hrun hu ht]
  apply samePage_of_look
  intro c
  exact ((confined_whole hbutton hu).swap (confined_whole hbutton ht) hne.symm hresting (hafter hu)
    (hafter ht) c)

/-- A body that fades in is seen for the first time when the theme is switched, so that both
    features change its classes. -/
theorem run_swap_fading_body :
    let page : Host := { nodes := [{ tag := "body", attributes := .ofList [("class", "fade-in")] },
      { tag := "a", attributes := .ofList [("id", "back-to-top")] }] }
    let s : Session := { host := page }
    let seen : Step := .sight 0 [.entry 0 true]
    let pressed : Step := .event .document "keydown"
      { isKeyboard := true, code := "KeyD", modifiers := { alt := true, shift := true } }
    (page.Pristine ∧ (∀ b, page.byId? "back-to-top" = some b →
      (page.nodeAt b).hasClass "fade-in" = false)) ∧
    (((s.run [.start, seen, pressed]).host.nodeAt 0).hasClass "dark-mode" = true ∧
      ((s.run [.start, seen, pressed]).host.nodeAt 0).hasClass "visible" = true) ∧
    SamePage (s.run [.start, seen, pressed]).host (s.run [.start, pressed, seen]).host := by
  intro page s seen pressed
  have hpristine : page.Pristine := ⟨fun _ => rfl, rfl, rfl, rfl, rfl, rfl⟩
  have hbutton : ∀ b, page.byId? "back-to-top" = some b →
      (page.nodeAt b).hasClass "fade-in" = false := by
    intro b hb
    have hfound : page.byId? "back-to-top" = some 1 := by decide +kernel
    obtain rfl : 1 = b := Option.some.inj (hfound.symm.trans hb)
    decide +kernel
  have hseen : seen.feature? = some .reveal := rfl
  have hpressed : pressed.feature? = some .theme := by decide
  refine ⟨⟨hpristine, hbutton⟩, by decide +kernel, ?_⟩
  exact run_swap hpristine hbutton [.start] (by decide) hseen hpressed (by decide)

end Session

end Enhance
