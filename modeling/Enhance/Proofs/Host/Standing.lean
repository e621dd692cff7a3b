/-
  Enhance/Proofs/Host/Standing.lean
  =================================
  **Where a feature with work for later stands.**

  Typing and last-update have tasks, calls that nobody else makes, and an element
  whose text they alone set.  How far such a feature has come is told by these
  three (`Stands`).  The theme and the other features have no part in them, so
  the feature stands where it stood until its own event comes, whatever the
  visitor does in between (`stands_run`).
-/
import Enhance.Proofs.Host.Commuting

namespace Enhance

/-- A call that is made for one feature: a call of its own, or one that sets text on its
    element. -/
def Call.concerns (f : Feature) (element : Option NodeId) : Call → Bool
  | setText j _ => element = some j
  | call => call.feature? = some f

theorem Call.concerns_of_isShared {f : Feature} {element : Option NodeId} {call : Call}
    (hcall : call.isShared = true) : call.concerns f element = false := by
  cases call with
  | createElement i tag => cases hcall
  | setText i text => cases hcall
  | makeTimer delay => cases hcall
  | fetch url headers => cases hcall
  | readBody => cases hcall
  | _ => rfl

theorem Call.concerns_of_feature? {f f' : Feature} {element : Option NodeId} {call : Call}
    (hcall : call.feature? = some f') : call.concerns f element = decide (f' = f) := by
  have hown : call.concerns f element = decide (call.feature? = some f) := by
    cases call with
    | setText i text => cases hcall
    | _ => rfl
  rw [hown, hcall]
  simp

namespace Host

/-- On an arranged page, the tasks and the calls of a feature and the text of its element are
    these; the page is not going to be enhanced again. -/
structure Stands (g : Host) (f : Feature) (element : Option NodeId) (work : List Task)
    (calls : List Call) (text : String) (h : Host) : Prop extends Arranged g h where
  left : Task.ofFeature f h.tasks = work
  made : h.trace.filter (Call.concerns f element) = calls
  shown : ∀ i, element = some i → (h.nodeAt i).text = text
  behind : h.minutesBehind = g.minutesBehind
  once : ∀ l ∈ h.listeners, l.handler ≠ .enhance

/-- A feature with tasks, and its element. -/
structure WorksOn (g : Host) (f : Feature) (element : Option NodeId) : Prop where
  feature : f = .typing ∨ f = .commits
  owns : ∀ i, element = some i → g.Owns f i

variable {g h h' : Host} {f : Feature} {element : Option NodeId} {work : List Task}
  {calls : List Call} {text : String} {i j : NodeId}

namespace WorksOn

/-- No other feature sets text on the element. -/
theorem ne_of_task (hw : WorksOn g f element) {t : Task} (hne : t.feature ≠ f)
    (ht : g.Owns t.feature t.node) : element ≠ some t.node := by
  intro helement
  have hown := hw.owns t.node helement
  cases t with
  | typing j delay writer phase =>
    rcases hw.feature with rfl | rfl
    · exact hne rfl
    · exact absurd (eq_of_byId? ht hown) (by decide)
  | commit j url offset phase =>
    rcases hw.feature with rfl | rfl
    · exact absurd (eq_of_byId? ht hown) (by decide)
    · exact hne rfl

/-- Nor does the theme draw on it. -/
theorem ne_of_control (hw : WorksOn g f element) (hj : g.Owns .theme j) : element ≠ some j := by
  intro helement
  have hown := hw.owns j helement
  rcases hw.feature with rfl | rfl
  · exact absurd (hj _ (nodeAt_of_byId? hown).2) (by decide)
  · exact absurd (hj _ (nodeAt_of_byId? hown).2) (by decide)

theorem lt (hw : WorksOn g f element) (hi : element = some i) : i < g.nodes.length := by
  rcases hw.feature with rfl | rfl
  · exact lt_of_byId? (hw.owns i hi)
  · exact lt_of_byId? (hw.owns i hi)

theorem isOther (hw : WorksOn g f element) {f' : Feature} (hf' : f' = .backToTop ∨ f' = .reveal) :
    decide (f' ≠ f) = true := by
  rcases hw.feature with rfl | rfl <;> rcases hf' with rfl | rfl <;> rfl

end WorksOn

namespace Stands

/-- A change that touches nothing the feature relies on. -/
theorem withArranged (h0 : Stands g f element work calls text h) (harranged : Arranged g h')
    (hnodes : h'.nodes = h.nodes) (htasks : h'.tasks = h.tasks) (htrace : h'.trace = h.trace)
    (hbehind : h'.minutesBehind = h.minutesBehind) (hlisteners : h'.listeners = h.listeners) :
    Stands g f element work calls text h' where
  toArranged := harranged
  left := htasks ▸ h0.left
  made := htrace ▸ h0.made
  shown i hi := by
    rw [nodeAt, hnodes]
    exact h0.shown i hi
  behind := hbehind.trans h0.behind
  once := hlisteners ▸ h0.once

theorem noted (h0 : Stands g f element work calls text h) {call : Call}
    (hcall : call.concerns f element = false) :
    Stands g f element work calls text (h.noted call) where
  toArranged := h0.congr rfl rfl rfl rfl rfl rfl rfl
  left := h0.left
  made := by
    show (h.trace ++ [call]).filter _ = calls
    rw [List.filter_append, h0.made, List.filter_cons_of_neg (by rw [hcall]; exact nofun)]
    exact List.append_nil calls
  shown := h0.shown
  behind := h0.behind
  once := h0.once

/-- A call that is made for the feature. -/
theorem called (h0 : Stands g f element work calls text h) {call : Call}
    (hcall : call.concerns f element = true) :
    Stands g f element work (calls ++ [call]) text (h.noted call) where
  toArranged := h0.congr rfl rfl rfl rfl rfl rfl rfl
  left := h0.left
  made := by
    show (h.trace ++ [call]).filter _ = calls ++ [call]
    rw [List.filter_append, h0.made, List.filter_cons_of_pos hcall]
    rfl
  shown := h0.shown
  behind := h0.behind
  once := h0.once

theorem edit (h0 : Stands g f element work calls text h) {F : Node → Node}
    (hF : ∀ n, Node.Alike "fade-in" n (F n))
    (htext : element = some j → ∀ n, (F n).text = n.text) :
    Stands g f element work calls text (h.edit j F) where
  toArranged := h0.toArranged.edit hF
  left := h0.left
  made := h0.made
  shown i hi := nodeAt_edit_induction (P := fun n => n.text = text) (h0.shown i hi)
    fun hji => (htext (hji ▸ hi) _).trans (h0.shown i hi)
  behind := h0.behind
  once := h0.once

theorem withListener (h0 : Stands g f element work calls text h) (target : Target)
    {handler : Handler} (hhandler : handler ≠ .enhance) : Stands g f element work calls text
      { h with listeners := h.listeners ++ [⟨target, handler.eventType, handler⟩] } := by
  refine { h0 with toArranged := h0.toArranged.withListener target handler, once := ?_ }
  intro l hl
  rcases List.mem_append.mp hl with hl | hl
  · exact h0.once l hl
  · rw [List.mem_singleton.mp hl]
    exact hhandler

/-- Other tasks. -/
theorem withTasks (h0 : Stands g f element work calls text h) {l : List Task}
    (howns : ∀ t ∈ l, g.Owns t.feature t.node) :
    Stands g f element (Task.ofFeature f l) calls text { h with tasks := l } :=
  { h0 with toArranged := { h0.toArranged with tasks := howns }, left := rfl }

variable (hw : WorksOn g f element)

include hw

/-- The theme has no part in the work of the feature. -/
theorem unthemed : Unthemed Standard (g.Owns .theme) (Stands g f element work calls text) where
  standard := ⟨rfl, rfl⟩
  held h0 := Arranged.unthemed.held h0.toArranged
  found hs h0 := Arranged.unthemed.found hs h0.toArranged
  log h0 := h0.withArranged (h0.congr rfl rfl rfl rfl rfl rfl rfl) rfl rfl rfl rfl rfl
  noted hcall _ h0 := h0.noted (Call.concerns_of_isShared hcall)
  stored h0 := h0.withArranged (h0.congr rfl rfl rfl rfl rfl rfl rfl) rfl rfl rfl rfl rfl
  dark := by
    intro h s present hs htoken h0
    have hconcerns : (Call.mark 0 s.darkClass present).concerns f element = false :=
      Call.concerns_of_isShared (by cases present <;> rfl)
    exact (h0.noted hconcerns).edit (fun n => n.alike_putClass htoken (by rw [hs.1]; decide))
      fun _ _ => Node.text_putClass
  drawn hc h0 := h0.edit (fun _ => ⟨⟨rfl, rfl⟩, rfl⟩) fun helement =>
    absurd helement (hw.ne_of_control hc)
  labelled _ hname h0 := h0.edit (fun n => n.alike_setAttribute _ _
    (fun heq => hname (by simp [heq])) fun heq => hname (by simp [heq])) fun _ _ => rfl
  created := by
    intro h s hs h0
    obtain ⟨harranged, howns⟩ := Arranged.unthemed.created hs h0.toArranged
    refine ⟨?_, howns⟩
    rw [HostM.createControl_eq h0.sound] at harranged ⊢
    refine { h0 with toArranged := harranged, made := ?_, shown := ?_ }
    · show (h.trace ++ _).filter _ = calls
      rw [List.filter_append, h0.made]
      exact List.append_nil calls
    · intro i hi
      rw [nodeAt_append_of_lt rfl (Nat.lt_of_lt_of_le (hw.lt hi) h0.length_le)]
      exact h0.shown i hi
  switches hswitches h0 :=
    h0.withArranged (Arranged.unthemed.switches hswitches h0.toArranged) rfl rfl rfl rfl rfl
  bound _ h0 := h0.edit (fun n => n.alike_setAttribute _ _ (by decide) (by decide)) fun _ _ => rfl
  listens _ hhandler h0 := h0.withListener _ hhandler

/-- Nor have the other features. -/
theorem disregards : Disregards (fun f' => f' ≠ f) (fun _ => True) g.Owns work
    (Stands g f element work calls text) where
  log h0 := h0.withArranged (h0.congr rfl rfl rfl rfl rfl rfl rfl) rfl rfl rfl rfl rfl
  logLimit h0 := h0.withArranged (h0.congr rfl rfl rfl rfl rfl rfl rfl) rfl rfl rfl rfl rfl
  noted := by
    intro h call hcall h0
    refine h0.noted ?_
    cases hcall with
    | shared hshared hmark => exact Call.concerns_of_isShared hshared
    | marks hj present => exact Call.concerns_of_isShared (by cases present <;> rfl)
    | text hne ht text => exact decide_eq_false (hw.ne_of_task (of_decide_eq_true hne) ht)
    | own hown hne =>
      rw [Call.concerns_of_feature? hown]
      exact decide_eq_false (of_decide_eq_true hne)
  clock _ h0 := h0.withArranged (h0.congr rfl rfl rfl rfl rfl rfl rfl) rfl rfl rfl rfl rfl
  visible _ h0 := h0.edit (fun n => alike_visible n _) fun _ _ => Node.text_putClass
  style _ h0 := h0.edit (fun _ => ⟨⟨rfl, rfl⟩, rfl⟩) fun _ _ => rfl
  text hne ht h0 := h0.edit (fun _ => ⟨⟨rfl, rfl⟩, rfl⟩) fun helement =>
    absurd helement (hw.ne_of_task (of_decide_eq_true hne) ht)
  shown _ _ := trivial
  gate _ hbutton h0 := h0.withArranged
    (Follows.unmoved.gate hbutton h0.toArranged.follows).toArranged rfl rfl rfl rfl rfl
  moved _ h0 := h0.withArranged
    (Follows.unmoved.moved h0.toArranged.follows).toArranged rfl rfl rfl rfl rfl
  buttons _ _ _ _ := trivial
  follow _ h0 := h0.withListener .window (Handler.noConfusion : Handler.follow _ ≠ .enhance)
  scrollUp _ _ h0 := h0.withListener (.node _) (Handler.noConfusion : Handler.scrollUp ≠ .enhance)
  observer _ h0 := h0.withArranged
    (Follows.unmoved.observer h0.toArranged.follows).toArranged rfl rfl rfl rfl rfl
  watched _ hwatch h0 := h0.withArranged
    (Follows.unmoved.watched hwatch h0.toArranged.follows).toArranged rfl rfl rfl rfl rfl
  targets _ _ _ _ _ _ := trivial
  tasks := by
    intro h l howns hrest h0
    have hleft : Task.ofFeature f l = work := (Task.besides_others f l).symm.trans hrest
    rw [← hleft]
    refine h0.withTasks fun t ht => ?_
    by_cases hf : t.feature = f
    · -- the tasks of the feature are the same as before
      have hown : t ∈ Task.ofFeature f h.tasks := by
        rw [h0.left, ← hleft]
        exact Task.mem_ofFeature.mpr ⟨ht, hf⟩
      exact h0.tasks t (Task.mem_ofFeature.mp hown).1
    · exact howns t ht (decide_eq_true hf)
  writes h0 t ht _ := h0.tasks t ht
  others h0 := (Task.besides_others f _).trans h0.left

end Stands

end Host

namespace HostM

open Host

variable {g : Host} {f : Feature} {element : Option NodeId} {work : List Task}
  {calls : List Call} {text : String}

/-! ### Events -/

theorem keeps_stands_react (hw : WorksOn g f element) (e : PageEvent) {handler : Handler}
    (hhandler : handler ≠ .enhance) :
    Keeps (Stands g f element work calls text) (react e handler) := by
  cases haside : handler.isAside with
  | true => exact (Stands.disregards hw).keeps_react (hw.isOther (.inl rfl)) e haside
  | false => exact (Stands.unthemed hw).keeps_react e haside hhandler

theorem keeps_stands_dispatch (hw : WorksOn g f element) (target : Target) (type : String)
    (e : PageEvent) : Keeps (Stands g f element work calls text) (dispatch target type e) := by
  intro h h0
  have hall : Keeps (Stands g f element work calls text)
      ((h.handlers target type).mapM (react e)) := by
    refine Keeps.mapM fun handler hhandler => keeps_stands_react hw e ?_
    obtain ⟨l, hl, rfl⟩ := List.mem_map.mp hhandler
    exact h0.once l (List.mem_filter.mp hl).1
  unfold dispatch
  rw [bind_apply, handlersFor_eq]
  exact hall h h0

/-! ### A pass -/

/-- A pass in which the one task of the feature goes on. -/
theorem stands_runTasks {task : Task} {left : List Task} {calls' : List Call} {text' : String}
    (hw : WorksOn g f element)
    (hrun : ∀ h, Stands g f element [task] calls text h → (runTask task h).1.1.toList = left ∧
      Stands g f element [task] calls' text' (runTask task h).2) {h : Host}
    (h0 : Stands g f element [task] calls text h) :
    Stands g f element left calls' text' (runTasks h).2 :=
  lead_runTasks
    (fun _ hu hown => ⟨(Stands.disregards hw).keeps_runTask (decide_eq_true hu) hown,
      (Stands.disregards hw).keeps_runTask (decide_eq_true hu) hown⟩)
    hrun (fun _ _ hk howns hleft => hleft ▸ hk.withTasks howns) h0.tasks h0.left h0

/-! ### Time and replies -/

/-- Time passes without typing. -/
theorem elapse_eq {h : Host} (hnone : Task.ofFeature .typing h.tasks = []) (ms : Nat) :
    elapse ms h = (none, { h with now := h.now + ms }) := by
  have hfirst : h.firstTimer? = none := by
    unfold firstTimer?
    rw [Task.filterMap_timer?, hnone]
    rfl
  have hdue : ∀ limit n, fireDue limit n h = (none, h) := by
    intro limit n
    cases n with
    | zero => rfl
    | succ n =>
      rw [fireDue, bind_apply, get_apply, hfirst]
      rfl
  unfold elapse
  rw [bind_apply, get_apply, bind_apply, hdue]
  rfl

/-- A reply without requests is lost. -/
theorem respond_eq {h : Host} (hnone : Task.ofFeature .commits h.tasks = []) (d : Delivery) :
    respond d h = (false, h) := by
  have hanswer : answerFirst d h.tasks = none := by
    have hfirst := answerFirst_ofFeature d h.tasks
    rw [hnone] at hfirst
    exact Option.map_eq_none_iff.mp hfirst
  unfold respond
  rw [bind_apply, get_apply, hanswer]
  rfl

end HostM

namespace Session

open Host HostM

variable {g : Host} {f : Feature} {element : Option NodeId} {work : List Task}
  {calls : List Call} {text : String}

/-- What a visitor does leaves the feature where it stands, unless it is an event of the
    feature for which it has work. -/
theorem act_stands (hw : WorksOn g f element) (hidle : ∀ t ∈ work, t.isIdle = true)
    (held : Option Nat) {t : Step} (ht : t.isVisit = true)
    (hevent : t.feature? = some f → work = []) :
    Keeps (Stands g f element work calls text) (act held t) := by
  cases t with
  | event target type e => exact (keeps_stands_dispatch hw _ _ _).bind fun _ => keeps_pure _
  | scroll offset =>
    refine Keeps.bind (keeps_modify fun h h0 => ?_) fun _ =>
      (keeps_stands_dispatch hw _ _ _).bind fun _ => keeps_pure _
    exact h0.withArranged (h0.congr rfl rfl rfl rfl rfl rfl rfl) rfl rfl rfl rfl rfl
  | sight o batch =>
    exact ((Stands.disregards hw).keeps_sight (hw.isOther (.inr rfl)) o batch).bind fun _ =>
      keeps_pure _
  | elapse ms =>
    rcases hw.feature with rfl | rfl
    · intro h h0
      show Stands g _ element work calls text (elapse ms h).2
      rw [elapse_eq (h0.left.trans (hevent rfl))]
      exact h0.withArranged (h0.congr rfl rfl rfl rfl rfl rfl rfl) rfl rfl rfl rfl rfl
    · exact ((Stands.disregards hw).keeps_elapse hidle rfl ms).bind fun _ => keeps_pure _
  | respond d =>
    rcases hw.feature with rfl | rfl
    · exact ((Stands.disregards hw).keeps_respond rfl d).bind fun _ => keeps_pure _
    · intro h h0
      show Stands g _ element work calls text (respond d h).2
      rw [respond_eq (h0.left.trans (hevent rfl))]
      exact h0
  | _ => cases ht

theorem stands_step (hw : WorksOn g f element) (hidle : ∀ t ∈ work, t.isIdle = true)
    {s : Session} (h0 : Stands g f element work calls text s.host) {t : Step}
    (ht : t.isVisit = true) (hevent : t.feature? = some f → work = []) :
    Stands g f element work calls text (s.step t).2.host := by
  rw [host_step]
  exact (Stands.disregards hw).keeps_runTasks hidle _ (act_stands hw hidle s.held ht hevent _ h0)

theorem stands_run (hw : WorksOn g f element) (hidle : ∀ t ∈ work, t.isIdle = true)
    {s : Session} (h0 : Stands g f element work calls text s.host) (steps : List Step)
    (hsteps : ∀ t ∈ steps, t.isVisit = true ∧ (t.feature? = some f → work = [])) :
    Stands g f element work calls text (s.run steps).host := by
  induction steps generalizing s with
  | nil => exact h0
  | cons t rest ih =>
    obtain ⟨ht, hevent⟩ := hsteps t List.mem_cons_self
    exact ih (stands_step hw hidle h0 ht hevent) fun u hu => hsteps u (List.mem_cons_of_mem t hu)

end Session

end Enhance
