/-
  Enhance/Proofs/Host/Aside.lean
  ==============================
  **What some of the features beside the theme leave as it is.**

  Back-to-top, reveal, typing and last-update have few ways of touching a page:
  one class and the style of elements, the text of two, lists of their own, the
  log and the clock.  A property `Disregards` some of them if none of their ways
  disturbs it.  It is then kept by all that those features do: when they are set
  up, when their events come, and while their tasks run, as long as the tasks of
  the other features wait.
-/
import Enhance.Proofs.Host.Tasks
import Enhance.Proofs.Host.Work

namespace Enhance

/-- A call that features of `fs` make when they set text on nodes of their own only, and show or
    hide only nodes that `shows` allows. -/
inductive Call.IsOf (fs : Feature → Bool) (shows : NodeId → Prop)
    (owns : Feature → NodeId → Prop) : Call → Prop
  | shared {call : Call} (h : call.isShared = true) (hmark : call.isMark = false) :
    IsOf fs shows owns call
  | marks {j : NodeId} (hj : shows j) (present : Bool) :
    IsOf fs shows owns (.mark j visibleClass present)
  | text {t : Task} (hf : fs t.feature = true) (ht : owns t.feature t.node) (text : String) :
    IsOf fs shows owns (.setText t.node text)
  | own {f : Feature} {call : Call} (hcall : call.feature? = some f) (hf : fs f = true) :
    IsOf fs shows owns call

theorem Call.IsOf.isCreation {fs : Feature → Bool} {shows : NodeId → Prop}
    {owns : Feature → NodeId → Prop} {call : Call} (hcall : call.IsOf fs shows owns) :
    call.isCreation = false := by
  cases hcall with
  | shared h hmark =>
    cases call with
    | createElement i tag => cases h
    | _ => rfl
  | marks hj present => cases present <;> rfl
  | text hf ht text => rfl
  | own h hf =>
    cases call with
    | createElement i tag => cases h
    | _ => rfl

namespace Host

/-- A property that the features of `fs` do not disturb, as long as each sets text on nodes that
    it owns, and they change the looks only of nodes that `shows` allows.  The tasks of the other
    features are those of `rest`. -/
structure Disregards (fs : Feature → Bool) (shows : NodeId → Prop)
    (owns : Feature → NodeId → Prop) (rest : List Task) (P : Host → Prop) : Prop where
  log : ∀ {h log}, P h → P { h with log }
  logLimit : ∀ {h logLimit}, P h → P { h with logLimit }
  noted : ∀ {h call}, call.IsOf fs shows owns → P h → P (h.noted call)
  clock : ∀ {h now timersMade}, fs .typing = true → P h → P { h with now, timersMade }
  visible : ∀ {h j present}, shows j → P h → P (h.edit j fun n => n.putClass visibleClass present)
  style : ∀ {h j property value}, shows j → P h → P (h.edit j fun n => n.setStyle property value)
  text : ∀ {h text} {t : Task}, fs t.feature = true → owns t.feature t.node → P h →
    P (h.edit t.node fun n => n.setText text)
  shown : ∀ {j}, fs .reveal = true → owns .reveal j → shows j
  gate : ∀ {h gate button}, fs .backToTop = true → owns .backToTop button → P h →
    P { h with gates := h.gates ++ [⟨gate, button⟩] }
  moved : ∀ {h i gate}, fs .backToTop = true → P h →
    P { h with gates := h.gates.modify i fun g => { g with gate } }
  buttons : ∀ {h}, fs .backToTop = true → P h → ∀ b ∈ h.gates, shows b.button
  follow : ∀ {h i}, fs .backToTop = true → P h →
    P { h with listeners := h.listeners ++ [⟨.window, "scroll", .follow i⟩] }
  scrollUp : ∀ {h button}, fs .backToTop = true → owns .backToTop button → P h →
    P { h with listeners := h.listeners ++ [⟨.node button, "click", .scrollUp⟩] }
  observer : ∀ {h step cap}, fs .reveal = true → P h →
    P { h with observers := h.observers ++ [{ step, cap }] }
  watched : ∀ {h o} {f : List NodeId → List NodeId}, fs .reveal = true →
    (∀ l, (∀ j ∈ l, owns .reveal j) → ∀ j ∈ f l, owns .reveal j) → P h →
    P { h with observers := h.observers.modify o fun ob => { ob with nodes := f ob.nodes } }
  targets : ∀ {h}, fs .reveal = true → P h → ∀ o ∈ h.observers, ∀ j ∈ o.nodes, shows j
  tasks : ∀ {h tasks}, (∀ t ∈ tasks, fs t.feature = true → owns t.feature t.node) →
    Task.besides fs tasks = rest → P h → P { h with tasks }
  writes : ∀ {h}, P h → ∀ t ∈ h.tasks, fs t.feature = true → owns t.feature t.node
  others : ∀ {h}, P h → Task.besides fs h.tasks = rest

end Host

namespace HostM

/-- The class that shows elements is a token. -/
theorem isToken_visibleClass : Node.IsToken visibleClass :=
  Node.isToken_of_any (by decide) (by decide)

end HostM

namespace Host.Disregards

open HostM

variable {fs : Feature → Bool} {shows : NodeId → Prop} {owns : Feature → NodeId → Prop}
  {rest : List Task} {P : Host → Prop} (hp : Disregards fs shows owns rest P)

include hp

section Effects

theorem keeps_record {call : Call} (hcall : call.IsOf fs shows owns) : Keeps P (record call) :=
  fun _ h0 => hp.noted hcall h0

theorem keeps_say (level : Log.Level) (text : String) : Keeps P (say level text) := by
  intro h h0
  obtain ⟨log, hlog⟩ := say_eq (h := h) level text
  rw [hlog]
  exact hp.log h0

theorem keeps_limitLog (level : Log.Level) : Keeps P (limitLog level) :=
  fun _ h0 => hp.logLimit h0

theorem keeps_wantsReducedMotion : Keeps P wantsReducedMotion := by
  refine (hp.keeps_record (.shared rfl rfl)).bind fun _ => keeps_get.bind ?_
  intro h
  split <;> exact keeps_pure _

theorem keeps_show {j : NodeId} (hj : shows j) (present : Bool) :
    Keeps P (markClass j visibleClass present) := by
  have hput : Keeps P (putClass j visibleClass present) := by
    refine Keeps.attempt ?_
    split
    · exact keeps_pure _
    · have hedit : Keeps P (editNode j fun n => n.putClass visibleClass present) := fun _ h0 =>
        hp.visible hj h0
      exact (hp.keeps_record (.marks hj present)).bind fun _ => hedit.bind fun _ => keeps_pure _
  refine hput.bind fun answer => ?_
  split
  · exact keeps_pure _
  · exact hp.keeps_say _ _

theorem keeps_setText {t : Task} (hf : fs t.feature = true) (ht : owns t.feature t.node)
    (text : String) : Keeps P (setText t.node text) :=
  (hp.keeps_record (.text hf ht text)).bind fun _ _ h0 => hp.text hf ht h0

theorem keeps_spawn {t : Task} (hf : fs t.feature = true) (ht : owns t.feature t.node) :
    Keeps P (spawn t) := by
  intro h h0
  refine hp.tasks ?_ ?_ h0
  · intro u hu hfu
    rcases List.mem_append.mp hu with hu | hu
    · exact hp.writes h0 u hu hfu
    · rw [List.mem_singleton.mp hu]
      exact ht
  · rw [← hp.others h0, Task.besides_append, Task.besides_cons_of_true hf]
    exact List.append_nil _

theorem keeps_listen {target : Target} {type : String} {handler : Handler}
    (hadd : ∀ {h}, P h → P { h with listeners := h.listeners ++ [⟨target, type, handler⟩] }) :
    Keeps P (listen target type handler) := by
  have hattach : Keeps P (addListener target type handler) :=
    Keeps.attempt ((hp.keeps_record (.shared rfl rfl)).bind fun _ =>
      Keeps.bind (keeps_modify fun _ h0 => hadd h0) fun _ => keeps_pure _)
  refine hattach.bind fun answer => ?_
  split
  · exact keeps_pure _
  · exact hp.keeps_say _ _

end Effects

/-! ### Back to top -/

section BackToTop

variable (hf : fs .backToTop = true)

include hf

theorem keeps_syncGate (i : Nat) : Keeps P (syncGate i) := by
  have hoffset : Keeps P scrollOffset := Keeps.attempt (keeps_get.bind fun _ => keeps_pure _)
  refine hoffset.bind fun offset => ?_
  intro h h0
  rw [bind_apply, get_apply]
  cases hgate : h.gates[i]? with
  | none => exact h0
  | some b =>
    have hbutton := hp.buttons hf h0 b (List.mem_of_getElem? hgate)
    refine Keeps.bind (keeps_modify fun h h0 => hp.moved hf h0) (fun _ => ?_) h h0
    split
    · exact hp.keeps_show hbutton _
    · exact keeps_pure _

theorem keeps_react (e : PageEvent) {handler : Handler} (haside : handler.isAside = true) :
    Keeps P (react e handler) := by
  cases handler with
  | follow i => exact (hp.keeps_syncGate hf i).bind fun _ => keeps_pure _
  | scrollUp => exact (hp.keeps_record (.shared rfl rfl)).bind fun _ => keeps_pure _
  | _ => cases haside

theorem keeps_wireBackToTop {b : BackToTopSettings}
    (hfound : ∀ {h j}, P h → h.byId? b.elementId = some j → owns .backToTop j) :
    Keeps P (wireBackToTop b) := by
  intro h h0
  unfold wireBackToTop
  rw [bind_apply, get_apply]
  cases hbutton : h.byId? b.elementId with
  | none => exact hp.keeps_say _ _ h h0
  | some button =>
    have howns := hfound h0 hbutton
    refine Keeps.bind keeps_get (fun _ =>
      Keeps.bind (keeps_modify fun _ h0 => hp.gate hf howns h0) fun _ => ?_) h h0
    refine (hp.keeps_syncGate hf _).bind fun _ => ?_
    refine (hp.keeps_listen fun h0 => hp.follow hf h0).bind fun _ => ?_
    exact hp.keeps_listen fun h0 => hp.scrollUp hf howns h0

end BackToTop

/-! ### Coming into view -/

section Reveal

variable (hf : fs .reveal = true)

include hf

theorem keeps_watch {f : List NodeId → List NodeId}
    (hwatch : ∀ l, (∀ j ∈ l, owns .reveal j) → ∀ j ∈ f l, owns .reveal j) (o : Nat) :
    Keeps P (watch o f) := fun _ h0 => hp.watched hf hwatch h0

theorem keeps_observe {j : NodeId} (hj : owns .reveal j) (o : Nat) : Keeps P (observe o j) := by
  refine (hp.keeps_record (.shared rfl rfl)).bind fun _ => hp.keeps_watch hf ?_ o
  intro l hl i hi
  split at hi
  · exact hl i hi
  · rcases List.mem_append.mp hi with hi | hi
    · exact hl i hi
    · rw [List.mem_singleton.mp hi]
      exact hj

theorem keeps_unobserve (o : Nat) (j : NodeId) : Keeps P (unobserve o j) :=
  (hp.keeps_record (.shared rfl rfl)).bind fun _ =>
    hp.keeps_watch hf (fun _ hl i hi => hl i (List.mem_filter.mp hi).1) o

theorem keeps_makeObserver (threshold : Binary64) (step cap : UInt32) :
    Keeps P (makeObserver threshold step cap) := by
  refine Keeps.attempt ((hp.keeps_record (.shared rfl rfl)).bind fun _ => keeps_get.bind fun _ => ?_)
  exact Keeps.bind (keeps_modify fun h h0 => hp.observer hf h0) fun _ => keeps_pure _

theorem keeps_revealBatch {batch : List Sighting}
    (hshows : ∀ j inView, .entry j inView ∈ batch → shows j) (o : Nat) (step cap : UInt32)
    (k : Nat) : Keeps P (revealBatch o step cap k batch) := by
  induction batch generalizing k with
  | nil => exact keeps_pure _
  | cons sighting rest ih =>
    have hrest := ih fun j inView hj => hshows j inView (List.mem_cons_of_mem sighting hj)
    cases sighting with
    | other => exact hrest k
    | entry j inView =>
      have hj : shows j := hshows j inView List.mem_cons_self
      cases inView with
      | false => exact hrest k
      | true =>
        rw [revealBatch]
        have hshow : Keeps P (do
            markClass j visibleClass true
            unobserve o j
            revealBatch o step cap (k + 1) rest) :=
          (hp.keeps_show hj true).bind fun _ => (hp.keeps_unobserve hf o j).bind fun _ =>
            hrest (k + 1)
        have hstyle : ∀ property value, Keeps P (setStyle j property value) := fun _ _ =>
          (hp.keeps_record (.shared rfl rfl)).bind fun _ _ h0 => hp.style hj h0
        refine Keeps.bind (fun _ h0 => h0) fun n => ?_
        split
        · exact (hstyle _ _).bind fun _ => hshow
        · exact hshow

/-- An observer is told of nothing but what it watches. -/
theorem keeps_sight (o : Nat) (batch : List Sighting) : Keeps P (sight o batch) := by
  intro h h0
  unfold sight
  rw [bind_apply, get_apply]
  cases hobserver : h.observers[o]? with
  | none => exact h0
  | some ob =>
    refine Keeps.bind (hp.keeps_revealBatch hf ?_ _ _ _ _) (fun _ => keeps_pure _) h h0
    intro j inView hj
    have hreaches := (List.mem_filter.mp hj).2
    exact hp.targets hf h0 ob (List.mem_of_getElem? hobserver) j
      (List.contains_iff_mem.mp hreaches)

theorem keeps_wireReveal {r : RevealSettings}
    (hfound : ∀ {h sel j}, P h → Selector.ofText? r.selector = some sel → j ∈ h.select sel →
      owns .reveal j) (reducedMotion : Bool) : Keeps P (wireReveal r reducedMotion) := by
  intro h h0
  unfold wireReveal
  rw [bind_apply]
  rcases querySelectorAll_cases h r.selector with ⟨t, hquery⟩ | ⟨sel, hsel, hquery⟩
  · rw [hquery]
    exact hp.keeps_say .warn _ h h0
  · rw [hquery]
    dsimp only
    cases htargets : h.select sel with
    | nil => exact hp.keeps_say .debug _ h h0
    | cons j rest =>
      have howns : ∀ i ∈ j :: rest, owns .reveal i := fun i hi =>
        hfound h0 hsel (htargets ▸ hi)
      have hall : Keeps P (revealAll (j :: rest)) :=
        Keeps.forM fun i hi => hp.keeps_show (hp.shown hf (howns i hi)) true
      cases reducedMotion with
      | true => exact hall h h0
      | false =>
        refine (hp.keeps_makeObserver hf r.threshold r.step r.cap).bind (fun made => ?_) h h0
        cases made with
        | error t => exact (hp.keeps_say _ _).bind fun _ => hall
        | ok o => exact Keeps.forM fun i hi => hp.keeps_observe hf (howns i hi) o

end Reveal

/-! ### Tasks -/

theorem keeps_awaitKey (hf : fs .typing = true) (j : NodeId) (delay : UInt32)
    (writer : Typewriter) : Keeps P (awaitKey j delay writer) := by
  have htimer : Keeps P (makeTimer delay) :=
    (hp.keeps_record (.own rfl hf)).bind fun _ _ h0 => hp.clock hf h0
  unfold awaitKey
  split
  · exact keeps_pure _
  · exact htimer.bind fun _ => keeps_pure _

theorem keeps_receive (hf : fs .commits = true) (d : Delivery) : Keeps P (receive d) := by
  have hread : Keeps P (record .readBody) := hp.keeps_record (.own rfl hf)
  cases d with
  | failure reason => exact keeps_pure _
  | reply status body =>
    rw [receive]
    split
    · exact hread.bind fun _ => keeps_pure _
    · exact keeps_pure _
  | brokenBody status reason =>
    rw [receive]
    split
    · exact hread.bind fun _ => keeps_pure _
    · exact keeps_pure _

theorem keeps_refresh (hf : fs .commits = true) {j : NodeId} (hj : owns .commits j)
    (brought : Except FetchFault Reply) (url : String) (offset : Int) :
    Keeps P ((commitPort j brought).refresh url offset) := by
  refine (keeps_pure brought).bind ?_
  intro answer
  refine (Keeps.forM fun e _ => hp.keeps_say e.level e.text).bind fun _ => ?_
  split
  · exact keeps_pure _
  · exact (hp.keeps_setText (t := .commit j url offset .ready) hf hj _).bind fun _ => keeps_pure _

theorem keeps_runTask {t : Task} (hf : fs t.feature = true) (ht : owns t.feature t.node) :
    Keeps P (runTask t) := by
  cases t with
  | typing j delay writer phase =>
    cases phase with
    | ready => exact (hp.keeps_awaitKey hf _ _ _).bind fun _ => keeps_pure _
    | waiting deadline age => exact keeps_pure _
    | woken =>
      rw [runTask]
      split
      · exact keeps_pure _
      · exact (hp.keeps_setText (t := .typing j delay writer .ready) hf ht _).bind fun _ =>
          (hp.keeps_awaitKey hf _ _ _).bind fun _ => keeps_pure _
  | commit j url offset phase =>
    cases phase with
    | ready => exact (hp.keeps_record (.own rfl hf)).bind fun _ => keeps_pure _
    | waiting => exact keeps_pure _
    | answered d =>
      refine (hp.keeps_receive hf d).bind ?_
      intro brought
      refine (hp.keeps_refresh hf ht _ _ _).bind ?_
      intro outcome
      split
      · exact keeps_pure _
      · exact (hp.keeps_say _ _).bind fun _ => keeps_pure _

section Pass

variable (hidle : ∀ t ∈ rest, t.isIdle = true)

include hidle

/-- A pass, as long as the tasks of the other features wait. -/
theorem keeps_runTasks : Keeps P runTasks := by
  intro h h0
  have hothers : ∀ t ∈ Task.besides fs h.tasks, t.isIdle = true := by
    rw [hp.others h0]
    exact hidle
  have hmap : P (h.tasks.mapM runTask h).2 := by
    refine Keeps.mapM (fun t ht => ?_) h h0
    cases hf : fs t.feature with
    | true => exact hp.keeps_runTask hf (hp.writes h0 t ht hf)
    | false =>
      intro k hk
      rw [runTask_idle (hothers t (Task.mem_besides.mpr ⟨ht, hf⟩))]
      exact hk
  refine hp.tasks ?_ ((besides_left hothers h).trans (hp.others h0)) hmap
  intro t' ht' hf
  -- what is left writes where the tasks wrote
  obtain ⟨t, ht, hsame, -⟩ := left_mapM t' ht'
  rw [hsame.feature] at hf ⊢
  rw [hsame.node]
  exact hp.writes h0 t ht hf

variable (hf : fs .typing = true)

include hf

theorem keeps_fire (deadline age : Nat) : Keeps P (fire deadline age) := by
  refine Keeps.bind (keeps_modify fun h h0 => ?_) fun _ => hp.keeps_runTasks hidle
  have hwake : P { h with tasks := h.tasks.map (Task.wake age) } := by
    refine hp.tasks ?_ ((Task.besides_map_wake hf age h.tasks).trans (hp.others h0)) h0
    intro t' ht' hft
    obtain ⟨t, ht, rfl⟩ := List.mem_map.mp ht'
    have hsame := Task.sameWriter_wake age t
    rw [hsame.feature] at hft ⊢
    rw [hsame.node]
    exact hp.writes h0 t ht hft
  exact hp.clock hf hwake

theorem keeps_fireDue (limit n : Nat) : Keeps P (fireDue limit n) := by
  induction n with
  | zero => exact keeps_pure _
  | succ n ih =>
    refine keeps_get.bind ?_
    intro h
    split
    · exact keeps_pure _
    · split
      · exact keeps_pure _
      · refine (hp.keeps_fire hidle hf _ _).bind fun broken => ?_
        split
        · exact keeps_pure _
        · exact ih

theorem keeps_elapse (ms : Nat) : Keeps P (elapse ms) := by
  refine keeps_get.bind fun h => (hp.keeps_fireDue hidle hf _ _).bind fun _ => ?_
  exact Keeps.bind (keeps_modify fun h' h0 => hp.clock hf h0) fun _ => keeps_pure _

end Pass

theorem keeps_respond (hf : fs .commits = true) (d : Delivery) : Keeps P (respond d) := by
  intro h h0
  unfold respond
  rw [bind_apply, get_apply]
  cases hanswer : answerFirst d h.tasks with
  | none => exact h0
  | some tasks =>
    refine hp.tasks ?_ ((answerFirst_besides hf hanswer).trans (hp.others h0)) h0
    intro t' ht' hft
    obtain ⟨t, ht, hsame⟩ := sameWriter_answerFirst hanswer t' ht'
    rw [hsame.feature] at hft ⊢
    rw [hsame.node]
    exact hp.writes h0 t ht hft

/-! ### Typing and last update -/

theorem keeps_wireTyping (hf : fs .typing = true) {s : TypingSettings}
    (hfound : ∀ {h j}, P h → h.byId? s.elementId = some j → owns .typing j)
    (reducedMotion : Bool) : Keeps P (wireTyping s reducedMotion) := by
  intro h h0
  unfold wireTyping
  rw [bind_apply, get_apply]
  cases htagline : h.byId? s.elementId with
  | none => exact hp.keeps_say _ _ h h0
  | some j =>
    have howns := hfound h0 htagline
    have hnode : Keeps P (node j) := fun _ h0 => h0
    refine hnode.bind (fun n => ?_) h h0
    dsimp only
    split
    · exact keeps_pure _
    · refine Keeps.bind ?_ fun _ => hp.keeps_spawn hf howns
      exact hp.keeps_setText (t := .typing j s.delay default .ready) hf howns ""

theorem keeps_wireCommits (hf : fs .commits = true) {s : CommitSettings}
    (hfound : ∀ {h j}, P h → h.byId? s.elementId = some j → owns .commits j) :
    Keeps P (wireCommits s) := by
  intro h h0
  unfold wireCommits
  rw [bind_apply, get_apply]
  cases hurl : lastUpdatedUrl s (h.byId? s.elementId).isSome with
  | error skip => exact hp.keeps_say _ _ h h0
  | ok url =>
    cases helement : h.byId? s.elementId with
    | none => exact h0
    | some j => exact hp.keeps_spawn (t := .commit j url _ .ready) hf (hfound h0 helement) h h0

end Host.Disregards

end Enhance
