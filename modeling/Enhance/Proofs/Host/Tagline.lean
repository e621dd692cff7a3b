/-
  Enhance/Proofs/Host/Tagline.lean
  ================================
  **What leaves a tagline as it is.**

  Typing sets the text of one element, has at most one task, and is alone in making
  timers and in moving the clock.  How far it has come is told by these (`Types`).
  No other feature has a part in them, whatever calls fail, as long as the theme
  and last-update have other elements (`Tagline`).
-/
import Enhance.Proofs.Host.Following
import Enhance.Proofs.Host.Standing

namespace Enhance

namespace Host

variable {i j : NodeId} {work : List Task} {text : String} {made now : Nat} {h h' : Host}

/-- The tagline is this node, and nothing but typing writes on it; the page is enhanced by its
    readiness only. -/
structure Tagline (i : NodeId) (h : Host) : Prop where
  found : h.byId? "tagline" = some i
  switches : ∀ b ∈ h.switches,
    b.settings.toggleId ≠ "tagline" ∧ ∀ c, b.control = some c → c ≠ i
  writes : ∀ t ∈ h.tasks, t.feature = .commits → t.node ≠ i
  listeners : ∀ l ∈ h.listeners, l.handler = .enhance →
    l.target = .document ∧ l.type = "DOMContentLoaded"

/-- The tasks of typing, the text of the tagline, the timers made so far and the clock are
    these. -/
structure Types (i : NodeId) (work : List Task) (text : String) (made now : Nat) (h : Host) : Prop
    extends Tagline i h where
  left : Task.ofFeature .typing h.tasks = work
  shown : (h.nodeAt i).text = text
  count : h.timersMade = made
  clock : h.now = now

namespace Types

/-- A change of a node in its place, which leaves the text of the tagline. -/
theorem edit (h0 : Types i work text made now h) {f : Node → Node}
    (hplace : ∀ n, Node.SamePlace n (f n)) (htext : j = i → ∀ n, (f n).text = n.text) :
    Types i work text made now (h.edit j f) :=
  { h0 with
    found := (byId?_edit hplace).trans h0.found
    shown := nodeAt_edit_induction (P := fun n => n.text = text) h0.shown
      fun hj => (htext hj _).trans h0.shown }

/-- Typing sets the text of the tagline. -/
theorem typed (h0 : Types i work text made now h) (next : String) :
    Types i work next made now (h.edit i fun n => n.setText next) :=
  { h0 with
    found := (byId?_edit (f := fun n => n.setText next) fun _ => ⟨rfl, rfl⟩).trans h0.found
    shown := by
      rw [nodeAt_edit_self (lt_of_byId? h0.found)]
      rfl }

theorem setAttribute (h0 : Types i work text made now h) {name value : String}
    (hid : name ≠ "id") (hclass : name ≠ "class") :
    Types i work text made now (h.edit j fun n => n.setAttribute name value) := by
  have halike (n : Node) : Node.Alike "" n (n.setAttribute name value) :=
    n.alike_setAttribute name value hid hclass
  exact h0.edit (fun n => (halike n).toSamePlace) fun _ _ => rfl

theorem withListener (h0 : Types i work text made now h) {l : Listener}
    (hl : l.handler ≠ .enhance) :
    Types i work text made now { h with listeners := h.listeners ++ [l] } := by
  refine { h0 with listeners := ?_ }
  intro l' hl'
  rcases List.mem_append.mp hl' with hl' | hl'
  · exact h0.listeners l' hl'
  · rw [List.mem_singleton.mp hl']
    exact fun heq => absurd heq hl

/-- Nodes that come after all others. -/
theorem adds (h0 : Types i work text made now h) (hadds : Adds h h') :
    Types i work text made now h' := by
  obtain ⟨new, trace, rfl, -, -⟩ := hadds
  have hlt := lt_of_byId? h0.found
  refine { h0 with found := ?_, shown := ?_ }
  · obtain ⟨hne, hfind⟩ := byId?_eq_some_iff.mp h0.found
    apply byId?_eq_some_iff.mpr
    exact ⟨hne, by simp [List.findIdx?_append, hfind]⟩
  · rw [← h0.shown, nodeAt, nodeAt]
    simp [List.getElem?_append_left hlt]

/-- Other tasks. -/
theorem withTasks (h0 : Types i work text made now h) {l : List Task}
    (hl : ∀ t ∈ l, t.feature = .commits → t.node ≠ i) :
    Types i (Task.ofFeature .typing l) text made now { h with tasks := l } :=
  { h0 with writes := hl, left := rfl }

/-- The other features have no part in typing. -/
theorem disregards : Disregards (fun f => f ≠ .typing) (fun _ => True)
    (fun f j => f = .commits → j ≠ i) work (Types i work text made now) where
  log h0 := { h0 with }
  logLimit h0 := { h0 with }
  noted _ h0 := { h0 with }
  clock hf := absurd rfl (of_decide_eq_true hf)
  visible _ h0 := h0.edit (fun n => n.samePlace_putClass) fun _ _ => Node.text_putClass
  style _ h0 := h0.edit (fun _ => ⟨rfl, rfl⟩) fun _ _ => rfl
  text := by
    intro h text t hf howns h0
    have hcommits : t.feature = .commits := by
      cases t with
      | typing => exact absurd rfl (of_decide_eq_true hf)
      | commit => rfl
    exact h0.edit (fun _ => ⟨rfl, rfl⟩) fun heq => absurd heq (howns hcommits)
  shown _ _ := trivial
  gate _ _ h0 := { h0 with }
  moved _ h0 := { h0 with }
  buttons _ _ _ _ := trivial
  follow _ h0 := h0.withListener Handler.noConfusion
  scrollUp _ _ h0 := h0.withListener Handler.noConfusion
  observer _ h0 := { h0 with }
  watched _ _ h0 := { h0 with }
  targets _ _ _ _ _ _ := trivial
  tasks := by
    intro h l howns hrest h0
    have hleft : Task.ofFeature .typing l = work := (Task.besides_others .typing l).symm.trans hrest
    rw [← hleft]
    refine h0.withTasks fun t ht hcommits => ?_
    exact howns t ht (by rw [hcommits]; rfl) hcommits
  writes h0 t ht _ := h0.writes t ht
  others h0 := (Task.besides_others .typing _).trans h0.left

end Types

end Host

namespace HostM

/-- A new control is a new node. -/
theorem eq_length_of_createControl {id : String} {h : Host} {c : NodeId}
    (hc : (createControl id h).1 = .ok c) : c = h.nodes.length := by
  unfold createControl at hc
  rw [bind_apply] at hc
  rcases attempt_cases .createElement _ h with ⟨t, hcreate⟩ | hcreate
  · rw [createElement, hcreate] at hc
    cases hc
  · rw [createElement, hcreate] at hc
    dsimp only [bind_apply, get_apply, modify_apply, pure_apply] at hc
    generalize hset : setAttribute h.nodes.length "type" "button" _ = set at hc
    obtain ⟨answer, k⟩ := set
    cases answer with
    | error t => cases hc
    | ok _ =>
      dsimp only [bind_apply] at hc
      generalize happend : appendChild 0 h.nodes.length k = append at hc
      obtain ⟨answer, k'⟩ := append
      cases answer with
      | error t => cases hc
      | ok _ =>
        cases hc
        rfl

end HostM

namespace Host

open HostM

variable {i : NodeId} {work : List Task} {text : String} {made now : Nat} {h : Host}

/-- Nor has the theme. -/
theorem Types.unthemed : Unthemed (fun s => s.toggleId ≠ "tagline") (fun c => c ≠ i)
    (Types i work text made now) where
  standard := by decide
  held h0 := h0.switches
  found hs h0 hc heq := hs (eq_of_byId? (heq ▸ hc) h0.found)
  log h0 := { h0 with }
  noted _ _ h0 := { h0 with }
  stored h0 := { h0 with }
  dark := by
    intro h s present _ _ h0
    have hnoted : Types i work text made now (h.noted (.mark 0 s.darkClass present)) :=
      { h0 with }
    exact hnoted.edit (fun n => n.samePlace_putClass) fun _ _ => Node.text_putClass
  drawn hc h0 := h0.edit (fun _ => ⟨rfl, rfl⟩) fun heq => absurd heq hc
  labelled _ hname h0 :=
    h0.setAttribute (fun heq => hname (by simp [heq])) fun heq => hname (by simp [heq])
  created := by
    intro h s _ h0
    refine ⟨h0.adds (createControl_adds _ _), fun c hc heq => ?_⟩
    rw [eq_length_of_createControl hc] at heq
    exact absurd (lt_of_byId? h0.found) (by rw [heq]; exact Nat.lt_irrefl i)
  switches hswitches h0 := { h0 with switches := hswitches }
  bound _ h0 := h0.setAttribute (by decide) (by decide)
  listens _ hhandler h0 := h0.withListener hhandler

end Host

/-! ### Steps -/

namespace HostM

open Host

variable {i : NodeId} {work : List Task} {text : String} {made now : Nat}

theorem keeps_types_react (e : PageEvent) {handler : Handler} (hhandler : handler ≠ .enhance) :
    Keeps (Types i work text made now) (react e handler) := by
  cases haside : handler.isAside with
  | true => exact Types.disregards.keeps_react rfl e haside
  | false => exact Types.unthemed.keeps_react e haside hhandler

theorem keeps_types_dispatch (e : PageEvent) {target : Target} {type : String}
    (hevent : ¬ (target = .document ∧ type = "DOMContentLoaded")) :
    Keeps (Types i work text made now) (dispatch target type e) := by
  intro h h0
  have hall : Keeps (Types i work text made now) ((h.handlers target type).mapM (react e)) := by
    refine Keeps.mapM fun handler hhandler => keeps_types_react e ?_
    rintro rfl
    obtain ⟨l, hl, henhance⟩ := List.mem_map.mp hhandler
    obtain ⟨hmem, hheard⟩ := List.mem_filter.mp hl
    obtain ⟨rfl, rfl⟩ := of_decide_eq_true hheard
    exact hevent (h0.listeners l hmem henhance)
  unfold dispatch
  rw [bind_apply, handlersFor_eq]
  exact hall h h0

theorem keeps_types_wireCommits {settings : CommitSettings}
    (hother : settings.elementId ≠ "tagline") :
    Keeps (Types i work text made now) (wireCommits settings) := by
  refine Types.disregards.keeps_wireCommits rfl fun h0 hj _ heq => ?_
  rw [heq] at hj
  exact hother (eq_of_byId? hj h0.found)

end HostM

namespace Session

open Host HostM

variable {i : NodeId} {work : List Task} {text : String} {made now : Nat}

/-- A step that has nothing to do with typing: one of a visit, in which the document does not
    become ready again; another feature is used, or is wired to an element of its own; or some
    call fails from now on or works again. -/
def Step.sparesTyping : Step → Bool
  | .event target type _ => ¬ (target = .document ∧ type = "DOMContentLoaded")
  | .wireTheme settings => settings.toggleId ≠ "tagline"
  | .wireCommits settings => settings.elementId ≠ "tagline"
  | .use _ | .wireShortcut _ | .wireBackToTop _ | .wireReveal .. | .putFailure .. => true
  | t => t.isVisit

theorem keeps_types_operate (switch : Nat) (u : Use) :
    Keeps (Types i work text made now) (operate switch u) := by
  have hsafe : (surface switch).Safe (Types i work text made now) := Types.unthemed.surface switch
  cases u with
  | start => exact Types.unthemed.keeps_startTheme switch
  | flip => exact Types.unthemed.keeps_flipTheme switch
  | askShown => exact Keeps.bind (fun _ h0 => h0) fun _ => hsafe.isDark.bind fun _ => keeps_pure _
  | askPreference =>
    exact Keeps.bind (fun _ h0 => h0) fun _ => (hsafe.read _).bind fun _ => hsafe.settle _ _

/-- Whatever happens but the passing of time leaves typing where it is. -/
theorem act_types (held : Option Nat) {t : Step} (ht : t.sparesTyping = true)
    (htime : ∀ ms, t ≠ .elapse ms) : Keeps (Types i work text made now) (act held t) := by
  cases t with
  | event target type e =>
    exact (keeps_types_dispatch e (of_decide_eq_true ht)).bind fun _ => keeps_pure _
  | scroll offset =>
    exact Keeps.bind (keeps_modify fun h h0 => { h0 with }) fun _ =>
      (keeps_types_dispatch {} (by decide)).bind fun _ => keeps_pure _
  | sight o batch => exact (Types.disregards.keeps_sight rfl o batch).bind fun _ => keeps_pure _
  | elapse ms => exact absurd rfl (htime ms)
  | respond d => exact (Types.disregards.keeps_respond rfl d).bind fun _ => keeps_pure _
  | putFailure c t => exact Keeps.bind (keeps_modify fun h h0 => { h0 with }) fun _ => keeps_pure _
  | wireTheme settings =>
    exact (Types.unthemed.keeps_wireTheme (of_decide_eq_true ht)).bind fun _ => keeps_pure _
  | wireShortcut chord =>
    cases held with
    | none => exact keeps_pure _
    | some switch =>
      exact (Types.unthemed.keeps_wireShortcut chord switch).bind fun _ => keeps_pure _
  | use u =>
    cases held with
    | none => exact keeps_pure _
    | some switch => exact (keeps_types_operate switch u).bind fun _ => keeps_pure _
  | wireBackToTop settings =>
    exact (Types.disregards.keeps_wireBackToTop rfl fun _ _ => nofun).bind fun _ => keeps_pure _
  | wireReveal settings reducedMotion =>
    exact (Types.disregards.keeps_wireReveal rfl (fun _ _ _ => nofun) _).bind fun _ => keeps_pure _
  | wireCommits settings =>
    exact (keeps_types_wireCommits (of_decide_eq_true ht)).bind fun _ => keeps_pure _
  | _ => cases ht

theorem step_types {s : Session} (h0 : Types i work text made now s.host)
    (hidle : ∀ t ∈ work, t.isIdle = true) {t : Step} (ht : t.sparesTyping = true)
    (htime : ∀ ms, t ≠ .elapse ms) : Types i work text made now (s.step t).2.host := by
  rw [host_step]
  exact Types.disregards.keeps_runTasks hidle _ (act_types s.held ht htime _ h0)

end Session

end Enhance
