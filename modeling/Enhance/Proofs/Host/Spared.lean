/-
  Enhance/Proofs/Host/Spared.lean
  ===============================
  **What leaves a back-to-top button as it is.**

  A button is shown and hidden by its gate alone if no other gate has it, no
  observer watches it and no switch marks the body with a class that shows
  elements (`Alone`).  Then all that happens on a page but the feeding of that gate
  spares the button (`Spared`): its looks, the class changes asked of it, the gate
  and the listeners that feed it stay what they were, whatever other calls fail.
-/
import Enhance.Proofs.Host.Aside

namespace Enhance

/-- A class change that is asked of a button.  The body has a class of its own besides, so that of
    a body only the class that shows elements counts. -/
def Call.asks (button : NodeId) : Call → Bool
  | addClass j name => j == button && (button != 0 || name == visibleClass)
  | removeClass j name => j == button && (button != 0 || name == visibleClass)
  | _ => false

namespace Call

variable {button j : NodeId} {name : String}

theorem asks_mark (present : Bool) :
    (mark j name present).asks button = (j == button && (button != 0 || name == visibleClass)) := by
  cases present <;> rfl

theorem asks_of_isMark {call : Call} (h : call.isMark = false) : call.asks button = false := by
  cases call with
  | addClass _ _ => cases h
  | removeClass _ _ => cases h
  | _ => rfl

theorem asks_of_isOf {fs : Feature → Bool} {shows : NodeId → Prop} {owns : Feature → NodeId → Prop}
    {call : Call} (hcall : call.IsOf fs shows owns) (hbutton : ¬ shows button) :
    call.asks button = false := by
  cases hcall with
  | shared h hmark => exact asks_of_isMark hmark
  | @marks j hj present =>
    have hne : j ≠ button := fun heq => hbutton (heq ▸ hj)
    rw [asks_mark, beq_false_of_ne hne]
    rfl
  | text hf ht text => rfl
  | @own f call hcall hf => cases call <;> first | rfl | cases hcall

end Call

namespace Host

variable {i : Nat} {button : NodeId} {g h h' : Host}

/-- A body that is the button is not marked as shown, or as one to be revealed, when it gets
    dark. -/
def Unshowing (button : NodeId) (s : ThemeSettings) : Prop :=
  button = 0 → s.darkClass ≠ visibleClass ∧ s.darkClass ≠ "fade-in"

/-- Only the gate of number `i`, there already or still to come, shows or hides this node, as long
    as the page is not enhanced again when it is ready. -/
structure Alone (i : Nat) (button : NodeId) (h : Host) : Prop where
  works : h.failures .classList = none
  here : button < h.nodes.length
  plain : (h.nodeAt button).hasClass "fade-in" = false
  gates : ∀ j b, h.gates[j]? = some b → b.button = button → j = i
  observers : ∀ o ∈ h.observers, button ∉ o.nodes
  switches : ∀ b ∈ h.switches, Unshowing button b.settings
  listeners : ∀ l ∈ h.listeners, l.handler = .enhance →
    l.target = .document ∧ l.type = "DOMContentLoaded"

/-- The button and its gate are as on `g`, and so is all that the gate is fed by. -/
structure Spared (i : Nat) (button : NodeId) (g h : Host) : Prop extends Alone i button h where
  failures : h.failures = g.failures
  scrollY : h.scrollY = g.scrollY
  gate : h.gates[i]? = g.gates[i]?
  count : h.gates.length = g.gates.length
  heard : ∀ target type, h.listeners.count ⟨target, type, .follow i⟩ =
    g.listeners.count ⟨target, type, .follow i⟩
  shown : (h.nodeAt button).hasClass visibleClass = (g.nodeAt button).hasClass visibleClass
  asked : h.trace.countP (Call.asks button) = g.trace.countP (Call.asks button)
  byId : ∀ id, g.byId? id = some button → h.byId? id = some button

/-- The page with a gate that remembers something else. -/
def withGate (h : Host) (j : Nat) (gate : ScrollGate) : Host :=
  { h with gates := h.gates.modify j fun b => { b with gate } }

namespace Alone

/-- A gate keeps its button. -/
theorem withGate (h0 : Alone i button h) (j : Nat) (gate : ScrollGate) :
    Alone i button (h.withGate j gate) := by
  refine { h0 with gates := ?_ }
  intro k b hb hbutton
  rw [Host.withGate, List.getElem?_modify] at hb
  obtain ⟨b', hb', rfl⟩ := Option.map_eq_some_iff.mp hb
  refine h0.gates k b' hb' (Eq.trans ?_ hbutton)
  split <;> rfl

/-- The button is shown or hidden. -/
theorem marked (h0 : Alone i button h) (present : Bool) :
    Alone i button ((h.noted (.mark button visibleClass present)).edit button
      fun n => n.putClass visibleClass present) := by
  refine { h0 with here := ?_, plain := ?_ }
  · rw [length_edit]
    exact h0.here
  · refine nodeAt_edit_induction (P := fun n => n.hasClass "fade-in" = false) h0.plain fun _ => ?_
    rw [Node.hasClass_putClass HostM.isToken_visibleClass, if_neg (by decide)]
    exact h0.plain

theorem spared (h0 : Alone i button h) : Spared i button h h :=
  ⟨h0, rfl, rfl, rfl, rfl, fun _ _ => rfl, rfl, rfl, fun _ hid => hid⟩

end Alone

namespace Spared

theorem noted (h0 : Spared i button g h) {call : Call} (hcall : call.asks button = false) :
    Spared i button g (h.noted call) := by
  refine { h0 with asked := ?_ }
  show (h.trace ++ [call]).countP _ = _
  rw [List.countP_append, List.countP_singleton, hcall, h0.asked]
  rfl

/-- A change of a node in its place, which is marked as before if it is the button. -/
theorem edit (h0 : Spared i button g h) {j : NodeId} {f : Node → Node}
    (hplace : ∀ n, Node.SamePlace n (f n))
    (hmarks : j = button → ∀ n name, name = visibleClass ∨ name = "fade-in" →
      (f n).hasClass name = n.hasClass name) : Spared i button g (h.edit j f) where
  works := h0.works
  here := (length_edit h j f).symm ▸ h0.here
  plain := nodeAt_edit_induction (P := fun n => n.hasClass "fade-in" = false) h0.plain
    fun hj => (hmarks hj _ _ (.inr rfl)).trans h0.plain
  gates := h0.gates
  observers := h0.observers
  switches := h0.switches
  listeners := h0.listeners
  failures := h0.failures
  scrollY := h0.scrollY
  gate := h0.gate
  count := h0.count
  heard := h0.heard
  shown := nodeAt_edit_induction
    (P := fun n => n.hasClass visibleClass = (g.nodeAt button).hasClass visibleClass) h0.shown
    fun hj => (hmarks hj _ _ (.inl rfl)).trans h0.shown
  asked := h0.asked
  byId id hid := (byId?_edit hplace).trans (h0.byId id hid)

/-- A listener that neither enhances the page nor feeds the gate. -/
theorem withListener (h0 : Spared i button g h) {l : Listener} (henhance : l.handler ≠ .enhance)
    (hfollow : l.handler ≠ .follow i) :
    Spared i button g { h with listeners := h.listeners ++ [l] } := by
  refine { h0 with listeners := ?_, heard := ?_ }
  · intro l' hl'
    rcases List.mem_append.mp hl' with hl' | hl'
    · exact h0.listeners l' hl'
    · rw [List.mem_singleton.mp hl']
      exact fun heq => absurd heq henhance
  · intro target type
    have hne : l ≠ ⟨target, type, .follow i⟩ := fun heq => hfollow (heq ▸ rfl)
    rw [List.count_append, List.count_singleton, beq_false_of_ne hne, h0.heard]
    rfl

/-- What shows or hides other nodes only. -/
theorem show_of_ne (h0 : Spared i button g h) {j : NodeId} (hj : j ≠ button) (present : Bool) :
    Spared i button g (h.edit j fun n => n.putClass visibleClass present) :=
  h0.edit (fun n => n.samePlace_putClass) fun heq => absurd heq hj

theorem setAttribute (h0 : Spared i button g h) {j : NodeId} {name value : String}
    (hid : name ≠ "id") (hclass : name ≠ "class") :
    Spared i button g (h.edit j fun n => n.setAttribute name value) :=
  have halike : ∀ marker n, Node.Alike marker n (n.setAttribute name value) := fun _ n =>
    n.alike_setAttribute name value hid hclass
  h0.edit (fun n => (halike "" n).toSamePlace) fun _ n marker _ => (halike marker n).marked

/-- The body gets dark or light. -/
theorem dark (h0 : Spared i button g h) {s : ThemeSettings} (hs : Unshowing button s)
    (htoken : Node.IsToken s.darkClass) (present : Bool) :
    Spared i button g ((h.noted (.mark 0 s.darkClass present)).edit 0
      fun n => n.putClass s.darkClass present) := by
  have hunasked : (Call.mark 0 s.darkClass present).asks button = false := by
    rw [Call.asks_mark]
    by_cases hbody : button = 0
    · rw [beq_false_of_ne (hs hbody).1, hbody]
      rfl
    · rw [beq_false_of_ne (Ne.symm hbody)]
      rfl
  refine (h0.noted hunasked).edit (fun n => n.samePlace_putClass) fun hbody n name hname => ?_
  rw [Node.hasClass_putClass htoken, if_neg]
  rintro rfl
  exact hname.elim (hs hbody.symm).1 (hs hbody.symm).2

/-- Nodes that come after all others. -/
theorem adds (h0 : Spared i button g h) (hadds : Adds h h') : Spared i button g h' := by
  obtain ⟨made, trace, rfl, -, htrace⟩ := hadds
  have hsame : ({ h with nodes := h.nodes ++ made, trace := h.trace ++ trace } : Host).nodeAt
      button = h.nodeAt button := by
    rw [nodeAt, List.getElem?_append_left h0.here, nodeAt]
  refine { h0 with here := ?_, plain := ?_, shown := ?_, asked := ?_, byId := ?_ }
  · rw [List.length_append]
    exact Nat.lt_add_right _ h0.here
  · rw [hsame]
    exact h0.plain
  · rw [hsame]
    exact h0.shown
  · have hnone : trace.countP (Call.asks button) = 0 := by
      refine List.countP_eq_zero.mpr fun call hcall => ?_
      rw [Call.asks_of_isMark (htrace call hcall)]
      exact Bool.false_ne_true
    rw [List.countP_append, hnone, h0.asked]
    rfl
  · intro id hid
    obtain ⟨hne, hfind⟩ := byId?_eq_some_iff.mp (h0.byId id hid)
    refine byId?_eq_some_iff.mpr ⟨hne, ?_⟩
    rw [List.findIdx?_append, hfind]
    rfl

/-- The features beside the theme spare the button, but for the gates. -/
theorem disregards : Disregards (fun f => f ≠ .backToTop) (fun j => j ≠ button)
    (fun f j => f = .reveal → j ≠ button) [] (Spared i button g) where
  log h0 := { h0 with }
  logLimit h0 := { h0 with }
  noted hcall h0 := h0.noted (Call.asks_of_isOf hcall (not_not_intro rfl))
  clock _ h0 := { h0 with }
  visible hj h0 := h0.show_of_ne hj _
  style _ h0 := h0.edit (fun _ => ⟨rfl, rfl⟩) fun _ _ _ _ => rfl
  text _ _ h0 := h0.edit (fun _ => ⟨rfl, rfl⟩) fun _ _ _ _ => rfl
  shown _ howns := howns rfl
  gate hf := absurd rfl (of_decide_eq_true hf)
  moved hf := absurd rfl (of_decide_eq_true hf)
  buttons hf := absurd rfl (of_decide_eq_true hf)
  follow hf := absurd rfl (of_decide_eq_true hf)
  scrollUp hf := absurd rfl (of_decide_eq_true hf)
  observer := by
    intro h step cap _ h0
    refine { h0 with observers := ?_ }
    intro o ho
    rcases List.mem_append.mp ho with ho | ho
    · exact h0.observers o ho
    · rw [List.mem_singleton.mp ho]
      exact List.not_mem_nil
  watched := by
    intro h o f _ hf h0
    refine { h0 with observers := ?_ }
    intro ob hob hbutton
    rcases mem_modify hob with hob | ⟨ob', hob', rfl⟩
    · exact h0.observers ob hob hbutton
    · have howns : ∀ j ∈ ob'.nodes, Feature.reveal = .reveal → j ≠ button := fun j hj _ heq =>
        h0.observers ob' hob' (heq ▸ hj)
      exact hf _ howns button hbutton rfl rfl
  targets _ h0 o ho j hj heq := h0.observers o ho (heq ▸ hj)
  tasks _ _ h0 := { h0 with }
  writes _ t _ _ hreveal := absurd hreveal t.feature_ne_reveal
  others _ := by
    refine List.filter_eq_nil_iff.mpr fun t _ => ?_
    cases t <;> exact Bool.false_ne_true

/-- And so does the theme. -/
theorem unthemed : Unthemed (Unshowing button) (fun _ => True) (Spared i button g) where
  standard _ := ⟨by decide, by decide⟩
  held h0 b hb := ⟨h0.switches b hb, fun _ _ => trivial⟩
  found _ _ _ := trivial
  log h0 := { h0 with }
  noted _ hmark h0 := h0.noted (Call.asks_of_isMark hmark)
  stored h0 := { h0 with }
  dark hs htoken h0 := h0.dark hs htoken _
  drawn _ h0 := h0.edit (fun _ => ⟨rfl, rfl⟩) fun _ _ _ _ => rfl
  labelled _ hname h0 :=
    h0.setAttribute (fun heq => hname (by simp [heq])) fun heq => hname (by simp [heq])
  created _ h0 := ⟨h0.adds (HostM.createControl_adds _ _), fun _ _ => trivial⟩
  switches hswitches h0 := { h0 with switches := fun b hb => (hswitches b hb).1 }
  bound _ h0 := h0.setAttribute (by decide) (by decide)
  listens := by
    intro h target handler haside henhance h0
    refine h0.withListener henhance ?_
    rintro ⟨⟩
    cases haside

end Spared

end Host

namespace HostM

open Host

variable {i : Nat} {button : NodeId} {g : Host}

/-- Feeding another gate. -/
theorem keeps_spared_syncGate {j : Nat} (hj : j ≠ i) : Keeps (Spared i button g) (syncGate j) := by
  have hoffset : Keeps (Spared i button g) scrollOffset :=
    Keeps.attempt (keeps_get.bind fun _ => keeps_pure _)
  have hmove : ∀ gate, Keeps (Spared i button g)
      (modify fun h : Host => h.withGate j gate : HostM Unit) := fun gate h h0 =>
    { h0 with
      toAlone := h0.toAlone.withGate j gate
      gate := (List.getElem?_modify_ne _ _ hj).trans h0.gate
      count := (List.length_modify _ _ _).trans h0.count }
  refine hoffset.bind fun offset => ?_
  intro h h0
  rw [bind_apply, get_apply]
  cases hgate : h.gates[j]? with
  | none => exact h0
  | some b =>
    have hother : b.button ≠ button := fun heq => hj (h0.gates j b hgate heq)
    refine Keeps.bind (hmove _) (fun _ => ?_) h h0
    split
    · exact Spared.disregards.keeps_show hother _
    · exact keeps_pure _

/-- Whatever a listener does, unless it feeds the gate or sets the page up once more. -/
theorem keeps_spared_react (e : PageEvent) {handler : Handler} (henhance : handler ≠ .enhance)
    (hfollow : handler ≠ .follow i) : Keeps (Spared i button g) (react e handler) := by
  cases haside : handler.isAside with
  | false => exact Spared.unthemed.keeps_react e haside henhance
  | true =>
    cases handler with
    | follow j =>
      have hj : j ≠ i := fun heq => hfollow (heq ▸ rfl)
      exact (keeps_spared_syncGate hj).bind fun _ => keeps_pure _
    | scrollUp => exact (Spared.unthemed.keeps_record rfl rfl).bind fun _ => keeps_pure _
    | _ => cases haside

end HostM

end Enhance
