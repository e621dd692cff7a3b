/-
  Enhance/Proofs/Host/Work.lean
  =============================
  **Using a switch leaves all work for later alone:** the listeners, the tasks,
  and the notes on elements that clicks on them are listened for.
-/
import Enhance.Proofs.Host.Unthemed

namespace Enhance

namespace Host

/-- The same work is left for later. -/
structure SameWork (g h : Host) : Prop where
  listeners : h.listeners = g.listeners
  tasks : h.tasks = g.tasks
  bound : ∀ j, (h.nodeAt j).attributes.get? HostM.boundAttribute =
    (g.nodeAt j).attributes.get? HostM.boundAttribute

variable {g h : Host}

theorem SameWork.refl (h : Host) : SameWork h h := ⟨rfl, rfl, fun _ => rfl⟩

theorem SameWork.congr {h' : Host} (h0 : SameWork g h) (hlisteners : h'.listeners = h.listeners)
    (htasks : h'.tasks = h.tasks) (hnodes : h'.nodes = h.nodes) : SameWork g h' where
  listeners := hlisteners.trans h0.listeners
  tasks := htasks.trans h0.tasks
  bound j := by
    rw [nodeAt, hnodes]
    exact h0.bound j

theorem SameWork.edit (h0 : SameWork g h) {i : NodeId} {f : Node → Node}
    (hf : ∀ n, (f n).attributes.get? HostM.boundAttribute =
      n.attributes.get? HostM.boundAttribute) : SameWork g (h.edit i f) where
  listeners := h0.listeners
  tasks := h0.tasks
  bound j := nodeAt_edit_induction (P := fun m => m.attributes.get? HostM.boundAttribute =
    (g.nodeAt j).attributes.get? HostM.boundAttribute) (h0.bound j) fun _ =>
      (hf _).trans (h0.bound j)

/-- Whatever its calls throw, a switch leaves all work for later alone. -/
theorem SameWork.unflipped : Unflipped (fun _ => True) (fun _ => True) (SameWork g) where
  standard := trivial
  held _ _ _ := ⟨trivial, fun _ _ => trivial⟩
  found _ _ _ := trivial
  log h0 := h0.congr rfl rfl rfl
  noted _ _ h0 := h0.congr rfl rfl rfl
  stored h0 := h0.congr rfl rfl rfl
  dark := by
    intro h s present _ _ h0
    have hnoted : SameWork g (h.noted (.mark 0 s.darkClass present)) := h0.congr rfl rfl rfl
    exact hnoted.edit fun _ => Node.get?_putClass_of_ne (by decide)
  drawn _ h0 := h0.edit fun _ => rfl
  labelled _ hname h0 := h0.edit fun _ =>
    Table.get?_insert_of_ne _ (fun heq => hname (by rw [← heq]; decide)) _
  created := by
    intro h s _ h0
    obtain ⟨made, trace, hadds, hmade, -⟩ := HostM.createControl_adds s.toggleId h
    refine ⟨?_, fun _ _ => trivial⟩
    rw [hadds]
    refine ⟨h0.listeners, h0.tasks, fun j => ?_⟩
    refine nodeAt_append_induction (h := h) (P := fun m => m.attributes.get? HostM.boundAttribute =
      (g.nodeAt j).attributes.get? HostM.boundAttribute) rfl (h0.bound j) fun hj n hn => ?_
    -- neither the new node nor the empty one that stood for it has the note
    rw [hmade n hn _ (by decide), ← h0.bound j, nodeAt, List.getElem?_eq_none hj]
    rfl
  switches _ h0 := h0.congr rfl rfl rfl

end Host

end Enhance
