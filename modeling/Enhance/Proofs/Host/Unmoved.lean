/-
  Enhance/Proofs/Host/Unmoved.lean
  ================================
  **What the features beside the theme leave as it is.**

  A property that none of them disturbs (`Unmoved`) disregards them all at once,
  and the theme has no tasks that would have to wait meanwhile.
-/
import Enhance.Proofs.Host.Aside

namespace Enhance.Host

/-- A property that the features beside the theme do not disturb, as long as each keeps to
    the nodes that it owns. -/
structure Unmoved (owns : Feature → NodeId → Prop) (P : Host → Prop) : Prop where
  log : ∀ {h log}, P h → P { h with log }
  logLimit : ∀ {h logLimit}, P h → P { h with logLimit }
  noted : ∀ {h call}, call.isCreation = false → P h → P (h.noted call)
  clock : ∀ {h now timersMade}, P h → P { h with now, timersMade }
  scrollY : ∀ {h scrollY}, P h → P { h with scrollY }
  visible : ∀ {h j present}, P h → P (h.edit j fun n => n.putClass visibleClass present)
  style : ∀ {h j property value}, P h → P (h.edit j fun n => n.setStyle property value)
  text : ∀ {h text} {t : Task}, owns t.feature t.node → P h →
    P (h.edit t.node fun n => n.setText text)
  gate : ∀ {h gate button}, owns .backToTop button → P h →
    P { h with gates := h.gates ++ [⟨gate, button⟩] }
  moved : ∀ {h i gate}, P h → P { h with gates := h.gates.modify i fun g => { g with gate } }
  observer : ∀ {h step cap}, P h → P { h with observers := h.observers ++ [{ step, cap }] }
  watched : ∀ {h o} {f : List NodeId → List NodeId},
    (∀ l, (∀ j ∈ l, owns .reveal j) → ∀ j ∈ f l, owns .reveal j) → P h →
    P { h with observers := h.observers.modify o fun ob => { ob with nodes := f ob.nodes } }
  tasks : ∀ {h tasks}, (∀ t ∈ tasks, owns t.feature t.node) → P h → P { h with tasks }
  writes : ∀ {h}, P h → ∀ t ∈ h.tasks, owns t.feature t.node
  follow : ∀ {h i}, P h →
    P { h with listeners := h.listeners ++ [⟨.window, "scroll", .follow i⟩] }
  scrollUp : ∀ {h button}, owns .backToTop button → P h →
    P { h with listeners := h.listeners ++ [⟨.node button, "click", .scrollUp⟩] }

theorem Unmoved.disregards {owns : Feature → NodeId → Prop} {P : Host → Prop}
    (hp : Unmoved owns P) : Disregards (fun _ => true) (fun _ => True) owns [] P where
  log := hp.log
  logLimit := hp.logLimit
  noted hcall := hp.noted hcall.isCreation
  clock _ := hp.clock
  visible _ := hp.visible
  style _ := hp.style
  text _ := hp.text
  shown _ _ := trivial
  gate _ := hp.gate
  moved _ := hp.moved
  buttons _ _ _ _ := trivial
  follow _ := hp.follow
  scrollUp _ := hp.scrollUp
  observer _ := hp.observer
  watched _ := hp.watched
  targets _ _ _ _ _ _ := trivial
  tasks htasks _ := hp.tasks fun t ht => htasks t ht rfl
  writes h0 t ht _ := hp.writes h0 t ht
  others _ := List.filter_eq_nil_iff.mpr fun _ _ => Bool.false_ne_true

end Enhance.Host
