/-
  Enhance/Proofs/Host/Reveal.lean
  ===============================
  **Every target comes into view once, and none is lost.**

  A batch is taken entry by entry.  An entry in view changes its own node and
  the list of watched nodes, and moves the position on by one; every other
  entry changes nothing at all.  So what a batch does to a node is what its last
  entry for that node does, and what a run of batches does to the watched nodes
  is to drop all that were in view.
-/
import Enhance.Proofs.Host.Wired

namespace Enhance

/-! ### Entries in view -/

/-- An item of a list stands there for a last time. -/
theorem exists_last_of_mem {α : Type} {a : α} {l : List α} (h : a ∈ l) :
    ∃ pre post, l = pre ++ a :: post ∧ a ∉ post := by
  obtain ⟨post, pre, hl, hpost⟩ := List.eq_append_cons_of_mem (List.mem_reverse.mpr h)
  refine ⟨pre.reverse, post.reverse, ?_, fun hmem => hpost (List.mem_reverse.mp hmem)⟩
  rw [← List.reverse_reverse l, hl]
  simp

namespace Sighting

/-- The report says that its node is in view. -/
def inView : Sighting → Bool
  | entry _ true => true
  | _ => false

end Sighting

namespace Node

/-- An element as it starts to fade in.  One that is not of HTML gets no delay. -/
def reveal (delay : UInt32) (n : Node) : Node :=
  (if n.isHtml then n.setStyle "transition-delay" (Reveal.delayText delay) else n).putClass
    visibleClass true

variable {n : Node}

theorem isHtml_reveal (delay : UInt32) : (n.reveal delay).isHtml = n.isHtml := by
  unfold reveal
  rw [isHtml_putClass]
  split <;> rfl

theorem style_reveal (delay : UInt32) :
    (n.reveal delay).style =
      if n.isHtml then n.style.insert "transition-delay" (Reveal.delayText delay) else n.style := by
  unfold reveal
  rw [style_putClass]
  split <;> rfl

end Node

/-! ### The observer's callback -/

namespace Host

/-- The nodes that an observer watches. -/
def watched (h : Host) (o : Nat) : List NodeId :=
  match h.observers[o]? with
  | some observer => observer.nodes
  | none => []

/-- The page once an element came into view. -/
def shown (o : Nat) (i : NodeId) (delay : UInt32) (h : Host) : Host :=
  { h.edit i (Node.reveal delay) with
    observers := h.observers.modify o fun observer =>
      { observer with nodes := observer.nodes.filter fun j => j ≠ i }
    trace := h.trace ++
      ((if (h.nodeAt i).isHtml then
          [.setStyle i "transition-delay" (Reveal.delayText delay)] else []) ++
        [.addClass i visibleClass, .unobserve o i]) }

variable {h h' : Host} {o : Nat} {i j : NodeId}

/-- Two changes of a node that do the same to it as it is. -/
theorem edit_congr {f f' : Node → Node} (hf : f (h.nodeAt i) = f' (h.nodeAt i)) :
    h.edit i f = h.edit i f' := by
  have hnodes : h.nodes.modify i f = h.nodes.modify i f' := by
    apply List.ext_getElem?
    intro j
    rw [List.getElem?_modify, List.getElem?_modify]
    by_cases hij : i = j
    · subst hij
      cases hnode : h.nodes[i]? with
      | none => rfl
      | some n =>
        rw [nodeAt, hnode, Option.getD_some] at hf
        simp [hf]
    · simp [hij]
  unfold edit
  rw [hnodes]

theorem edit_edit {f f' : Node → Node} : (h.edit i f).edit i f' = h.edit i (f' ∘ f) := by
  unfold edit
  rw [List.modify_modify_eq]

end Host

namespace HostM

open Host

/-- What the callback of an observer does with a list of entries. -/
def notify (o : Nat) (batch : List Sighting) : HostM Unit := do
  match (← get).observers[o]? with
  | none => return ()
  | some observer => revealBatch o observer.step observer.cap 0 batch

variable {h : Host} {o k : Nat} {i : NodeId} {step cap : UInt32} {batch : List Sighting}

/-- An observer is told of nodes that it watches, and of what is no report. -/
theorem sight_eq_notify (o : Nat) (batch : List Sighting) (h : Host) :
    (sight o batch h).2 =
      match h.observers[o]? with
      | none => h
      | some observer => (notify o (batch.filter (Sighting.reaches observer)) h).2 := by
  unfold sight notify
  rw [bind_apply, get_apply]
  cases hobserver : h.observers[o]? with
  | none => rfl
  | some observer =>
    simp only [bind_apply, get_apply, hobserver]
    rfl

/-- An entry in view shows its node, and takes it off the list. -/
theorem revealBatch_inView (hclass : h.failures .classList = none) (rest : List Sighting) :
    revealBatch o step cap k (.entry i true :: rest) h =
      revealBatch o step cap (k + 1) rest (h.shown o i (Reveal.delay k step cap)) := by
  have hshow : ∀ g : Host, g.failures .classList = none →
      (do
        markClass i visibleClass true
        unobserve o i
        revealBatch o step cap (k + 1) rest : HostM Unit) g =
      revealBatch o step cap (k + 1) rest
        { g.edit i (fun n => n.putClass visibleClass true) with
          observers := g.observers.modify o fun observer =>
            { observer with nodes := observer.nodes.filter fun j => j ≠ i }
          trace := g.trace ++ [.addClass i visibleClass, .unobserve o i] } := by
    intro g hg
    rw [bind_apply, markClass_of_classList hg isToken_visibleClass]
    simp [unobserve, record, watch, edit, noted]
  rw [revealBatch, bind_apply]
  have hnode : (node i h).1 = h.nodeAt i := rfl
  by_cases hhtml : (node i h).1.isHtml = true
  · -- the style comes first, then the class
    have hreveal : (h.edit i fun n => n.setStyle "transition-delay"
          (Reveal.delayText (Reveal.delay k step cap))).edit i
        (fun n => n.putClass visibleClass true) =
          h.edit i (Node.reveal (Reveal.delay k step cap)) := by
      rw [edit_edit]
      apply edit_congr
      rw [hnode] at hhtml
      simp [Node.reveal, hhtml]
    rw [if_pos hhtml, node_apply, bind_apply]
    refine (hshow (setStyle i "transition-delay"
      (Reveal.delayText (Reveal.delay k step cap)) h).2 hclass).trans ?_
    unfold shown
    rw [if_pos (hnode ▸ hhtml), ← hreveal]
    simp [setStyle, record, editNode, edit]
  · have hreveal : h.edit i (fun n => n.putClass visibleClass true) =
        h.edit i (Node.reveal (Reveal.delay k step cap)) := by
      apply edit_congr
      rw [hnode] at hhtml
      simp [Node.reveal, hhtml]
    rw [if_neg hhtml, node_apply]
    refine (hshow _ hclass).trans ?_
    unfold shown
    rw [if_neg (hnode ▸ hhtml), ← hreveal]
    simp [edit]

end HostM

/-! ### A batch -/

namespace Host

/-- The page after a batch that begins at a position. -/
def shownAll (o : Nat) (step cap : UInt32) : Nat → List Sighting → Host → Host
  | _, [], h => h
  | k, .entry i true :: rest, h =>
    shownAll o step cap (k + 1) rest (h.shown o i (Reveal.delay k step cap))
  | k, .entry _ false :: rest, h => shownAll o step cap k rest h
  | k, .other :: rest, h => shownAll o step cap k rest h

variable {h : Host} {o k : Nat} {i j : NodeId} {step cap : UInt32} {batch : List Sighting}

/-- What each entry in view does, and no other entry does, a batch does. -/
theorem shownAll_induction {P : Host → Prop}
    (hstep : ∀ {g : Host} {j : NodeId} (delay : UInt32), .entry j true ∈ batch → P g →
      P (g.shown o j delay)) (h0 : P h) : P (h.shownAll o step cap k batch) := by
  induction batch generalizing k h with
  | nil => exact h0
  | cons sighting rest ih =>
    have hrest : ∀ {g : Host} {j : NodeId} (delay : UInt32), .entry j true ∈ rest → P g →
        P (g.shown o j delay) := fun delay hj => hstep delay (List.mem_cons_of_mem sighting hj)
    cases sighting with
    | other => exact ih hrest h0
    | entry i inView =>
      cases inView with
      | false => exact ih hrest h0
      | true => exact ih hrest (hstep _ List.mem_cons_self h0)

theorem shownAll_append (pre rest : List Sighting) :
    h.shownAll o step cap k (pre ++ rest) =
      (h.shownAll o step cap k pre).shownAll o step cap (k + pre.countP Sighting.inView) rest := by
  induction pre generalizing k h with
  | nil => rfl
  | cons sighting pre ih =>
    cases sighting with
    | other => exact ih
    | entry i inView =>
      cases inView with
      | false => exact ih
      | true =>
        have hcount : k + (Sighting.entry i true :: pre).countP Sighting.inView =
            k + 1 + pre.countP Sighting.inView := by
          rw [List.countP_cons]
          simp only [Sighting.inView, if_true]
          omega
        rw [hcount]
        exact ih

theorem nodeAt_shown_self (hi : i < h.nodes.length) (delay : UInt32) :
    (h.shown o i delay).nodeAt i = (h.nodeAt i).reveal delay :=
  nodeAt_edit_self hi

theorem nodeAt_shown_of_ne (hij : i ≠ j) (delay : UInt32) :
    (h.shown o i delay).nodeAt j = h.nodeAt j :=
  nodeAt_edit_of_ne hij

theorem length_shown (delay : UInt32) : (h.shown o i delay).nodes.length = h.nodes.length :=
  length_edit _ _ _

theorem length_shownAll : (h.shownAll o step cap k batch).nodes.length = h.nodes.length := by
  apply shownAll_induction (P := fun g => g.nodes.length = h.nodes.length)
  · intro g j delay _ hg
    rw [length_shown, hg]
  · rfl

theorem failures_shownAll : (h.shownAll o step cap k batch).failures = h.failures :=
  shownAll_induction (P := fun g => g.failures = h.failures) (fun _ _ hg => hg) rfl

/-- A node without an entry in view is left as it is. -/
theorem nodeAt_shownAll_of_not_mem (hi : .entry i true ∉ batch) :
    (h.shownAll o step cap k batch).nodeAt i = h.nodeAt i := by
  apply shownAll_induction (P := fun g => g.nodeAt i = h.nodeAt i)
  · intro g j delay hj hg
    have hji : j ≠ i := by
      rintro rfl
      exact hi hj
    rw [nodeAt_shown_of_ne hji, hg]
  · rfl

theorem isHtml_shownAll : ((h.shownAll o step cap k batch).nodeAt i).isHtml = (h.nodeAt i).isHtml := by
  apply shownAll_induction (P := fun g => (g.nodeAt i).isHtml = (h.nodeAt i).isHtml)
  · intro g j delay _ hg
    exact nodeAt_edit_induction (P := fun n => n.isHtml = (h.nodeAt i).isHtml) hg
      fun _ => (Node.isHtml_reveal delay).trans hg
  · rfl

/-- Only elements of HTML get a delay. -/
theorem style_shownAll (hhtml : (h.nodeAt i).isHtml = false) :
    ((h.shownAll o step cap k batch).nodeAt i).style = (h.nodeAt i).style := by
  suffices hboth : ((h.shownAll o step cap k batch).nodeAt i).isHtml = false ∧
      ((h.shownAll o step cap k batch).nodeAt i).style = (h.nodeAt i).style from hboth.2
  apply shownAll_induction
    (P := fun g => (g.nodeAt i).isHtml = false ∧ (g.nodeAt i).style = (h.nodeAt i).style)
  · intro g j delay _ hg
    apply nodeAt_edit_induction
      (P := fun n => n.isHtml = false ∧ n.style = (h.nodeAt i).style) hg
    intro _
    rw [Node.isHtml_reveal, Node.style_reveal, hg.1]
    exact ⟨rfl, hg.2⟩
  · exact ⟨hhtml, rfl⟩

/-- A class once shown stays shown. -/
theorem hasClass_shownAll (hi : (h.nodeAt i).hasClass visibleClass = true) :
    ((h.shownAll o step cap k batch).nodeAt i).hasClass visibleClass = true := by
  apply shownAll_induction (P := fun g => (g.nodeAt i).hasClass visibleClass = true)
  · intro g j delay _ hg
    apply nodeAt_edit_induction (P := fun n => n.hasClass visibleClass = true) hg
    intro _
    unfold Node.reveal
    rw [Node.hasClass_putClass HostM.isToken_visibleClass, if_pos rfl]
  · exact hi

/-- The last entry in view of a node decides how it is shown. -/
theorem nodeAt_shownAll_last (hi : i < h.nodes.length) {pre post : List Sighting}
    (hpost : .entry i true ∉ post) :
    (h.shownAll o step cap k (pre ++ .entry i true :: post)).nodeAt i =
      ((h.shownAll o step cap k pre).nodeAt i).reveal
        (Reveal.delay (k + pre.countP Sighting.inView) step cap) := by
  rw [shownAll_append, shownAll, nodeAt_shownAll_of_not_mem hpost,
    nodeAt_shown_self (by rw [length_shownAll]; exact hi)]

theorem observers_shownAll {observer : Observer} (ho : h.observers[o]? = some observer) :
    (h.shownAll o step cap k batch).observers[o]? =
      some { observer with nodes := observer.nodes.filter fun i => .entry i true ∉ batch } := by
  induction batch generalizing k h observer with
  | nil =>
    have hall : (observer.nodes.filter fun i => .entry i true ∉ ([] : List Sighting)) =
        observer.nodes := List.filter_eq_self.mpr (by simp)
    rw [shownAll, ho, hall]
  | cons sighting rest ih =>
    cases sighting with
    | other =>
      rw [shownAll, ih ho]
      simp
    | entry i inView =>
      cases inView with
      | false =>
        rw [shownAll, ih ho]
        simp
      | true =>
        have hshown : (h.shown o i (Reveal.delay k step cap)).observers[o]? =
            some { observer with nodes := observer.nodes.filter fun j => j ≠ i } := by
          show (h.observers.modify o _)[o]? = _
          rw [List.getElem?_modify, ho]
          simp
        rw [shownAll, ih hshown, List.filter_filter]
        congr 3
        funext j
        rw [Bool.eq_iff_iff]
        simp [and_comm]

/-- The page has told its observer of these entries since it looked like `g`, when the
    observer watched these targets. -/
structure Told (o : Nat) (r : RevealSettings) (targets : List NodeId) (told : List Sighting)
    (h g : Host) : Prop where
  classes : h.failures .classList = none
  observer : ∃ nodes, h.observers[o]? = some ⟨r.step, r.cap, nodes⟩ ∧
    ∀ i, i ∈ nodes ↔ i ∈ targets ∧ .entry i true ∉ told
  length : h.nodes.length = g.nodes.length
  isHtml : ∀ i, (h.nodeAt i).isHtml = (g.nodeAt i).isHtml
  visible : ∀ i < g.nodes.length, .entry i true ∈ told →
    (h.nodeAt i).hasClass visibleClass = true
  style : ∀ i, (g.nodeAt i).isHtml = false → (h.nodeAt i).style = (g.nodeAt i).style

namespace Told

variable {g : Host} {r : RevealSettings} {targets : List NodeId} {told : List Sighting}

theorem mem_watched (h0 : h.Told o r targets told g) :
    i ∈ h.watched o ↔ i ∈ targets ∧ .entry i true ∉ told := by
  obtain ⟨nodes, hnodes, hmem⟩ := h0.observer
  unfold watched
  rw [hnodes]
  exact hmem i

theorem notify_eq (h0 : h.Told o r targets told g) (batch : List Sighting) :
    HostM.notify o batch h = HostM.revealBatch o r.step r.cap 0 batch h := by
  obtain ⟨nodes, hnodes, -⟩ := h0.observer
  unfold HostM.notify
  rw [bind_apply, get_apply, hnodes]

end Told

end Host

/-! ### A run of batches -/

namespace HostM

open Host

variable {g h : Host} {o k : Nat} {i : NodeId} {step cap : UInt32} {batch : List Sighting}
  {r : RevealSettings} {targets : List NodeId} {told : List Sighting}

theorem revealBatch_eq (hclass : h.failures .classList = none) :
    revealBatch o step cap k batch h = ((), h.shownAll o step cap k batch) := by
  induction batch generalizing k h with
  | nil => rfl
  | cons sighting rest ih =>
    cases sighting with
    | other => exact ih hclass
    | entry i inView =>
      cases inView with
      | false => exact ih hclass
      | true =>
        rw [revealBatch_inView hclass]
        exact ih hclass

theorem notify_shownAll (h0 : h.Told o r targets told g) (batch : List Sighting) :
    (notify o batch h).2 = h.shownAll o r.step r.cap 0 batch := by
  rw [h0.notify_eq batch, revealBatch_eq h0.classes]

/-- One batch more. -/
theorem notify_told (h0 : h.Told o r targets told g) (batch : List Sighting) :
    (notify o batch h).2.Told o r targets (told ++ batch) g := by
  rw [notify_shownAll h0]
  obtain ⟨nodes, hnodes, hmem⟩ := h0.observer
  refine ⟨?_, ⟨_, observers_shownAll hnodes, ?_⟩, ?_, ?_, ?_, ?_⟩
  · rw [failures_shownAll]
    exact h0.classes
  · intro i
    rw [List.mem_filter, hmem, List.mem_append, not_or, and_assoc]
    simp
  · rw [length_shownAll]
    exact h0.length
  · intro i
    rw [isHtml_shownAll]
    exact h0.isHtml i
  · intro i hi hseen
    by_cases hbefore : .entry i true ∈ told
    · exact hasClass_shownAll (h0.visible i hi hbefore)
    · -- the last entry in view of this batch shows the element
      have hnow : .entry i true ∈ batch := (List.mem_append.mp hseen).resolve_left hbefore
      obtain ⟨pre, post, rfl, hpost⟩ := exists_last_of_mem hnow
      rw [nodeAt_shownAll_last (h0.length ▸ hi) hpost]
      unfold Node.reveal
      rw [Node.hasClass_putClass isToken_visibleClass, if_pos rfl]
  · intro i hhtml
    rw [style_shownAll ((h0.isHtml i).trans hhtml)]
    exact h0.style i hhtml

/-- Any number of batches more. -/
theorem foldl_notify_told (h0 : h.Told o r targets told g) (batches : List (List Sighting)) :
    (batches.foldl (fun h batch => (notify o batch h).2) h).Told o r targets
      (told ++ batches.flatten) g := by
  induction batches generalizing h told with
  | nil =>
    rw [List.flatten_nil, List.append_nil]
    exact h0
  | cons batch rest ih =>
    rw [List.flatten_cons, ← List.append_assoc]
    exact ih (notify_told h0 batch)

/-! ### Wiring -/

theorem lt_of_mem_select {sel : Selector} (hi : i ∈ h.select sel) : i < h.nodes.length :=
  List.mem_range.mp (List.mem_filter.mp hi).1

theorem querySelectorAll_eq (hquery : h.failures .querySelectorAll = none) {sel : Selector}
    (hsel : Selector.ofText? r.selector = some sel) :
    querySelectorAll r.selector h = (.ok (h.select sel), h) := by
  unfold querySelectorAll attempt
  simp only [bind_apply, get_apply, hquery, hsel]
  rfl

/-- Elements that are observed one after the other are watched then. -/
theorem forM_observe {nodes : List NodeId} (ho : h.observers[o]? = some ⟨step, cap, nodes⟩)
    (l : List NodeId) :
    (l.forM (observe o) h).2.failures = h.failures ∧ (l.forM (observe o) h).2.nodes = h.nodes ∧
      ∃ nodes', (l.forM (observe o) h).2.observers[o]? = some ⟨step, cap, nodes'⟩ ∧
        ∀ i, i ∈ nodes' ↔ i ∈ nodes ∨ i ∈ l := by
  induction l generalizing h nodes with
  | nil => exact ⟨rfl, rfl, nodes, ho, fun i => by simp⟩
  | cons j rest ih =>
    have hobserve : (observe o j h).2.observers[o]? =
        some ⟨step, cap, if nodes.contains j then nodes else nodes ++ [j]⟩ := by
      show (h.observers.modify o _)[o]? = _
      rw [List.getElem?_modify, ho]
      simp
    obtain ⟨hfailures, hnodes, nodes', hwatched, hmem⟩ := ih hobserve
    refine ⟨hfailures, hnodes, nodes', hwatched, ?_⟩
    intro i
    rw [hmem, List.mem_cons]
    by_cases hj : j ∈ nodes
    · rw [if_pos (List.contains_iff_mem.mpr hj)]
      constructor
      · rintro (hi | hi)
        · exact .inl hi
        · exact .inr (.inr hi)
      · rintro (hi | rfl | hi)
        · exact .inl hi
        · exact .inl hj
        · exact .inr hi
    · rw [if_neg (fun hc => hj (List.contains_iff_mem.mp hc)), List.mem_append,
        List.mem_singleton, or_assoc]

/-- Elements that are shown without being watched keep their style, and get the class. -/
theorem revealAll_shows (hclass : h.failures .classList = none) (l : List NodeId) :
    (revealAll l h).2.observers = h.observers ∧
      (∀ i, ((revealAll l h).2.nodeAt i).style = (h.nodeAt i).style) ∧
      ∀ i < h.nodes.length, i ∈ l ∨ (h.nodeAt i).hasClass visibleClass = true →
        ((revealAll l h).2.nodeAt i).hasClass visibleClass = true := by
  induction l generalizing h with
  | nil =>
    refine ⟨rfl, fun i => rfl, ?_⟩
    rintro i - (hi | hi)
    · cases hi
    · exact hi
  | cons j rest ih =>
    obtain ⟨hobservers, hstyle, hvisible⟩ :=
      ih (h := (h.noted (.addClass j visibleClass)).edit j fun n => n.putClass visibleClass true)
        hclass
    have hcons : revealAll (j :: rest) h = revealAll rest
        ((h.noted (.addClass j visibleClass)).edit j fun n => n.putClass visibleClass true) := by
      show (markClass j visibleClass true >>= fun _ => revealAll rest) h = _
      rw [bind_apply, markClass_of_classList hclass isToken_visibleClass]
      rfl
    rw [hcons]
    refine ⟨hobservers, ?_, ?_⟩
    · intro i
      rw [hstyle]
      exact nodeAt_edit_induction (P := fun n => n.style = (h.nodeAt i).style) rfl
        fun _ => Node.style_putClass
    · intro i hi hshown
      apply hvisible i (by rw [length_edit]; exact hi)
      rcases hshown with hmem | hbefore
      · rcases List.mem_cons.mp hmem with rfl | hmem
        · -- the class was put on this one just now
          right
          rw [nodeAt_edit_self (h := h.noted _) hi,
            Node.hasClass_putClass isToken_visibleClass, if_pos rfl]
        · exact .inl hmem
      · right
        refine nodeAt_edit_induction (P := fun n => n.hasClass visibleClass = true) hbefore
          fun _ => ?_
        rw [Node.hasClass_putClass isToken_visibleClass, if_pos rfl]

/-- The elements are watched by a new observer, and look as before. -/
theorem wireReveal_told (hquery : h.failures .querySelectorAll = none)
    (hclass : h.failures .classList = none) (hobserver : h.failures .observer = none)
    {sel : Selector} (hsel : Selector.ofText? r.selector = some sel)
    (hsome : h.select sel ≠ []) :
    (wireReveal r false h).2.Told h.observers.length r (h.select sel) [] h ∧
      (wireReveal r false h).2.nodes = h.nodes := by
  obtain ⟨i, rest, htargets⟩ := List.exists_cons_of_ne_nil hsome
  have hmake : makeObserver r.threshold r.step r.cap h = (.ok h.observers.length,
      { h.noted (.makeObserver r.threshold) with
        observers := h.observers ++ [⟨r.step, r.cap, []⟩] }) := by
    unfold makeObserver attempt
    rw [bind_apply, get_apply, hobserver]
    rfl
  have hwire : wireReveal r false h = (h.select sel).forM (observe h.observers.length)
      { h.noted (.makeObserver r.threshold) with
        observers := h.observers ++ [⟨r.step, r.cap, []⟩] } := by
    unfold wireReveal
    rw [bind_apply, querySelectorAll_eq hquery hsel, htargets]
    simp only [Bool.false_eq_true, if_false, bind_apply, hmake]
  obtain ⟨hfailures, hnodes, nodes, hwatched, hmem⟩ :=
    forM_observe (h := { h.noted (.makeObserver r.threshold) with
      observers := h.observers ++ [⟨r.step, r.cap, []⟩] }) (o := h.observers.length)
      List.getElem?_concat_length (h.select sel)
  have hnodeAt : ∀ j, (wireReveal r false h).2.nodeAt j = h.nodeAt j := by
    intro j
    rw [nodeAt, hwire, hnodes]
    rfl
  rw [← hwire] at hfailures hnodes hwatched
  refine ⟨⟨?_, ⟨nodes, hwatched, ?_⟩, ?_, ?_, ?_, ?_⟩, hnodes⟩
  · rw [hfailures]
    exact hclass
  · intro j
    rw [hmem]
    simp
  · rw [hnodes]
    rfl
  · intro j
    rw [hnodeAt]
  · intro j _ hseen
    cases hseen
  · intro j _
    rw [hnodeAt]

/-- Elements that nobody would watch are shown at once. -/
theorem wireReveal_shows (hquery : h.failures .querySelectorAll = none)
    (hclass : h.failures .classList = none) {reducedMotion : Bool}
    (hunwatched : reducedMotion = true ∨ h.failures .observer ≠ none) {sel : Selector}
    (hsel : Selector.ofText? r.selector = some sel) :
    (wireReveal r reducedMotion h).2.observers = h.observers ∧
      ∀ i ∈ h.select sel,
        ((wireReveal r reducedMotion h).2.nodeAt i).hasClass visibleClass = true ∧
          ((wireReveal r reducedMotion h).2.nodeAt i).style = (h.nodeAt i).style := by
  obtain ⟨log, hwire⟩ : ∃ log, (wireReveal r reducedMotion h).2 =
      (revealAll (h.select sel) { h with log }).2 := by
    unfold wireReveal
    rw [bind_apply, querySelectorAll_eq hquery hsel]
    cases htargets : h.select sel with
    | nil =>
      obtain ⟨log, hlog⟩ := say_eq (h := h) .debug ("no " ++ r.selector ++ " elements; reveal skipped")
      exact ⟨log, congrArg Prod.snd hlog⟩
    | cons i rest =>
      by_cases hreduced : reducedMotion = true
      · refine ⟨h.log, ?_⟩
        dsimp only
        rw [if_pos hreduced]
      · obtain ⟨t, hfailed⟩ :=
          Option.ne_none_iff_exists'.mp (hunwatched.resolve_left hreduced)
        have hmake : makeObserver r.threshold r.step r.cap h = (.error t, h) := by
          unfold makeObserver attempt
          rw [bind_apply, get_apply, hfailed]
          rfl
        obtain ⟨log, hlog⟩ := say_eq (h := h) .warn
          ("IntersectionObserver unavailable: " ++ t.reason)
        refine ⟨log, ?_⟩
        dsimp only
        rw [if_neg hreduced, bind_apply, hmake]
        dsimp only
        rw [bind_apply, hlog]
  obtain ⟨hobservers, hstyle, hvisible⟩ :=
    revealAll_shows (h := { h with log }) hclass (h.select sel)
  rw [← hwire] at hobservers hstyle hvisible
  exact ⟨hobservers, fun i hi => ⟨hvisible i (lt_of_mem_select hi) (.inl hi), hstyle i⟩⟩

/-- What is so of an element after a batch, with these entries told before it: the page was
    `g` once, and is `h` and then `h'`. -/
structure Unveils (o : Nat) (r : RevealSettings) (told batch : List Sighting) (i : NodeId)
    (g h h' : Host) : Prop where
  unwatched_iff : i ∉ h'.watched o ↔ .entry i true ∈ told ++ batch
  visible : .entry i true ∈ told ++ batch → (h'.nodeAt i).hasClass visibleClass = true
  delayed : (g.nodeAt i).isHtml = true → ∀ pre post, batch = pre ++ .entry i true :: post →
    .entry i true ∉ post → (h'.nodeAt i).style.get? "transition-delay" =
      some (toString (min (pre.countP Sighting.inView * r.step.toNat) r.cap.toNat) ++ "ms")
  undelayed : (g.nodeAt i).isHtml = false → (h'.nodeAt i).style = (g.nodeAt i).style
  untouched : .entry i true ∉ batch →
    h'.nodeAt i = h.nodeAt i ∧ (i ∈ h'.watched o ↔ i ∈ h.watched o)

theorem notify_unveils (h0 : h.Told o r targets told g) (hi : i ∈ targets)
    (hlt : i < g.nodes.length) (batch : List Sighting) :
    Unveils o r told batch i g h (notify o batch h).2 := by
  have hafter := notify_told h0 batch
  refine ⟨?_, hafter.visible i hlt, ?_, hafter.style i, ?_⟩
  · rw [hafter.mem_watched]
    constructor
    · intro hgone
      apply Decidable.byContradiction
      intro hunseen
      exact hgone ⟨hi, hunseen⟩
    · rintro hseen ⟨-, hunseen⟩
      exact hunseen hseen
  · rintro hhtml pre post rfl hpost
    have hpre : ((h.shownAll o r.step r.cap 0 pre).nodeAt i).isHtml = true := by
      rw [isHtml_shownAll, h0.isHtml, hhtml]
    rw [notify_shownAll h0, nodeAt_shownAll_last (h0.length ▸ hlt) hpost, Node.style_reveal,
      if_pos hpre, Table.get?_insert_self, Nat.zero_add, Reveal.delayText, Reveal.toNat_delay]
  · intro hunseen
    constructor
    · rw [notify_shownAll h0, nodeAt_shownAll_of_not_mem hunseen]
    · rw [hafter.mem_watched, h0.mem_watched, List.mem_append, not_or]
      exact and_congr_right fun _ => and_iff_left hunseen

/-- **Every target comes into view once, and none is lost.**  Elements that cannot or must
    not be watched are shown when the page is wired.  All others are watched until they come
    into view, and shown from then on, whatever their observer is told. -/
theorem wireReveal_run (r : RevealSettings) (reducedMotion : Bool) {sel : Selector}
    (hsel : Selector.ofText? r.selector = some sel)
    (hquery : h.failures .querySelectorAll = none) (hclass : h.failures .classList = none) :
    let wired := (wireReveal r reducedMotion h).2
    (reducedMotion = true ∨ h.failures .observer ≠ none →
      wired.observers = h.observers ∧ ∀ i ∈ h.select sel,
        (wired.nodeAt i).hasClass visibleClass = true ∧
          (wired.nodeAt i).style = (h.nodeAt i).style) ∧
    (reducedMotion = false → h.failures .observer = none →
      wired.nodes = h.nodes ∧ ∀ i ∈ h.select sel, i ∈ wired.watched h.observers.length ∧
        ∀ (batches : List (List Sighting)) (batch : List Sighting),
          let before := batches.foldl (fun g b => (notify h.observers.length b g).2) wired
          Unveils h.observers.length r batches.flatten batch i h before
            (notify h.observers.length batch before).2) := by
  intro wired
  refine ⟨fun hunwatched => wireReveal_shows hquery hclass hunwatched hsel, ?_⟩
  rintro rfl hobserver
  by_cases hnone : h.select sel = []
  · obtain ⟨log, hlog⟩ := say_eq (h := h) .debug ("no " ++ r.selector ++ " elements; reveal skipped")
    have hwired : wired = { h with log } := by
      show (wireReveal r false h).2 = _
      unfold wireReveal
      rw [bind_apply, querySelectorAll_eq hquery hsel, hnone]
      exact congrArg Prod.snd hlog
    rw [hwired, hnone]
    exact ⟨rfl, fun i hi => nomatch hi⟩
  · obtain ⟨htold, hnodes⟩ := wireReveal_told hquery hclass hobserver hsel hnone
    refine ⟨hnodes, ?_⟩
    intro i hi
    refine ⟨htold.mem_watched.mpr ⟨hi, List.not_mem_nil⟩, ?_⟩
    intro batches batch
    exact notify_unveils (foldl_notify_told htold batches) hi (lt_of_mem_select hi) batch

/-- A drawing between two paragraphs: the first paragraph comes into view twice in one
    batch, the second one not at all. -/
theorem wireReveal_run_drawing :
    let fadeIn : Table String := .ofList [("class", "fade-in")]
    let page : Host :=
      { nodes := [{ tag := "body" }, { tag := "p", attributes := fadeIn },
          { tag := "circle", attributes := fadeIn, isHtml := false },
          { tag := "p", attributes := fadeIn }] }
    let wired := (wireReveal {} false page).2
    let shown := (notify 0 [.entry 1 true, .other, .entry 2 true, .entry 1 true, .entry 3 false]
      wired).2
    (Selector.ofText? ".fade-in" = some (.withClass "fade-in") ∧
      page.failures .querySelectorAll = none ∧ page.failures .classList = none) ∧
    (shown.nodeAt 1).style.get? "transition-delay" = some "200ms" ∧
      (shown.nodeAt 2).hasClass visibleClass = true ∧ (shown.nodeAt 2).style = .empty ∧
      2 ∉ shown.watched 0 ∧ 3 ∈ shown.watched 0 ∧ shown.nodeAt 3 = page.nodeAt 3 := by
  intro fadeIn page wired shown
  have hsel : Selector.ofText? ".fade-in" = some (.withClass "fade-in") := by decide +kernel
  have htargets : page.select (.withClass "fade-in") = [1, 2, 3] := by decide +kernel
  obtain ⟨-, hwatched⟩ := wireReveal_run (h := page) {} false hsel rfl rfl
  obtain ⟨hnodes, htold⟩ := hwatched rfl rfl
  rw [htargets] at htold
  obtain ⟨-, h1⟩ := htold 1 (by decide)
  obtain ⟨-, h2⟩ := htold 2 (by decide)
  obtain ⟨hwatched3, h3⟩ := htold 3 (by decide)
  have hdelayed := (h1 [] [.entry 1 true, .other, .entry 2 true, .entry 1 true, .entry 3 false]).delayed
    rfl [.entry 1 true, .other, .entry 2 true] [.entry 3 false] rfl (by decide)
  have hdrawn := h2 [] [.entry 1 true, .other, .entry 2 true, .entry 1 true, .entry 3 false]
  have hunseen := (h3 [] [.entry 1 true, .other, .entry 2 true, .entry 1 true,
    .entry 3 false]).untouched (by decide)
  refine ⟨⟨hsel, rfl, rfl⟩, hdelayed, hdrawn.visible (by decide), hdrawn.undelayed rfl,
    hdrawn.unwatched_iff.mpr (by decide), hunseen.2.mpr hwatched3, ?_⟩
  refine hunseen.1.trans ?_
  show wired.nodeAt 3 = page.nodeAt 3
  unfold nodeAt
  rw [hnodes]

end HostM

end Enhance
