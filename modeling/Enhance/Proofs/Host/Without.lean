/-
  Enhance/Proofs/Host/Without.lean
  ================================
  **A page beside the same page without the elements of one feature.**

  Two hosts are kept side by side: one with some elements, one without them.
  All that belongs to the other features is the same on both, except that the
  nodes left over have moved up and bear new numbers wherever they are mentioned;
  what belongs to the one feature is on the first host only (`Host.Without`).
  That feature may do what it likes there (`Without.disregards`), and a change of
  what is left over may be made on both.
-/
import Enhance.Proofs.Host.Arranged
import Enhance.Proofs.Page.Strike

namespace Enhance

/-! ### Elements that features look for -/

/-- Whether a feature looks for such an element. -/
def Feature.seeks : Feature → Node → Bool
  | theme, n => n.id? == some "dark-mode-toggle"
  | backToTop, n => n.id? == some "back-to-top"
  | reveal, n => n.hasClass "fade-in"
  | typing, n => n.id? == some "tagline"
  | commits, n => n.id? == some "last-updated"

/-- The attribute that a feature knows its elements by. -/
def Feature.key : Feature → String
  | reveal => "class"
  | _ => "id"

theorem Feature.seeks_congr {n m : Node} {f : Feature}
    (h : m.attributes.get? f.key = n.attributes.get? f.key) : f.seeks m = f.seeks n := by
  have hid : ∀ id, m.attributes.get? "id" = n.attributes.get? "id" →
      (m.id? == some id) = (n.id? == some id) := by
    intro id hsame
    rw [Node.id?, Node.id?, hsame]
  cases f with
  | reveal => exact Node.hasClass_congr h
  | _ => exact hid _ h

/-- An attribute makes an element of a node only if it would make one of any node. -/
theorem Feature.seeks_setAttribute {f : Feature} {n : Node} {name value : String}
    (h : f.seeks (({} : Node).setAttribute name value) = false)
    (hn : f.seeks (n.setAttribute name value) = true) : f.seeks n = true := by
  by_cases hname : f.key = name
  · have hsame : f.seeks (n.setAttribute name value) =
        f.seeks (({} : Node).setAttribute name value) := by
      refine seeks_congr ?_
      rw [Node.get?_setAttribute, Node.get?_setAttribute, if_pos hname, if_pos hname]
    rw [hsame, h] at hn
    cases hn
  · have hsame : f.seeks (n.setAttribute name value) = f.seeks n := by
      refine seeks_congr ?_
      rw [Node.get?_setAttribute, if_neg hname]
    exact hsame ▸ hn

theorem Feature.seeks_removeAttribute {f : Feature} {n : Node} {name : String}
    (hn : f.seeks (n.removeAttribute name) = true) : f.seeks n = true := by
  by_cases hname : f.key = name
  · have hsame : f.seeks (n.removeAttribute name) = f.seeks {} := by
      refine seeks_congr ?_
      rw [← hname]
      exact Table.get?_erase_self _ _
    have hbare : f.seeks {} = false := by cases f <;> decide +kernel
    rw [hsame, hbare] at hn
    cases hn
  · have hsame : f.seeks (n.removeAttribute name) = f.seeks n :=
      seeks_congr (Table.get?_erase_of_ne _ hname)
    exact hsame ▸ hn

theorem Node.Alike.seeks {n m : Node} (h : Node.Alike "fade-in" n m) (f : Feature) :
    f.seeks m = f.seeks n := by
  cases f with
  | reveal => exact h.marked
  | _ => exact congrArg (· == _) h.id

/-! ### New numbers -/

section Renumber

variable (gone : NodeId → Bool)

def Target.renumber : Target → Target
  | .node i => .node (rank gone i)
  | target => target

def Listener.renumber (l : Listener) : Listener := { l with target := l.target.renumber gone }

def BodySwitch.renumber (b : BodySwitch) : BodySwitch :=
  { b with control := b.control.map (rank gone) }

def ButtonGate.renumber (b : ButtonGate) : ButtonGate := { b with button := rank gone b.button }

def Observer.renumber (o : Observer) : Observer := { o with nodes := o.nodes.map (rank gone) }

def Task.renumber : Task → Task
  | typing i delay writer phase => typing (rank gone i) delay writer phase
  | commit i url offset phase => commit (rank gone i) url offset phase

def Sighting.renumber : Sighting → Sighting
  | .entry i inView => .entry (rank gone i) inView
  | .other => .other

def PageEvent.renumber (e : PageEvent) : PageEvent := { e with source := e.source.map (rank gone) }

@[simp] theorem Task.feature_renumber (t : Task) : (t.renumber gone).feature = t.feature := by
  cases t <;> rfl

@[simp] theorem Task.isIdle_renumber (t : Task) : (t.renumber gone).isIdle = t.isIdle := by
  cases t with
  | typing i delay writer phase => cases phase <;> rfl
  | commit i url offset phase => cases phase <;> rfl

end Renumber

variable {f f' : Feature} {gone : NodeId → Bool}

/-- A target that is not struck out. -/
def Target.IsKept (gone : NodeId → Bool) (target : Target) : Prop :=
  ∀ i, target = .node i → gone i = false

/-- A report on a node that is not struck out. -/
def Sighting.IsKept (gone : NodeId → Bool) (s : Sighting) : Prop :=
  ∀ i inView, s = .entry i inView → gone i = false

/-- An event that happened on a node that is not struck out. -/
def PageEvent.IsKept (gone : NodeId → Bool) (e : PageEvent) : Prop :=
  ∀ i, e.source = some i → gone i = false

theorem Target.isKept_window : Target.window.IsKept gone := fun _ h => nomatch h

theorem Target.isKept_document : Target.document.IsKept gone := fun _ h => nomatch h

theorem Target.isKept_node {i : NodeId} (hi : gone i = false) : (Target.node i).IsKept gone := by
  rintro _ ⟨⟩
  exact hi

theorem Target.renumber_inj {target target' : Target} (h : target.IsKept gone)
    (h' : target'.IsKept gone) : target.renumber gone = target'.renumber gone ↔ target = target' := by
  cases target with
  | node i =>
    cases target' with
    | node j => simp [renumber, rank_inj (h i rfl) (h' j rfl)]
    | _ => simp [renumber]
  | _ => cases target' <;> simp [renumber]

/-- Handlers of the back-to-top button belong to that feature; no other feature but the theme
    has any. -/
def Handler.isOf (f : Feature) (handler : Handler) : Bool := handler.isAside && f = .backToTop

namespace Host

/-- A node of a feature is struck out if the feature is this one, and only then. -/
def Splits (f : Feature) (gone : NodeId → Bool) (f' : Feature) (i : NodeId) : Prop :=
  gone i = true ↔ f' = f

/-- The second host is the first one without some nodes, which the feature alone looks for, and
    without all that the feature keeps.  The log and the list of calls may differ. -/
structure Without (f : Feature) (gone : NodeId → Bool) (h h' : Host) : Prop where
  sound : h.Sound
  sound' : h'.Sound
  window : h'.hasWindow = h.hasWindow
  document : h'.hasDocument = h.hasDocument
  ready : h'.readyState = h.readyState
  nodes : h'.nodes = strike gone h.nodes
  storage : h'.storage = h.storage
  scrollY : h'.scrollY = h.scrollY
  reducedMotion : h'.reducedMotion = h.reducedMotion
  minutesBehind : h'.minutesBehind = h.minutesBehind
  clock : f ≠ .typing → h'.now = h.now ∧ h'.timersMade = h.timersMade
  listeners : h'.listeners =
    (h.listeners.filter fun l => !l.handler.isOf f).map (Listener.renumber gone)
  switches : h'.switches = h.switches.map (BodySwitch.renumber gone)
  gates : h'.gates = if f = .backToTop then [] else h.gates.map (ButtonGate.renumber gone)
  observers : h'.observers = if f = .reveal then [] else h.observers.map (Observer.renumber gone)
  tasks : h'.tasks = (Task.besides (fun f' => f' = f) h.tasks).map (Task.renumber gone)
  /-- The theme is not the feature, and the body is not struck out. -/
  peripheral : f ≠ .theme
  body : gone 0 = false
  bound : ∀ i, gone i = true → i < h.nodes.length
  apart : ∀ i n f', h.nodes[i]? = some n → n.attached = true → f'.seeks n = true →
    Splits f gone f' i
  switched : ∀ b ∈ h.switches, b.settings.darkClass = "dark-mode" ∧
    b.settings.toggleId = "dark-mode-toggle" ∧ ∀ c, b.control = some c → gone c = false
  buttons : ∀ b ∈ h.gates, Splits f gone .backToTop b.button
  watched : ∀ o ∈ h.observers, ∀ i ∈ o.nodes, Splits f gone .reveal i
  writes : ∀ t ∈ h.tasks, Splits f gone t.feature t.node
  heard : ∀ l ∈ h.listeners, l.type = l.handler.eventType ∧
    (l.handler.isOf f = false → l.target.IsKept gone) ∧
    (l.handler.isOf f = true → l.type = "scroll" ∨ ¬ l.target.IsKept gone)

variable {h h' : Host} {i : NodeId} {n : Node} {F : Node → Node} {id : String}

theorem Splits.kept (hi : Splits f gone f' i) (hne : f' ≠ f) : gone i = false :=
  Bool.eq_false_iff.mpr fun h => hne (hi.mp h)

theorem splits_of_kept (hi : gone i = false) (hne : f' ≠ f) : Splits f gone f' i :=
  ⟨fun h => absurd (hi.symm.trans h) Bool.false_ne_true, fun h => absurd h hne⟩

theorem select_eq_placesOf (h : Host) (s : Selector) :
    h.select s = placesOf (fun n => n.attached && s.selects n) h.nodes := by
  unfold select placesOf
  refine List.filter_congr fun i _ => ?_
  cases h.nodes[i]? <;> rfl

namespace Without

variable (h0 : Without f gone h h')

include h0

/-! ### What is found -/

theorem nodeAt (hi : gone i = false) : h'.nodeAt (rank gone i) = h.nodeAt i := by
  rw [Host.nodeAt, h0.nodes, getElem?_strike hi, Host.nodeAt]

theorem length : h'.nodes.length = rank gone h.nodes.length := by
  rw [h0.nodes, length_strike]

/-- A node that is yet to be made will be left. -/
theorem kept_length : gone h.nodes.length = false :=
  Bool.eq_false_iff.mpr fun h => Nat.lt_irrefl _ (h0.bound _ h)

theorem body? : h'.body? = h.body? := by
  unfold Host.body?
  rw [h0.nodes]
  cases h.nodes with
  | nil => rfl
  | cons n rest => rw [strike_cons_of_kept h0.body]

/-- Another feature finds its element again. -/
theorem byId? (f' : Feature) (hne : f' ≠ f) (hid : ∀ n : Node, f'.seeks n = (n.id? == some id)) :
    h'.byId? id = (h.byId? id).map (rank gone) := by
  unfold Host.byId?
  split
  · rfl
  · rw [h0.nodes]
    refine findIdx?_strike fun i n hn hfound => ?_
    rw [Bool.and_eq_true, ← hid] at hfound
    exact (h0.apart i n f' hn hfound.1 hfound.2).kept hne

theorem splits_of_byId? (f' : Feature) (hid : ∀ n : Node, f'.seeks n = (n.id? == some id))
    (hi : h.byId? id = some i) : Splits f gone f' i := by
  obtain ⟨-, hfind⟩ := byId?_eq_some_iff.mp hi
  obtain ⟨hlt, hfound, -⟩ := List.findIdx?_eq_some_iff_getElem.mp hfind
  rw [Bool.and_eq_true, ← hid] at hfound
  exact h0.apart i _ f' (List.getElem?_eq_getElem hlt) hfound.1 hfound.2

/-- The feature itself finds nothing. -/
theorem byId?_eq_none (hid : ∀ n : Node, f.seeks n = (n.id? == some id)) :
    h'.byId? id = none := by
  unfold Host.byId?
  split
  · rfl
  · rw [h0.nodes]
    refine List.findIdx?_eq_none_iff.mpr (any_strike fun i n hn hfound => ?_)
    rw [Bool.and_eq_true, ← hid] at hfound
    exact (h0.apart i n f hn hfound.1 hfound.2).mpr rfl

theorem splits_of_select (hi : i ∈ h.select (.withClass "fade-in")) :
    Splits f gone .reveal i := by
  have hselected := (List.mem_filter.mp hi).2
  cases hn : h.nodes[i]? with
  | none =>
    rw [hn] at hselected
    cases hselected
  | some n =>
    rw [hn, Bool.and_eq_true] at hselected
    exact h0.apart i n .reveal hn hselected.1 hselected.2

theorem select (hne : f ≠ .reveal) : h'.select (.withClass "fade-in") =
    (h.select (.withClass "fade-in")).map (rank gone) := by
  rw [select_eq_placesOf, select_eq_placesOf, h0.nodes]
  refine placesOf_strike fun i n hn hfound => ?_
  rw [Bool.and_eq_true] at hfound
  exact (h0.apart i n .reveal hn hfound.1 hfound.2).kept (Ne.symm hne)

theorem select_eq_nil (hf : f = .reveal) : h'.select (.withClass "fade-in") = [] := by
  rw [select_eq_placesOf, h0.nodes]
  refine placesOf_eq_nil (any_strike fun i n hn hfound => ?_)
  rw [Bool.and_eq_true] at hfound
  exact (h0.apart i n .reveal hn hfound.1 hfound.2).mpr hf.symm

/-! ### Changes on both -/

theorem noted (call call' : Call) : Without f gone (h.noted call) (h'.noted call') := { h0 with }

/-- A changed node is still looked for by the right features, if it was or should be. -/
theorem apart_edit (hF : ∀ n f', (F n).attached = true → f'.seeks (F n) = true →
    Splits f gone f' i ∨ n.attached = true ∧ f'.seeks n = true) :
    ∀ j m f', (h.edit i F).nodes[j]? = some m → m.attached = true → f'.seeks m = true →
      Splits f gone f' j := by
  intro j m f' hm hattached hseeks
  by_cases hij : i = j
  · subst hij
    rw [getElem?_edit_self] at hm
    obtain ⟨n, hn, rfl⟩ := Option.map_eq_some_iff.mp hm
    rcases hF n f' hattached hseeks with hsplits | ⟨hattached', hseeks'⟩
    · exact hsplits
    · exact h0.apart i n f' hn hattached' hseeks'
  · rw [getElem?_edit_of_ne h hij] at hm
    exact h0.apart j m f' hm hattached hseeks

/-- A change of a node that is left, as long as it does not become one to look for. -/
theorem edit (hi : gone i = false)
    (hF : ∀ n, (F n).attached = true → f.seeks (F n) = true →
      n.attached = true ∧ f.seeks n = true) :
    Without f gone (h.edit i F) (h'.edit (rank gone i) F) := by
  refine { h0 with nodes := ?_, bound := ?_, apart := h0.apart_edit fun n f' ha hs => ?_ }
  · show h'.nodes.modify _ F = strike gone (h.nodes.modify i F)
    rw [strike_modify hi, h0.nodes]
  · intro j hj
    rw [length_edit]
    exact h0.bound j hj
  · by_cases hf : f' = f
    · subst hf
      exact .inr (hF n ha hs)
    · exact .inl (splits_of_kept hi hf)

theorem editAlike (hi : gone i = false) (hF : ∀ n, Node.Alike "fade-in" n (F n)) :
    Without f gone (h.edit i F) (h'.edit (rank gone i) F) :=
  h0.edit hi fun n hattached hseeks =>
    ⟨(hF n).attached ▸ hattached, (hF n).seeks f ▸ hseeks⟩

/-- One node more, which the feature does not look for. -/
theorem append (hn : n.attached = true → f.seeks n = false) :
    Without f gone { h with nodes := h.nodes ++ [n] } { h' with nodes := h'.nodes ++ [n] } := by
  refine { h0 with nodes := ?_, bound := ?_, apart := ?_ }
  · exact (congrArg (· ++ [n]) h0.nodes).trans (strike_append h0.kept_length n).symm
  · intro j hj
    exact Nat.lt_of_lt_of_le (h0.bound j hj) (by simp)
  · intro j m f' hm hattached hseeks
    rcases Nat.lt_or_ge j h.nodes.length with hlt | hge
    · rw [List.getElem?_append_left hlt] at hm
      exact h0.apart j m f' hm hattached hseeks
    · -- the new node is left, and another feature may look for it
      rw [List.getElem?_append_right hge, List.getElem?_singleton] at hm
      split at hm
      · rename_i hzero
        cases hm
        obtain rfl : j = h.nodes.length := Nat.le_antisymm (Nat.sub_eq_zero_iff_le.mp hzero) hge
        constructor
        · intro hgone
          rw [h0.kept_length] at hgone
          cases hgone
        · rintro rfl
          rw [hn hattached] at hseeks
          cases hseeks
      · cases hm

theorem withListener {target : Target} (htarget : target.IsKept gone) {handler : Handler}
    (hhandler : handler.isOf f = false) :
    Without f gone { h with listeners := h.listeners ++ [⟨target, handler.eventType, handler⟩] }
      { h' with listeners :=
          h'.listeners ++ [⟨target.renumber gone, handler.eventType, handler⟩] } := by
  refine { h0 with listeners := ?_, heard := ?_ }
  · rw [h0.listeners, List.filter_append, List.map_append, List.filter_cons_of_pos (by simp [hhandler])]
    rfl
  · intro l hl
    rcases List.mem_append.mp hl with hl | hl
    · exact h0.heard l hl
    · rw [List.mem_singleton.mp hl]
      refine ⟨rfl, fun _ => htarget, fun hyes => ?_⟩
      rw [hhandler] at hyes
      cases hyes

/-- Other tasks. -/
theorem withTasks {l : List Task} (hl : ∀ t ∈ l, Splits f gone t.feature t.node) :
    Without f gone { h with tasks := l }
      { h' with tasks := (Task.besides (fun f' => f' = f) l).map (Task.renumber gone) } :=
  { h0 with tasks := rfl, writes := hl }

/-! ### Changes of what is struck out -/

theorem editGone (hi : gone i = true) (hF : ∀ n, Node.Alike "fade-in" n (F n)) :
    Without f gone (h.edit i F) h' := by
  refine { h0 with nodes := ?_, bound := ?_, apart := h0.apart_edit fun n f' ha hs => ?_ }
  · exact h0.nodes.trans (strike_modify_of_gone hi _ _).symm
  · intro j hj
    rw [length_edit]
    exact h0.bound j hj
  · exact .inr ⟨(hF n).attached ▸ ha, (hF n).seeks f' ▸ hs⟩

/-- A listener more that serves the feature. -/
theorem withOwn (hf : f = .backToTop) {target : Target} {handler : Handler}
    (haside : handler.isAside = true)
    (hgone : handler.eventType = "scroll" ∨ ¬ target.IsKept gone) :
    Without f gone { h with listeners := h.listeners ++ [⟨target, handler.eventType, handler⟩] }
      h' := by
  have hhandler : handler.isOf f = true := by simp [Handler.isOf, haside, hf]
  refine { h0 with listeners := ?_, heard := ?_ }
  · rw [h0.listeners, List.filter_append, List.filter_cons_of_neg (by simp [hhandler])]
    simp
  · intro l hl
    rcases List.mem_append.mp hl with hl | hl
    · exact h0.heard l hl
    · rw [List.mem_singleton.mp hl]
      refine ⟨rfl, fun hno => ?_, fun _ => hgone⟩
      rw [hhandler] at hno
      cases hno

omit h0 in
/-- What the feature does where it has its elements is no concern of the other page. -/
theorem disregards {rest : List Task} : Disregards (fun f' => f' = f) (fun i => gone i = true)
    (Splits f gone) rest fun k =>
      Without f gone k h' ∧ Task.besides (fun f' => f' = f) k.tasks = rest where
  log h0 := ⟨{ h0.1 with }, h0.2⟩
  logLimit h0 := ⟨{ h0.1 with }, h0.2⟩
  noted _ h0 := ⟨{ h0.1 with }, h0.2⟩
  clock hf h0 := ⟨{ h0.1 with clock := fun hne => absurd (of_decide_eq_true hf).symm hne }, h0.2⟩
  visible hi h0 := ⟨h0.1.editGone hi fun n => alike_visible n _, h0.2⟩
  style hi h0 := ⟨h0.1.editGone hi fun _ => ⟨⟨rfl, rfl⟩, rfl⟩, h0.2⟩
  text hf ht h0 :=
    ⟨h0.1.editGone (ht.mpr (of_decide_eq_true hf)) fun _ => ⟨⟨rfl, rfl⟩, rfl⟩, h0.2⟩
  shown hf hi := hi.mpr (of_decide_eq_true hf)
  gate := by
    intro k gate button hf hbutton ⟨h0, hrest⟩
    have hf := (of_decide_eq_true hf).symm
    refine ⟨{ h0 with gates := ?_, buttons := ?_ }, hrest⟩
    · rw [h0.gates, if_pos hf, if_pos hf]
    · intro b hb
      rcases List.mem_append.mp hb with hb | hb
      · exact h0.buttons b hb
      · rw [List.mem_singleton.mp hb]
        exact hbutton
  moved := by
    intro k i gate hf ⟨h0, hrest⟩
    have hf := (of_decide_eq_true hf).symm
    refine ⟨{ h0 with gates := ?_, buttons := ?_ }, hrest⟩
    · rw [h0.gates, if_pos hf, if_pos hf]
    · intro b hb
      rcases mem_modify hb with hb | ⟨b', hb', rfl⟩
      · exact h0.buttons b hb
      · exact h0.buttons b' hb'
  buttons hf h0 b hb := (h0.1.buttons b hb).mpr (of_decide_eq_true hf)
  follow hf h0 := ⟨h0.1.withOwn (of_decide_eq_true hf).symm
    (rfl : (Handler.follow _).isAside = true) (.inl rfl), h0.2⟩
  scrollUp := by
    intro k button hf hbutton ⟨h0, hrest⟩
    refine ⟨h0.withOwn (of_decide_eq_true hf).symm (rfl : Handler.scrollUp.isAside = true)
      (.inr fun hkept => ?_), hrest⟩
    have hgone : gone button = true := hbutton.mpr (of_decide_eq_true hf)
    exact absurd (hgone.symm.trans (hkept button rfl)).symm Bool.false_ne_true
  observer := by
    intro k step cap hf ⟨h0, hrest⟩
    have hf := (of_decide_eq_true hf).symm
    refine ⟨{ h0 with observers := ?_, watched := ?_ }, hrest⟩
    · rw [h0.observers, if_pos hf, if_pos hf]
    · intro o ho i hi
      rcases List.mem_append.mp ho with ho | ho
      · exact h0.watched o ho i hi
      · rw [List.mem_singleton.mp ho] at hi
        cases hi
  watched := by
    intro k o F hf hF ⟨h0, hrest⟩
    have hf := (of_decide_eq_true hf).symm
    refine ⟨{ h0 with observers := ?_, watched := ?_ }, hrest⟩
    · rw [h0.observers, if_pos hf, if_pos hf]
    · intro ob hob i hi
      rcases mem_modify hob with hob | ⟨ob', hob', rfl⟩
      · exact h0.watched ob hob i hi
      · exact hF _ (h0.watched ob' hob') i hi
  targets hf h0 o ho i hi := (h0.1.watched o ho i hi).mpr (of_decide_eq_true hf)
  tasks := by
    intro k tasks hown hrest ⟨h0, hrest'⟩
    refine ⟨{ h0 with tasks := ?_, writes := ?_ }, hrest⟩
    · rw [hrest, ← hrest']
      exact h0.tasks
    · intro t ht
      by_cases hf : t.feature = f
      · exact hown t ht (decide_eq_true hf)
      · -- the tasks of the other features are the same as before
        have hother : t ∈ Task.besides (fun f' => f' = f) k.tasks := by
          rw [hrest', ← hrest]
          exact Task.mem_besides.mpr ⟨ht, decide_eq_false hf⟩
        exact h0.writes t (Task.mem_besides.mp hother).1
  writes h0 t ht _ := h0.1.writes t ht
  others h0 := h0.2

end Without

/-- Before anything was set up, only the nodes are not the same. -/
theorem Pristine.without {g : Host} (h0 : g.Pristine) (hf : f ≠ .theme) (hbody : gone 0 = false)
    (hbound : ∀ i, gone i = true → i < g.nodes.length)
    (hapart : ∀ i n f', g.nodes[i]? = some n → n.attached = true → f'.seeks n = true →
      (gone i = true ↔ f' = f)) :
    Without f gone g { g with nodes := strike gone g.nodes } where
  sound := h0.sound
  sound' := h0.sound
  window := rfl
  document := rfl
  ready := rfl
  nodes := rfl
  storage := rfl
  scrollY := rfl
  reducedMotion := rfl
  minutesBehind := rfl
  clock _ := ⟨rfl, rfl⟩
  listeners := by
    rw [h0.listeners]
    rfl
  switches := by
    rw [h0.switches]
    rfl
  gates := by
    rw [h0.gates]
    split <;> rfl
  observers := by
    rw [h0.observers]
    split <;> rfl
  tasks := by
    rw [h0.tasks]
    rfl
  peripheral := hf
  body := hbody
  bound := hbound
  apart := hapart
  switched := by
    rw [h0.switches]
    exact List.forall_mem_nil _
  buttons := by
    rw [h0.gates]
    exact List.forall_mem_nil _
  watched := by
    rw [h0.observers]
    exact List.forall_mem_nil _
  writes := by
    rw [h0.tasks]
    exact List.forall_mem_nil _
  heard := by
    rw [h0.listeners]
    exact List.forall_mem_nil _

end Host

end Enhance
