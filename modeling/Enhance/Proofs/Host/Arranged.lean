/-
  Enhance/Proofs/Host/Arranged.lean
  =================================
  **Every feature keeps to the elements that it found.**

  A page is set up once or many times, and events come in between.  All the
  while the places of its elements stay what they were, but for controls that
  a switch adds, so that a feature which looks for its element again finds the
  same one; and what a feature left for later has to do with that element
  only.
-/
import Enhance.Proofs.Host.Mirror

namespace Enhance

namespace Host

variable {g h h' : Host} {i j : NodeId} {id : String} {f : Node → Node}

/-- The place of a control that a switch made. -/
def controlHome : Bool × Option String := (true, some "dark-mode-toggle")

/-! ### Being revealed -/

theorem hasClass_of_select {name : String} (hj : j ∈ h.select (.withClass name)) :
    (h.nodeAt j).hasClass name = true := by
  have hselected := (List.mem_filter.mp hj).2
  rw [nodeAt]
  cases hnode : h.nodes[j]? with
  | none =>
    rw [hnode] at hselected
    cases hselected
  | some n =>
    rw [hnode, Bool.and_eq_true] at hselected
    exact hselected.2

/-- The elements to reveal are those of one class. -/
theorem mem_select_standard {s : Settings} (hs : s.StandardNames) {sel : Selector}
    (hsel : Selector.ofText? s.reveal.selector = some sel) (hj : j ∈ h.select sel) :
    j ∈ h.select (.withClass "fade-in") := by
  have hfadeIn : Selector.ofText? ".fade-in" = some (.withClass "fade-in") := by decide +kernel
  rw [hs.selector, hfadeIn] at hsel
  cases hsel
  exact hj

/-! ### Owning a node -/

/-- On a page that looked like `g` before anything was set up, a feature works on these
    nodes only. -/
def Owns (g : Host) : Feature → NodeId → Prop
  | .theme, j => ∀ id, (g.nodeAt j).id? = some id → id = "dark-mode-toggle"
  | .backToTop, j => g.byId? "back-to-top" = some j
  | .reveal, j => (g.nodeAt j).hasClass "fade-in" = true
  | .typing, j => g.byId? "tagline" = some j
  | .commits, j => g.byId? "last-updated" = some j

/-- A page that looked like `g` before anything was set up, and on which no call fails: its
    elements are where they were, and all work left for later is on nodes that the features
    own. -/
structure Arranged (g h : Host) : Prop where
  sound : h.Sound
  homes : ∃ made, h.homes = g.homes ++ List.replicate made controlHome
  targets : ∀ i, (h.nodeAt i).hasClass "fade-in" = (g.nodeAt i).hasClass "fade-in"
  switches : ∀ b ∈ h.switches, b.settings.darkClass = "dark-mode" ∧
    b.settings.toggleId = "dark-mode-toggle" ∧ ∀ c, b.control = some c → g.Owns .theme c
  gates : ∀ b ∈ h.gates, g.Owns .backToTop b.button
  observers : ∀ o ∈ h.observers, ∀ j ∈ o.nodes, g.Owns .reveal j
  tasks : ∀ t ∈ h.tasks, g.Owns t.feature t.node
  listeners : ∀ l ∈ h.listeners, l.type = l.handler.eventType

namespace Arranged

/-- A change that touches nothing the features rely on. -/
theorem congr (h0 : Arranged g h) (hfailures : h'.failures = h.failures)
    (hnodes : h'.nodes = h.nodes) (hswitches : h'.switches = h.switches)
    (hgates : h'.gates = h.gates) (hobservers : h'.observers = h.observers)
    (htasks : h'.tasks = h.tasks) (hlisteners : h'.listeners = h.listeners) : Arranged g h' where
  sound := by
    rw [Sound, hfailures]
    exact h0.sound
  homes := by
    rw [Host.homes, hnodes]
    exact h0.homes
  targets i := by
    rw [nodeAt, hnodes]
    exact h0.targets i
  switches := hswitches ▸ h0.switches
  gates := hgates ▸ h0.gates
  observers := hobservers ▸ h0.observers
  tasks := htasks ▸ h0.tasks
  listeners := hlisteners ▸ h0.listeners

/-- One listener more. -/
theorem withListener (h0 : Arranged g h) (target : Target) (handler : Handler) : Arranged g
    { h with listeners := h.listeners ++ [⟨target, handler.eventType, handler⟩] } := by
  refine { h0 with listeners := ?_ }
  intro l hl
  rcases List.mem_append.mp hl with hl | hl
  · exact h0.listeners l hl
  · rw [List.mem_singleton.mp hl]

/-- A change of a node in its place, which fades in or not as before. -/
theorem edit (h0 : Arranged g h) (hf : ∀ n, Node.Alike "fade-in" n (f n)) :
    Arranged g (h.edit i f) where
  sound := h0.sound
  homes := by
    rw [homes_edit fun n => (hf n).toSamePlace]
    exact h0.homes
  targets j := nodeAt_edit_induction
    (P := fun n => n.hasClass "fade-in" = (g.nodeAt j).hasClass "fade-in") (h0.targets j)
    fun _ => ((hf _).marked).trans (h0.targets j)
  switches := h0.switches
  gates := h0.gates
  observers := h0.observers
  tasks := h0.tasks
  listeners := h0.listeners

/-- Elements that were there from the beginning are found again. -/
theorem byId? (h0 : Arranged g h) (hid : id ≠ "dark-mode-toggle") : h.byId? id = g.byId? id := by
  obtain ⟨made, hhomes⟩ := h0.homes
  have hcontrol : (controlHome.1 && controlHome.2 == some id) = false := by
    simp [controlHome, Ne.symm hid]
  rw [byId?_eq_homes, byId?_eq_homes, hhomes, List.findIdx?_append, List.findIdx?_replicate,
    hcontrol]
  simp

/-- An element that had an id has it still. -/
theorem id? (h0 : Arranged g h) (hj : (g.nodeAt j).id? = some id) : (h.nodeAt j).id? = some id := by
  obtain ⟨made, hhomes⟩ := h0.homes
  have hfound := homes_nodeAt g j
  cases hhome : g.homes[j]? with
  | none =>
    rw [hhome] at hfound
    have hnone : (g.nodeAt j).id? = none := congrArg Prod.snd hfound
    rw [hnone] at hj
    cases hj
  | some p =>
    have hlt : j < g.homes.length := (List.getElem?_eq_some_iff.mp hhome).1
    have hsame : (h.nodeAt j).home = (g.nodeAt j).home := by
      rw [homes_nodeAt, homes_nodeAt, hhomes, List.getElem?_append_left hlt]
    exact (congrArg Prod.snd hsame).trans hj

theorem length_le (h0 : Arranged g h) : g.nodes.length ≤ h.nodes.length := by
  obtain ⟨made, hhomes⟩ := h0.homes
  have hlengths := congrArg List.length hhomes
  rw [List.length_append, Host.homes, Host.homes, List.length_map, List.length_map] at hlengths
  omega

theorem owns_control (h0 : Arranged g h) (hj : h.byId? "dark-mode-toggle" = some j) :
    g.Owns .theme j := by
  intro id hid
  have hsame := (h0.id? hid).symm.trans (nodeAt_of_byId? hj).2
  exact Option.some.inj hsame

theorem owns_target (h0 : Arranged g h) (hj : j ∈ h.select (.withClass "fade-in")) :
    g.Owns .reveal j :=
  (h0.targets j).symm.trans (hasClass_of_select hj)

variable {s : Settings}

theorem owns_button (h0 : Arranged g h) (hs : s.StandardNames)
    (hj : h.byId? s.backToTop.elementId = some j) : g.Owns .backToTop j := by
  rw [hs.backToTop, h0.byId? (by decide)] at hj
  exact hj

theorem owns_selected (h0 : Arranged g h) (hs : s.StandardNames) {sel : Selector}
    (hsel : Selector.ofText? s.reveal.selector = some sel) (hj : j ∈ h.select sel) :
    g.Owns .reveal j := by
  exact h0.owns_target (mem_select_standard hs hsel hj)

theorem owns_tagline (h0 : Arranged g h) (hs : s.StandardNames)
    (hj : h.byId? s.typing.elementId = some j) : g.Owns .typing j := by
  rw [hs.typing, h0.byId? (by decide)] at hj
  exact hj

theorem owns_element (h0 : Arranged g h) (hs : s.StandardNames)
    (hj : h.byId? s.commits.elementId = some j) : g.Owns .commits j := by
  rw [hs.commits, h0.byId? (by decide)] at hj
  exact hj

end Arranged

/-- Two tokens that are not the same. -/
theorem alike_visible (n : Node) (present : Bool) :
    Node.Alike "fade-in" n (n.putClass visibleClass present) :=
  n.alike_putClass HostM.isToken_visibleClass (by decide)

/-! ### The features beside the theme -/

/-- An arranged page on which the theme and all that it depends on are as on `k`. -/
structure Follows (g k h : Host) : Prop extends Arranged g h where
  window : h.hasWindow = k.hasWindow
  document : h.hasDocument = k.hasDocument
  inPlace : h.homes = k.homes
  attributes : ∀ i name, name ≠ "class" →
    (h.nodeAt i).attributes.get? name = (k.nodeAt i).attributes.get? name
  stored : h.storage = k.storage
  switched : h.switches = k.switches

theorem Arranged.follows (h0 : Arranged g h) : Follows g h h :=
  ⟨h0, rfl, rfl, rfl, fun _ _ _ => rfl, rfl, rfl⟩

namespace Follows

variable {k : Host}

theorem withArranged (h0 : Follows g k h) (harranged : Arranged g h')
    (hwindow : h'.hasWindow = h.hasWindow) (hdocument : h'.hasDocument = h.hasDocument)
    (hnodes : h'.nodes = h.nodes) (hstorage : h'.storage = h.storage)
    (hswitches : h'.switches = h.switches) : Follows g k h' where
  toArranged := harranged
  window := hwindow.trans h0.window
  document := hdocument.trans h0.document
  inPlace := by
    rw [Host.homes, hnodes]
    exact h0.inPlace
  attributes i name hname := by
    rw [nodeAt, hnodes]
    exact h0.attributes i name hname
  stored := hstorage.trans h0.stored
  switched := hswitches.trans h0.switched

theorem edit (h0 : Follows g k h) (hf : ∀ n, Node.Alike "fade-in" n (f n))
    (hattributes : ∀ n name, name ≠ "class" →
      (f n).attributes.get? name = n.attributes.get? name) : Follows g k (h.edit i f) where
  toArranged := h0.toArranged.edit hf
  window := h0.window
  document := h0.document
  inPlace := by
    rw [homes_edit fun n => (hf n).toSamePlace]
    exact h0.inPlace
  attributes j name hname := nodeAt_edit_induction
    (P := fun n => n.attributes.get? name = (k.nodeAt j).attributes.get? name)
    (h0.attributes j name hname) fun _ => (hattributes _ name hname).trans
      (h0.attributes j name hname)
  stored := h0.stored
  switched := h0.switched

theorem unmoved : Unmoved g.Owns (Follows g k) where
  log h0 := h0.withArranged (h0.congr rfl rfl rfl rfl rfl rfl rfl) rfl rfl rfl rfl rfl
  logLimit h0 := h0.withArranged (h0.congr rfl rfl rfl rfl rfl rfl rfl) rfl rfl rfl rfl rfl
  noted _ h0 := h0.withArranged (h0.congr rfl rfl rfl rfl rfl rfl rfl) rfl rfl rfl rfl rfl
  clock h0 := h0.withArranged (h0.congr rfl rfl rfl rfl rfl rfl rfl) rfl rfl rfl rfl rfl
  scrollY h0 := h0.withArranged (h0.congr rfl rfl rfl rfl rfl rfl rfl) rfl rfl rfl rfl rfl
  visible h0 := h0.edit (fun n => alike_visible n _) fun _ _ hname => Node.get?_putClass_of_ne hname
  style h0 := h0.edit (fun _ => ⟨⟨rfl, rfl⟩, rfl⟩) fun _ _ _ => rfl
  text _ h0 := h0.edit (fun _ => ⟨⟨rfl, rfl⟩, rfl⟩) fun _ _ _ => rfl
  gate := by
    intro h gate button hbutton h0
    refine h0.withArranged { h0.toArranged with gates := ?_ } rfl rfl rfl rfl rfl
    intro b hb
    rcases List.mem_append.mp hb with hb | hb
    · exact h0.gates b hb
    · rw [List.mem_singleton.mp hb]
      exact hbutton
  moved := by
    intro h i gate h0
    refine h0.withArranged { h0.toArranged with gates := ?_ } rfl rfl rfl rfl rfl
    intro b hb
    rcases mem_modify hb with hb | ⟨b', hb', rfl⟩
    · exact h0.gates b hb
    · exact h0.gates b' hb'
  observer := by
    intro h step cap h0
    refine h0.withArranged { h0.toArranged with observers := ?_ } rfl rfl rfl rfl rfl
    intro o ho j hj
    rcases List.mem_append.mp ho with ho | ho
    · exact h0.observers o ho j hj
    · rw [List.mem_singleton.mp ho] at hj
      cases hj
  watched := by
    intro h o f hf h0
    refine h0.withArranged { h0.toArranged with observers := ?_ } rfl rfl rfl rfl rfl
    intro ob hob j hj
    rcases mem_modify hob with hob | ⟨ob', hob', rfl⟩
    · exact h0.observers ob hob j hj
    · exact hf _ (h0.observers ob' hob') j hj
  tasks htasks h0 :=
    h0.withArranged { h0.toArranged with tasks := htasks } rfl rfl rfl rfl rfl
  writes h0 := h0.tasks
  follow h0 := h0.withArranged (h0.withListener .window (.follow _)) rfl rfl rfl rfl rfl
  scrollUp _ h0 := h0.withArranged (h0.withListener (.node _) .scrollUp) rfl rfl rfl rfl rfl

end Follows

/-! ### The theme -/

/-- The settings of a switch have the names that hold when nothing is chosen. -/
def Standard (s : ThemeSettings) : Prop :=
  s.darkClass = "dark-mode" ∧ s.toggleId = "dark-mode-toggle"

end Host

namespace HostM

open Host

variable {g h : Host} {i : Nat}

theorem isToken_darkMode : Node.IsToken "dark-mode" :=
  Node.isToken_of_any (by decide) (by decide)

theorem home_newControl : (newControl "dark-mode-toggle").home = controlHome := by
  have hid : (newControl "dark-mode-toggle").id? = some "dark-mode-toggle" :=
    id?_newControl (by decide)
  exact Prod.ext rfl hid

/-- A new control is the only element whose place was not known. -/
theorem createControl_arranged (h0 : Arranged g h) :
    Arranged g (createControl "dark-mode-toggle" h).2 ∧
      (createControl "dark-mode-toggle" h).1 = .ok h.nodes.length ∧
      g.Owns .theme h.nodes.length := by
  obtain ⟨made, hhomes⟩ := h0.homes
  rw [createControl_eq h0.sound]
  refine ⟨{ h0 with homes := ⟨made + 1, ?_⟩, targets := ?_ }, rfl, ?_⟩
  · show (h.nodes ++ [newControl "dark-mode-toggle"]).map Node.home = _
    rw [List.map_append, List.map_singleton, home_newControl]
    show h.homes ++ [controlHome] = _
    rw [hhomes, List.append_assoc, ← List.replicate_succ']
  · intro j
    refine nodeAt_append_induction (h := h) (P := fun n => n.hasClass "fade-in" =
      (g.nodeAt j).hasClass "fade-in") rfl (h0.targets j) fun hj n hn => ?_
    -- neither the new node nor the empty one that stood for it fades in
    rw [List.mem_singleton.mp hn, ← h0.targets j, nodeAt, List.getElem?_eq_none hj]
    decide
  · -- the page had no node of this number before
    intro id hid
    rw [nodeAt, List.getElem?_eq_none h0.length_le] at hid
    cases hid

end HostM

namespace Host

/-- Where the elements are does not depend on the theme. -/
theorem Arranged.unthemed {g : Host} : Unthemed Standard (g.Owns .theme) (Arranged g) where
  standard := ⟨rfl, rfl⟩
  held h0 b hb := by
    obtain ⟨hdark, htoggle, hcontrol⟩ := h0.switches b hb
    exact ⟨⟨hdark, htoggle⟩, hcontrol⟩
  found hs h0 hc := h0.owns_control (hs.2 ▸ hc)
  log h0 := h0.congr rfl rfl rfl rfl rfl rfl rfl
  noted _ _ h0 := h0.congr rfl rfl rfl rfl rfl rfl rfl
  stored h0 := h0.congr rfl rfl rfl rfl rfl rfl rfl
  dark := by
    intro h s present hs htoken h0
    have hnoted : Arranged g (h.noted (.mark 0 s.darkClass present)) :=
      h0.congr rfl rfl rfl rfl rfl rfl rfl
    exact hnoted.edit fun n => n.alike_putClass htoken (by rw [hs.1]; decide)
  drawn _ h0 := h0.edit fun _ => ⟨⟨rfl, rfl⟩, rfl⟩
  labelled _ hname h0 := h0.edit fun n =>
    n.alike_setAttribute _ _ (fun heq => hname (by simp [heq])) fun heq => hname (by simp [heq])
  created := by
    intro h s hs h0
    obtain ⟨harranged, hmade, howns⟩ := HostM.createControl_arranged h0
    rw [hs.2]
    refine ⟨harranged, fun c hc => ?_⟩
    rw [hmade] at hc
    cases hc
    exact howns
  switches hswitches h0 := { h0 with
    switches := fun b hb => ⟨(hswitches b hb).1.1, (hswitches b hb).1.2, (hswitches b hb).2⟩ }
  bound _ h0 := h0.edit fun n => n.alike_setAttribute _ _ (by decide) (by decide)
  listens _ _ h0 := h0.withListener _ _

end Host

namespace HostM

open Host

variable {g h : Host}

/-! ### Everything -/

/-- What the other features do keeps a page arranged. -/
theorem keeps_arranged {α : Type} {act : HostM α} (hact : ∀ k, Keeps (Follows g k) act) :
    Keeps (Arranged g) act := fun h h0 => (hact h h h0.follows).toArranged

theorem keeps_follows_features {s : Settings} (hs : s.StandardNames) (k : Host)
    (reducedMotion : Bool) :
    Keeps (Follows g k) (do
      wireBackToTop s.backToTop
      wireReveal s.reveal reducedMotion
      wireTyping s.typing reducedMotion
      wireCommits s.commits) := by
  have hfollows := (Follows.unmoved (g := g) (k := k)).disregards
  exact (hfollows.keeps_wireBackToTop rfl fun h0 => h0.owns_button hs).bind fun _ =>
    (hfollows.keeps_wireReveal rfl (fun h0 => h0.owns_selected hs) reducedMotion).bind fun _ =>
    (hfollows.keeps_wireTyping rfl (fun h0 => h0.owns_tagline hs) reducedMotion).bind fun _ =>
    hfollows.keeps_wireCommits rfl fun h0 => h0.owns_element hs

theorem readSettings_names (h : Host) :
    (readSettings h).2 = h ∧ (readSettings h).1.1.StandardNames := by
  unfold readSettings
  rw [bind_apply, get_apply]
  cases h.body? <;> exact ⟨rfl, Settings.standardNames_ofAttributes _⟩

/-- What the visitor wishes is the same as long as the query for it is answered the same. -/
theorem wantsReducedMotion_congr {h h' : Host} (hfailures : h'.failures = h.failures)
    (hwish : h'.reducedMotion = h.reducedMotion) :
    (wantsReducedMotion h').1 = (wantsReducedMotion h).1 := by
  have hmotion : ∀ k : Host, (wantsReducedMotion k).1 =
      if (k.failures .matchMedia).isSome then false else k.reducedMotion.getD false := by
    intro k
    unfold wantsReducedMotion
    rw [bind_apply, bind_apply, get_apply]
    cases hfails : k.failures .matchMedia <;> simp [record, hfails]
  rw [hmotion, hmotion, hfailures, hwish]

/-- Enhancing a page shows the theme that its settings ask for, which disturbs no property of
    this kind, and then sets up the other features. -/
theorem leads_enhancePage {known : ThemeSettings → Prop} {owns : NodeId → Prop}
    {P Q : Host → Prop} (hp : Unthemed known owns P) (hknown : known (readSettings h).1.1.theme)
    (hlimit : ∀ level, Keeps P (limitLog level)) (hmotion : Keeps P wantsReducedMotion)
    (hfeatures : ∀ h', P h' → Q ((do
      wireBackToTop (readSettings h).1.1.backToTop
      wireReveal (readSettings h).1.1.reveal (wantsReducedMotion h).1
      wireTyping (readSettings h).1.1.typing (wantsReducedMotion h).1
      wireCommits (readSettings h).1.1.commits : HostM Unit) h').2) (h0 : P h) :
    Q (enhancePage h).2 := by
  -- the messages before the query do not change its answer
  have hlimit' : ∀ level, Keeps (fun k => P k ∧
      (wantsReducedMotion k).1 = (wantsReducedMotion h).1) (limitLog level) := by
    intro level k hk
    have hsame : (wantsReducedMotion (limitLog level k).2).1 = (wantsReducedMotion k).1 :=
      wantsReducedMotion_congr rfl rfl
    exact ⟨hlimit level k hk.1, hsame.trans hk.2⟩
  have hsay : ∀ level text, Keeps (fun k => P k ∧
      (wantsReducedMotion k).1 = (wantsReducedMotion h).1) (say level text) := by
    intro level text k hk
    obtain ⟨log, hlog⟩ := say_eq (h := k) level text
    have hsame : (wantsReducedMotion (say level text k).2).1 = (wantsReducedMotion k).1 := by
      rw [hlog]
      exact wantsReducedMotion_congr rfl rfl
    exact ⟨hp.keeps_say level text k hk.1, hsame.trans hk.2⟩
  unfold enhancePage
  rw [bind_apply, (readSettings_names h).1]
  generalize (readSettings h).1 = settings at hknown hfeatures ⊢
  obtain ⟨s, rejected⟩ := settings
  refine (hlimit' _).then (fun _ => ?_) h ⟨h0, rfl⟩
  refine (Keeps.forM fun r _ => hsay _ _).then fun _ => ?_
  rintro k ⟨hk, hsame⟩
  rw [bind_apply, hsame]
  refine (hp.keeps_wireTheme hknown).then (fun made => ?_) _ (hmotion k hk)
  cases made with
  | none => exact hfeatures
  | some i => exact (hp.keeps_wireShortcut _ i).then fun _ => hfeatures

theorem readSettings_standard (h : Host) : Standard (readSettings h).1.1.theme :=
  ⟨(readSettings_names h).2.darkClass, (readSettings_names h).2.toggle⟩

theorem keeps_arranged_enhancePage : Keeps (Arranged g) enhancePage := fun h =>
  leads_enhancePage Arranged.unthemed (readSettings_standard h)
    (fun _ => keeps_arranged fun _ => Follows.unmoved.disregards.keeps_limitLog _)
    (keeps_arranged fun _ => Follows.unmoved.disregards.keeps_wantsReducedMotion)
    (keeps_arranged fun k => keeps_follows_features (readSettings_names h).2 k _)

theorem keeps_arranged_enhance : Keeps (Arranged g) enhance := by
  refine keeps_get.bind ?_
  intro h
  split
  · exact keeps_arranged_enhancePage
  · exact keeps_pure _

theorem keeps_arranged_start : Keeps (Arranged g) start := by
  have hlater : Keeps (Arranged g) (listen .document "DOMContentLoaded" .enhance) := by
    intro h h0
    have hnoted : Arranged g (h.noted (.listen .document "DOMContentLoaded")) :=
      h0.congr rfl rfl rfl rfl rfl rfl rfl
    rw [listen_eq h0.sound]
    exact hnoted.withListener .document .enhance
  refine keeps_get.bind ?_
  intro h
  split
  · split
    · exact hlater
    · exact keeps_arranged_enhance
  · exact keeps_pure _

theorem keeps_arranged_react (e : PageEvent) (handler : Handler) :
    Keeps (Arranged g) (react e handler) := by
  cases haside : handler.isAside with
  | true => exact keeps_arranged fun k => Follows.unmoved.disregards.keeps_react rfl e haside
  | false =>
    by_cases henhance : handler = .enhance
    · rw [henhance]
      exact keeps_arranged_enhance.bind fun _ => keeps_pure _
    · exact Arranged.unthemed.keeps_react e haside henhance

theorem keeps_arranged_dispatch (target : Target) (type : String) (e : PageEvent) :
    Keeps (Arranged g) (dispatch target type e) := by
  refine Keeps.bind (fun _ h0 => h0) fun handlers => ?_
  exact (Keeps.mapM fun handler _ => keeps_arranged_react e handler).bind fun _ => keeps_pure _

end HostM

namespace Host

/-- A page on which no call fails and nothing was set up. -/
structure Pristine (g : Host) : Prop where
  sound : g.Sound
  listeners : g.listeners = []
  switches : g.switches = []
  gates : g.gates = []
  observers : g.observers = []
  tasks : g.tasks = []

/-- An arranged page whose tasks all wait for something. -/
structure Resting (g h : Host) : Prop extends Arranged g h where
  idle : ∀ t ∈ h.tasks, t.isIdle = true

theorem Pristine.resting {g : Host} (h0 : g.Pristine) : Resting g g where
  sound := h0.sound
  homes := ⟨0, by simp⟩
  targets _ := rfl
  switches := by
    rw [h0.switches]
    exact fun b hb => nomatch hb
  gates := by
    rw [h0.gates]
    exact fun b hb => nomatch hb
  observers := by
    rw [h0.observers]
    exact fun o ho => nomatch ho
  tasks := by
    rw [h0.tasks]
    exact fun t ht => nomatch ht
  listeners := by
    rw [h0.listeners]
    exact fun l hl => nomatch hl
  idle := by
    rw [h0.tasks]
    exact fun t ht => nomatch ht

end Host

namespace Session

open Host HostM

/-- What a page does by itself, and what its visitor and the network do. -/
def Step.isPage : Step → Bool
  | .start => true
  | .enhance => true
  | .ready => true
  | t => t.isVisit

theorem act_arranged {g : Host} (held : Option Nat) {t : Step} (ht : t.isPage = true) :
    Keeps (Arranged g) (act held t) := by
  cases t with
  | start => exact keeps_arranged_start.bind fun _ => keeps_pure _
  | enhance => exact keeps_arranged_enhance.bind fun _ => keeps_pure _
  | ready =>
    refine Keeps.bind (keeps_modify fun _ h0 => h0.congr rfl rfl rfl rfl rfl rfl rfl) fun _ => ?_
    exact (keeps_arranged_dispatch _ _ _).bind fun _ => keeps_pure _
  | event target type e => exact (keeps_arranged_dispatch _ _ _).bind fun _ => keeps_pure _
  | scroll offset =>
    refine Keeps.bind (keeps_modify fun _ h0 => h0.congr rfl rfl rfl rfl rfl rfl rfl) fun _ => ?_
    exact (keeps_arranged_dispatch _ _ _).bind fun _ => keeps_pure _
  | sight o batch =>
    have hsight := keeps_arranged (g := g) fun _ =>
      Follows.unmoved.disregards.keeps_sight rfl o batch
    exact hsight.bind fun _ => keeps_pure _
  | elapse ms =>
    have helapse := keeps_arranged (g := g) fun _ =>
      Follows.unmoved.disregards.keeps_elapse nofun rfl ms
    exact helapse.bind fun _ => keeps_pure _
  | respond d =>
    have hrespond := keeps_arranged (g := g) fun _ =>
      Follows.unmoved.disregards.keeps_respond rfl d
    exact hrespond.bind fun _ => keeps_pure _
  | _ => cases ht

/-- After every step of a page, it is arranged and its tasks wait. -/
theorem resting_step {g : Host} {s : Session} (h0 : Arranged g s.host) {t : Step}
    (ht : t.isPage = true) : Resting g (s.step t).2.host := by
  rw [host_step]
  have hacted := act_arranged s.held ht s.host h0
  exact ⟨keeps_arranged (fun _ => Follows.unmoved.disregards.keeps_runTasks nofun) _ hacted,
    isIdle_runTasks⟩

theorem resting_run {g : Host} {s : Session} (h0 : Resting g s.host) (steps : List Step)
    (hsteps : ∀ t ∈ steps, t.isPage = true) : Resting g (s.run steps).host := by
  induction steps generalizing s with
  | nil => exact h0
  | cons t rest ih =>
    apply ih
    · exact resting_step h0.toArranged (hsteps t List.mem_cons_self)
    · exact fun u hu => hsteps u (List.mem_cons_of_mem t hu)

end Session

end Enhance
