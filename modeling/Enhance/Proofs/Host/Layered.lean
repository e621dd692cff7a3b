/-
  Enhance/Proofs/Host/Layered.lean
  ================================
  **A page that was enhanced several times.**

  Every enhancement makes another switch.  All of them share the body, the store
  and one control, which the first one finds or makes; clicks on it go to one of
  them only, for the control says that it is bound.  Keys go to all of them.
-/
import Enhance.Proofs.Host.Account
import Enhance.Proofs.Host.Arranged
import Enhance.Proofs.Settings.Independence

namespace Enhance

namespace Host

variable {g h h' : Host} {settings : Settings} {s : ThemeSettings} {c times i : Nat}
  {click keys : List Handler} {bound : Bool} {v : ThemeView} {f : Node → Node}

/-! ### Settings -/

/-- The settings are read off a few attributes of the body. -/
theorem settings_congr (hsame : ∀ a : Attribute,
    (h'.nodeAt 0).attributes.get? a.name = (h.nodeAt 0).attributes.get? a.name) :
    h'.settings = h.settings := by
  unfold Host.settings
  rw [Settings.ofAttributes_congr fun a => congrArg presentValue? (hsame a)]

theorem settings_edit (hf : ∀ n : Node, ∀ a : Attribute,
    (f n).attributes.get? a.name = n.attributes.get? a.name) :
    (h.edit i f).settings = h.settings := by
  apply settings_congr
  intro a
  exact nodeAt_edit_induction
    (P := fun n => n.attributes.get? a.name = (h.nodeAt 0).attributes.get? a.name) rfl
    fun _ => hf _ a

/-- No feature writes an attribute that settings are read off. -/
theorem name_ne (a : Attribute) :
    a.name ≠ "class" ∧ a.name ≠ "aria-label" ∧ a.name ≠ "title" ∧
      a.name ≠ HostM.boundAttribute := by
  cases a <;> decide

theorem get?_bear (o : Offer) (n : Node) {name : String} (hlabel : name ≠ "aria-label")
    (htitle : name ≠ "title") : (n.bear o).attributes.get? name = n.attributes.get? name := by
  unfold Node.bear
  rw [Node.get?_setAttribute, if_neg htitle, Node.get?_setAttribute, if_neg hlabel]
  rfl

theorem settings_bear (o : Offer) : (h.edit i (Node.bear o)).settings = h.settings :=
  settings_edit fun n a => get?_bear o n (name_ne a).2.1 (name_ne a).2.2.1

theorem settings_mark (name : String) (present : Bool) :
    (h.edit i fun n => n.putClass name present).settings = h.settings :=
  settings_edit fun _ a => Node.get?_putClass_of_ne (name_ne a).1

theorem settings_provided (hbody : 0 < h.nodes.length) :
    (h.provided s).settings = h.settings := by
  apply settings_congr
  intro a
  cases hfound : h.byId? s.toggleId with
  | some found => rw [provided_of_some hfound]
  | none => rw [provided_of_none hfound, nodeAt_append_of_lt rfl hbody]

/-! ### Places -/

theorem samePlace_bear (o : Offer) (n : Node) : Node.SamePlace n (n.bear o) where
  attached := rfl
  id := by
    rw [Node.id?, Node.id?, get?_bear o n (by decide) (by decide)]

/-- More elements after the others leave the body where it is. -/
theorem body?_append {l : List (Bool × Option String)} (hhomes : h'.homes = h.homes ++ l)
    (hbody : h.body? = some 0) : h'.body? = some 0 := by
  obtain ⟨n, rest, hnodes⟩ := List.exists_cons_of_length_pos (length_pos_of_body? hbody)
  have hattached : n.attached = true := by
    unfold body? at hbody
    rw [hnodes] at hbody
    by_cases hn : n.attached = true
    · exact hn
    · simp [hn] at hbody
  unfold homes at hhomes
  rw [hnodes, List.map_cons, List.cons_append] at hhomes
  cases hnodes' : h'.nodes with
  | nil =>
    rw [hnodes'] at hhomes
    cases hhomes
  | cons n' rest' =>
    rw [hnodes', List.map_cons] at hhomes
    have hhome : n'.home = n.home := (List.cons.inj hhomes).1
    have hattached' : n'.attached = true := (congrArg Prod.fst hhome).trans hattached
    unfold body?
    rw [hnodes']
    simp [hattached']

/-- The places that a switch adds to a page when it looks for its control. -/
def addedHomes (h : Host) : List (Bool × Option String) :=
  if (h.byId? "dark-mode-toggle").isSome then [] else [controlHome]

theorem addedHomes_congr (hhomes : h'.homes = h.homes) : h'.addedHomes = h.addedHomes := by
  rw [addedHomes, addedHomes, byId?_congr hhomes]

theorem addedHomes_of_some (hc : h.byId? "dark-mode-toggle" = some c) : h.addedHomes = [] := by
  rw [addedHomes, hc]
  rfl

theorem homes_provided (htoggle : s.toggleId = "dark-mode-toggle") :
    (h.provided s).homes = h.homes ++ h.addedHomes := by
  unfold addedHomes
  cases hfound : h.byId? "dark-mode-toggle" with
  | some found =>
    rw [provided_of_some (htoggle ▸ hfound)]
    simp
  | none =>
    rw [provided_of_none (htoggle ▸ hfound)]
    show (h.nodes ++ [_]).map Node.home = h.nodes.map Node.home ++ [controlHome]
    rw [List.map_append, List.map_singleton, htoggle, HostM.home_newControl]

theorem homes_dressed (t : Theme) : (h.dressed s c t).homes = h.homes := by
  unfold dressed
  rw [homes_edit fun n => n.samePlace_putClass, homes_edit (samePlace_bear t.offer)]

theorem settings_dressed (t : Theme) : (h.dressed s c t).settings = h.settings := by
  unfold dressed
  rw [settings_mark, settings_bear]

/-! ### Layers -/

/-- A page that looked like `g` before anything was set up, and was enhanced so many times by
    these settings.  Clicks on the control `c` and keys go to these handlers. -/
structure Layered (g : Host) (settings : Settings) (c times : Nat) (click keys : List Handler)
    (bound : Bool) (v : ThemeView) (h : Host) : Prop where
  arranged : Arranged g h
  listens : Listens c click keys h
  window : h.hasWindow = true
  document : h.hasDocument = true
  body : h.body? = some 0
  store : h.storage.isSome = true
  chosen : h.settings = settings
  places : h.homes ++ h.addedHomes = g.homes ++ g.addedHomes
  control : (h.byId? settings.theme.toggleId).getD h.nodes.length = c
  found : 0 < times → h.byId? settings.theme.toggleId = some c
  view : h.themeView settings.theme = v
  held : h.switches = List.replicate times ⟨settings.theme, true, some c⟩
  bound : (h.nodeAt c).attributes.contains HostM.boundAttribute = bound

namespace Layered

theorem names (h0 : Layered g settings c times click keys bound v h) :
    settings.StandardNames := by
  rw [← h0.chosen]
  exact Settings.standardNames_ofAttributes _

/-- Each of the switches shows the theme. -/
theorem wired (h0 : Layered g settings c times click keys bound v h) (hi : i < times) :
    h.Wired settings.theme i c click keys v where
  sound := h0.arranged.sound
  body := length_pos_of_body? h0.body
  store := h0.store
  held := by
    rw [h0.held, List.getElem?_replicate, if_pos hi]
  view := h0.view
  control := h0.found (Nat.lt_of_le_of_lt (Nat.zero_le i) hi)
  toListens := h0.listens

theorem dark_eq (h0 : Layered g settings c times click keys bound v h) :
    (h.nodeAt 0).hasClass settings.theme.darkClass = v.dark := by
  rw [← h0.view]
  rfl

variable {click' keys' : List Handler} {bound' : Bool} {v' : ThemeView}

/-- A change that leaves every element in its place and every switch as it is. -/
theorem change (h0 : Layered g settings c times click keys bound v h) (harranged : Arranged g h')
    (hlistens : Listens c click' keys' h') (hwindow : h'.hasWindow = h.hasWindow)
    (hdocument : h'.hasDocument = h.hasDocument) (hhomes : h'.homes = h.homes)
    (hstore : h'.storage.isSome = true) (hchosen : h'.settings = h.settings)
    (hview : h'.themeView settings.theme = v') (hheld : h'.switches = h.switches)
    (hbound : (h'.nodeAt c).attributes.contains HostM.boundAttribute = bound') :
    Layered g settings c times click' keys' bound' v' h' where
  arranged := harranged
  listens := hlistens
  window := hwindow.trans h0.window
  document := hdocument.trans h0.document
  body := (body?_congr hhomes).trans h0.body
  store := hstore
  chosen := hchosen.trans h0.chosen
  places := by
    rw [hhomes, addedHomes_congr hhomes]
    exact h0.places
  control := by
    rw [byId?_congr hhomes, length_of_homes hhomes]
    exact h0.control
  found := fun htimes => (byId?_congr hhomes).trans (h0.found htimes)
  view := hview
  held := hheld.trans h0.held
  bound := hbound

/-- Other messages and effects that made no element. -/
theorem remarked (h0 : Layered g settings c times click keys bound v h) {log : List Log.Entry}
    {logLimit : Option Log.Level} {trace : List Call}
    (htrace : trace.countP Call.isCreation = h.trace.countP Call.isCreation) :
    Layered g settings c times click keys bound v { h with log, logLimit, trace } := by
  apply h0.change
  · exact h0.arranged.congr rfl rfl rfl rfl rfl rfl rfl
  · exact h0.listens.congr rfl rfl
  · rfl
  · rfl
  · rfl
  · exact h0.store
  · rfl
  · have hview : ({ h with log, logLimit, trace } : Host).themeView settings.theme =
        h.themeView settings.theme := themeView_congr rfl rfl htrace
    exact hview.trans h0.view
  · rfl
  · exact h0.bound

/-- What the other features do adds no layer. -/
theorem follow (h0 : Layered g settings c times click keys bound v h)
    (hfollows : Follows g h h') (hwired : h'.Wired settings.theme i c click' keys' v') :
    Layered g settings c times click' keys' bound v' h' := by
  apply h0.change
  · exact hfollows.toArranged
  · exact hwired.toListens
  · exact hfollows.window
  · exact hfollows.document
  · exact hfollows.inPlace
  · exact hwired.store
  · exact settings_congr fun a => hfollows.attributes 0 _ (name_ne a).1
  · exact hwired.view
  · exact hfollows.switched
  · rw [Table.contains, hfollows.attributes c _ (by decide)]
    exact h0.bound

/-- Nothing was set up yet. -/
theorem of_pristine (hg : g.Pristine) (hwindow : g.hasWindow = true)
    (hdocument : g.hasDocument = true) (hbody : g.body? = some 0)
    (hstore : g.storage.isSome = true) :
    Layered g g.settings ((g.byId? g.settings.theme.toggleId).getD g.nodes.length) 0 [] []
      ((g.nodeAt ((g.byId? g.settings.theme.toggleId).getD g.nodes.length)).attributes.contains
        HostM.boundAttribute) (g.themeView g.settings.theme) g where
  arranged := hg.resting.toArranged
  listens := Listens.of_idle hg.listeners hg.tasks
  window := hwindow
  document := hdocument
  body := hbody
  store := hstore
  chosen := rfl
  places := rfl
  control := rfl
  found := fun htimes => absurd htimes (Nat.lt_irrefl 0)
  view := rfl
  held := hg.switches
  bound := rfl

end Layered

end Host

namespace HostM

open Host

variable {g h : Host} {settings : Settings} {c times i : Nat} {click keys : List Handler}
  {bound : Bool} {v : ThemeView}

/-! ### The theme, once more -/

/-- A start adds the control if there was none, and moves nothing. -/
theorem homes_startTheme {s : ThemeSettings} (hdark : Node.IsToken s.darkClass)
    (htoggle : s.toggleId = "dark-mode-toggle") (h0 : h.OpensTheme s i c v) :
    (operate Surface.start i h).2.homes = h.homes ++ h.addedHomes := by
  obtain ⟨log, trace, hstart⟩ := operate_start_eq hdark h0
  rw [hstart]
  show ((h.provided s).dressed s c _).homes = _
  rw [homes_dressed, homes_provided htoggle]

theorem settings_startTheme {s : ThemeSettings} (hdark : Node.IsToken s.darkClass)
    (h0 : h.OpensTheme s i c v) : (operate Surface.start i h).2.settings = h.settings := by
  obtain ⟨log, trace, hstart⟩ := operate_start_eq hdark h0
  rw [hstart]
  show ((h.provided s).dressed s c _).settings = _
  rw [settings_dressed, settings_provided h0.body]

/-- The page with a switch more, which has not started. -/
def withSwitch (s : ThemeSettings) (h : Host) : Host :=
  { h with switches := h.switches ++ [⟨s, true, none⟩] }

theorem opensTheme_withSwitch (h0 : Layered g settings c times click keys bound v h) :
    (withSwitch settings.theme h).OpensTheme settings.theme times c v where
  sound := h0.arranged.sound
  body := length_pos_of_body? h0.body
  store := h0.store
  held := by
    have hnumber : h.switches.length = times := by
      rw [h0.held, List.length_replicate]
    rw [← hnumber]
    exact List.getElem?_concat_length
  view := h0.view
  control := h0.control

theorem makeSwitch_layered (h0 : Layered g settings c times click keys bound v h) :
    makeSwitch settings.theme h = (times, withSwitch settings.theme h) := by
  rw [makeSwitch_eq h0.arranged.sound h0.window h0.store, h0.held, List.length_replicate,
    ← h0.held]
  rfl

/-- Another switch finds the control that there is, or makes it, and shows what the store
    asks for. -/
theorem startTheme_layered (h0 : Layered g settings c times click keys bound v h) :
    let h' := (operate Surface.start times (withSwitch settings.theme h)).2
    Layered g settings c (times + 1) click keys bound (v.start settings.theme) h' ∧
      h'.storage = h.storage := by
  have hnames := h0.names
  have hopens := opensTheme_withSwitch h0
  have hmade := Arranged.unthemed.keeps_makeSwitch ⟨hnames.darkClass, hnames.toggle⟩ h h0.arranged
  rw [makeSwitch_layered h0] at hmade
  obtain ⟨hshows, hwork⟩ := operate_start hnames.isToken_darkClass hnames.toggleId_ne_empty hopens
  obtain ⟨log, trace, hstart⟩ := operate_start_eq hnames.isToken_darkClass hopens
  have hhomes := homes_startTheme hnames.isToken_darkClass hnames.toggle hopens
  have hsettings := settings_startTheme hnames.isToken_darkClass hopens
  intro h'
  have hfound : h'.byId? "dark-mode-toggle" = some c := hnames.toggle ▸ hshows.control
  have hheld : h'.switches = List.replicate (times + 1) ⟨settings.theme, true, some c⟩ := by
    show (operate _ _ _).2.switches = _
    have hlast := modify_concat h.switches ⟨settings.theme, true, none⟩
      fun b => { b with control := some c }
    rw [h0.held, List.length_replicate] at hlast
    rw [hstart, List.replicate_succ', ← hlast, ← h0.held]
    rfl
  refine ⟨?_, ?_⟩
  · constructor
    · exact Arranged.unthemed.keeps_startTheme times _ hmade
    · exact h0.listens.congr hwork.listeners hwork.tasks
    · show (operate _ _ _).2.hasWindow = true
      rw [hstart]
      exact h0.window
    · show (operate _ _ _).2.hasDocument = true
      rw [hstart]
      exact h0.document
    · exact body?_append hhomes h0.body
    · exact hshows.store
    · exact hsettings.trans h0.chosen
    · rw [addedHomes_of_some hfound, List.append_nil]
      exact hhomes.trans h0.places
    · rw [hshows.control]
      rfl
    · exact fun _ => hshows.control
    · exact hshows.view
    · exact hheld
    · rw [Table.contains, hwork.bound]
      exact h0.bound
  · show (operate _ _ _).2.storage = _
    rw [hstart]
    rfl

/-- Clicks on a control are listened for once. -/
theorem bindControl_layered (h0 : Layered g settings c times click keys bound v h)
    (hi : i < times) :
    Layered g settings c times (click ++ if bound then [] else [.flip i]) keys true v
      (bindControl i h).2 ∧ (bindControl i h).2.storage = h.storage := by
  have hshows : h.ShowsTheme settings.theme i c v := (h0.wired hi).toShowsTheme
  have harranged := Arranged.unthemed.keeps_bindControl i h h0.arranged
  have hsame := h0.bound
  rw [bindControl_eq hshows.sound hshows.held rfl] at harranged ⊢
  cases bound with
  | true =>
    rw [if_pos hsame, if_pos rfl, List.append_nil]
    exact ⟨h0, rfl⟩
  | false =>
    have hfree : ¬ (h.nodeAt c).attributes.contains boundAttribute = true := by
      rw [hsame]
      exact Bool.false_ne_true
    rw [if_neg hfree] at harranged ⊢
    rw [if_neg Bool.false_ne_true]
    refine ⟨?_, rfl⟩
    have hplace : ∀ n : Node, Node.Alike settings.theme.darkClass n
        (n.setAttribute boundAttribute "") := fun n =>
      n.alike_setAttribute _ _ (by decide) (by decide)
    apply h0.change harranged
    · exact (h0.listens.withClick (.flip i)).congr rfl rfl
    · rfl
    · rfl
    · exact homes_edit fun n => (hplace n).toSamePlace
    · exact h0.store
    · exact settings_edit (h := h) fun n a => Table.get?_insert_of_ne _ (name_ne a).2.2.2 _
    · rw [← (edit_bound_showsTheme hshows).view]
      apply themeView_congr
      · rfl
      · rfl
      · simp [Host.edit, Call.isCreation]
    · rfl
    · have hnode : (h.edit c fun n => n.setAttribute boundAttribute "").nodeAt c =
          (h.nodeAt c).setAttribute boundAttribute "" :=
        nodeAt_edit_self (lt_of_byId? hshows.control)
      show ((h.edit c fun n => n.setAttribute boundAttribute "").nodeAt c).attributes.contains _ = _
      rw [hnode, Table.contains, Node.get?_setAttribute, if_pos rfl]
      rfl

theorem wireTheme_layered (h0 : Layered g settings c times click keys bound v h) :
    ∃ h', wireTheme settings.theme h = (some times, h') ∧
      Layered g settings c (times + 1) (click ++ if bound then [] else [.flip times]) keys true
        (v.start settings.theme) h' ∧
      h'.storage = h.storage := by
  obtain ⟨hstart, hstorage⟩ := startTheme_layered h0
  obtain ⟨hbind, hsame⟩ := bindControl_layered hstart (Nat.lt_succ_self times)
  refine ⟨_, ?_, hbind, hsame.trans hstorage⟩
  unfold wireTheme
  rw [bind_apply, get_apply, h0.body]
  dsimp only
  rw [bind_apply, makeSwitch_layered h0]
  rfl

theorem wireShortcut_layered (h0 : Layered g settings c times click keys bound v h)
    (hi : i < times) (chord : Chord) :
    Layered g settings c times click (keys ++ [.shortcut chord i]) bound v
      (wireShortcut chord i h).2 ∧ (wireShortcut chord i h).2.storage = h.storage := by
  have hwired := wireShortcut_wired (h0.wired hi) chord i
  have harranged := Arranged.unthemed.keeps_wireShortcut chord i h h0.arranged
  unfold wireShortcut at hwired harranged ⊢
  rw [listen_eq h0.arranged.sound] at hwired harranged ⊢
  refine ⟨?_, rfl⟩
  apply h0.change harranged
  · exact hwired.toListens
  · rfl
  · rfl
  · rfl
  · exact h0.store
  · rfl
  · exact hwired.view
  · rfl
  · exact h0.bound

/-! ### Everything, once more -/

/-- One enhancement more. -/
theorem enhancePage_layered (h0 : Layered g settings c times click keys bound v h) :
    Layered g settings c (times + 1) (click ++ if bound then [] else [.flip times])
        (keys ++ [.shortcut settings.shortcut times]) true (v.start settings.theme)
        (enhancePage h).2 ∧
      (enhancePage h).2.storage = h.storage := by
  obtain ⟨reducedMotion, h', ⟨log, logLimit, trace, htrace, rfl⟩, heq⟩ := enhancePage_eq h0.body
  rw [h0.chosen] at heq
  obtain ⟨h1, hwire, htheme, hstorage1⟩ := wireTheme_layered (h0.remarked htrace)
  obtain ⟨hkeys, hstorage2⟩ := wireShortcut_layered htheme (Nat.lt_succ_self times)
    settings.shortcut
  -- the other features find the theme wired, and leave it alone
  have hwired := keeps_wired_features h0.names reducedMotion _ (hkeys.wired (Nat.lt_succ_self times))
  have hfollows := keeps_follows_features h0.names _ reducedMotion _ hkeys.arranged.follows
  rw [heq times h1 hwire]
  exact ⟨hkeys.follow hfollows hwired, (hfollows.stored.trans hstorage2).trans hstorage1⟩

end HostM

namespace Session

open Host HostM

variable {g : Host} {settings : Settings} {c times : Nat} {click keys : List Handler}
  {bound : Bool} {v : ThemeView} {s : Session}

/-- The pass of the tasks after a step adds no layer. -/
theorem layered_of_act {t : Step} (htimes : 0 < times)
    (h0 : Layered g settings c times click keys bound v (act s.held t s.host).2) :
    Layered g settings c times click keys bound v (s.step t).2.host ∧
      (s.step t).2.host.storage = (act s.held t s.host).2.storage := by
  have hwired := (Wired.unmoved h0.names.darkClass_ne_visibleClass).disregards.keeps_runTasks nofun _
    (h0.wired htimes)
  have hfollows := Follows.unmoved.disregards.keeps_runTasks nofun _ h0.arranged.follows
  rw [host_step]
  exact ⟨h0.follow hfollows hwired, hfollows.stored⟩

theorem layered_step_enhance (h0 : Layered g settings c times click keys bound v s.host) :
    Layered g settings c (times + 1) (click ++ if bound then [] else [.flip times])
        (keys ++ [.shortcut settings.shortcut times]) true (v.start settings.theme)
        (s.step .enhance).2.host ∧
      (s.step .enhance).2.host.storage = s.host.storage := by
  obtain ⟨hpage, hstorage⟩ := enhancePage_layered h0
  have hact : (act s.held .enhance s.host).2 = (enhancePage s.host).2 := by
    show (HostM.enhance s.host).2 = _
    unfold HostM.enhance
    simp [h0.window, h0.document]
  rw [← hact] at hpage hstorage
  obtain ⟨hstep, hsame⟩ := layered_of_act (Nat.succ_pos times) hpage
  exact ⟨hstep, hsame.trans hstorage⟩

end Session

end Enhance
