/-
  Enhance/Proofs/Host/Opening.lean
  ================================
  **Enhancing a page that was not enhanced before leaves it wired,** with the
  theme shown that a start shows.

  The settings come off the body and are settled before anything is wired.
  The theme comes first and finds nothing else at work; the features after it
  work on elements of their own, since no two of them share an id.
-/
import Enhance.Proofs.Host.Wired
import Enhance.Proofs.Settings.Names

namespace Enhance

namespace Settings.StandardNames

variable {s : Settings}

theorem isToken_darkClass (h : s.StandardNames) : Node.IsToken s.theme.darkClass := by
  rw [h.darkClass]
  exact Node.isToken_of_any (by decide) (by decide)

theorem darkClass_ne_visibleClass (h : s.StandardNames) : s.theme.darkClass ≠ visibleClass := by
  rw [h.darkClass]
  decide

theorem toggleId_ne_empty (h : s.StandardNames) : s.theme.toggleId ≠ "" := by
  rw [h.toggle]
  decide

end Settings.StandardNames

namespace Host

/-- The settings that the body asks for. -/
def settings (h : Host) : Settings := (Settings.ofAttributes (h.nodeAt 0).attributes.get?).1

/-- A page with a body and a store, on which no call fails and nothing was set
    up. -/
structure Fresh (h : Host) : Prop where
  window : h.hasWindow = true
  document : h.hasDocument = true
  body : h.body? = some 0
  store : h.storage.isSome = true
  sound : h.Sound
  listeners : h.listeners = []
  switches : h.switches = []
  tasks : h.tasks = []
  trace : h.trace = []

/-- A page whose theme is not wired yet: its control is or will be `c`, clicks
    on which are not listened for. -/
structure Unwired (s : ThemeSettings) (c : NodeId) (v : ThemeView) (h : Host) : Prop where
  window : h.hasWindow = true
  body : h.body? = some 0
  store : h.storage.isSome = true
  sound : h.Sound
  listeners : h.listeners = []
  switches : h.switches = []
  tasks : h.tasks = []
  control : (h.byId? s.toggleId).getD h.nodes.length = c
  unbound : (h.nodeAt c).attributes.get? HostM.boundAttribute = none
  view : h.themeView s = v

variable {s : ThemeSettings} {c : NodeId} {v : ThemeView} {h h' : Host}

theorem length_pos_of_body? {b : NodeId} (hb : h.body? = some b) : 0 < h.nodes.length := by
  unfold body? at hb
  cases hnodes : h.nodes with
  | nil =>
    rw [hnodes] at hb
    cases hb
  | cons n rest => exact Nat.succ_pos _

theorem Fresh.unwired (h0 : h.Fresh)
    (hbound : ∀ c, h.byId? s.toggleId = some c →
      (h.nodeAt c).attributes.get? HostM.boundAttribute = none) :
    h.Unwired s ((h.byId? s.toggleId).getD h.nodes.length) (h.themeView s) where
  window := h0.window
  body := h0.body
  store := h0.store
  sound := h0.sound
  listeners := h0.listeners
  switches := h0.switches
  tasks := h0.tasks
  control := rfl
  unbound := by
    cases hc : h.byId? s.toggleId with
    | some c => exact hbound c hc
    | none =>
      -- the node that will be the control is not there yet
      rw [Option.getD_none, nodeAt, List.getElem?_eq_none (Nat.le_refl _)]
      rfl
  view := rfl

theorem Unwired.congr (h0 : h.Unwired s c v) (hwindow : h'.hasWindow = h.hasWindow)
    (hsame : SameSwitch h h') (hlisteners : h'.listeners = h.listeners)
    (htasks : h'.tasks = h.tasks) : h'.Unwired s c v where
  window := hwindow.trans h0.window
  body := by
    rw [body?, hsame.nodes]
    exact h0.body
  store := by
    rw [hsame.storage]
    exact h0.store
  sound := by
    rw [Sound, hsame.failures]
    exact h0.sound
  listeners := hlisteners.trans h0.listeners
  switches := hsame.switches.trans h0.switches
  tasks := htasks.trans h0.tasks
  control := by
    rw [byId?, hsame.nodes]
    exact h0.control
  unbound := by
    rw [nodeAt, hsame.nodes]
    exact h0.unbound
  view := by
    rw [themeView_congr hsame.nodes hsame.storage hsame.created]
    exact h0.view

end Host

namespace HostM

open Host

variable {s : ThemeSettings} {c : NodeId} {v : ThemeView} {h : Host}

/-! ### Before anything is wired -/

theorem readSettings_eq (hbody : h.body? = some 0) :
    readSettings h = (Settings.ofAttributes (h.nodeAt 0).attributes.get?, h) := by
  unfold readSettings
  rw [bind_apply, get_apply, hbody]
  rfl

/-- The settings depend on the body only. -/
theorem readSettings_congr {h' : Host} (hbody : h'.body? = h.body?)
    (hsame : h'.nodeAt 0 = h.nodeAt 0) : (readSettings h').1 = (readSettings h).1 := by
  unfold readSettings
  rw [bind_apply, get_apply, bind_apply, get_apply, hbody]
  cases hfound : h.body? with
  | none => rfl
  | some i =>
    obtain rfl := eq_zero_of_body? hfound
    exact congrArg (fun n : Node => Settings.ofAttributes n.attributes.get?) hsame

/-- A page on which there were only other messages and effects that made no element. -/
def Remarked (k h : Host) : Prop :=
  ∃ log logLimit trace, trace.countP Call.isCreation = k.trace.countP Call.isCreation ∧
    h = { k with log, logLimit, trace }

section Remarks

variable {k : Host}

theorem keeps_remarked_say (level : Log.Level) (text : String) :
    Keeps (Remarked k) (say level text) := by
  rintro h ⟨log, logLimit, trace, htrace, rfl⟩
  obtain ⟨log', hlog⟩ := say_eq (h := { k with log, logLimit, trace }) level text
  rw [hlog]
  exact ⟨log', logLimit, trace, htrace, rfl⟩

theorem keeps_remarked_limitLog (level : Log.Level) : Keeps (Remarked k) (limitLog level) := by
  rintro h ⟨log, logLimit, trace, htrace, rfl⟩
  exact ⟨log, _, trace, htrace, rfl⟩

theorem keeps_remarked_wantsReducedMotion : Keeps (Remarked k) wantsReducedMotion := by
  refine Keeps.bind ?_ fun _ => keeps_get.bind fun h => by split <;> exact keeps_pure _
  rintro h ⟨log, logLimit, trace, htrace, rfl⟩
  refine ⟨log, logLimit, trace ++ [_], ?_, rfl⟩
  rw [List.countP_append, htrace]
  rfl

end Remarks

/-- The settings are settled before anything is wired, and all that follows goes by them. -/
theorem enhancePage_eq (hbody : h.body? = some 0) :
    ∃ reducedMotion h', Remarked h h' ∧ ∀ i h'', wireTheme h.settings.theme h' = (some i, h'') →
      enhancePage h = (do
        wireShortcut h.settings.shortcut i
        wireBackToTop h.settings.backToTop
        wireReveal h.settings.reveal reducedMotion
        wireTyping h.settings.typing reducedMotion
        wireCommits h.settings.commits) h'' := by
  obtain ⟨settings, rejected, hsettled⟩ : ∃ settings rejected,
      Settings.ofAttributes (h.nodeAt 0).attributes.get? = (settings, rejected) := ⟨_, _, rfl⟩
  have hsettings : h.settings = settings := congrArg Prod.fst hsettled
  obtain ⟨h1, hh1⟩ : ∃ h1, (rejected.forM (fun r =>
      say .warn ("page config attribute ignored, keeping its default: " ++ r.message))
      (limitLog settings.logLevel h).2).2 = h1 := ⟨_, rfl⟩
  have hlimited := keeps_remarked_limitLog (k := h) settings.logLevel h
    ⟨h.log, h.logLimit, h.trace, rfl, rfl⟩
  have hwarned : Remarked h h1 := by
    rw [← hh1]
    exact Keeps.forM (fun r _ => keeps_remarked_say _ _) _ hlimited
  refine ⟨(wantsReducedMotion h1).1, (wantsReducedMotion h1).2,
    keeps_remarked_wantsReducedMotion h1 hwarned, ?_⟩
  intro i h'' hwire
  rw [hsettings] at hwire ⊢
  unfold enhancePage
  rw [bind_apply, readSettings_eq hbody, hsettled]
  dsimp only
  rw [bind_apply, bind_apply, hh1, bind_apply, bind_apply, hwire]

/-! ### The theme -/

theorem makeSwitch_eq (hs : h.Sound) (hwindow : h.hasWindow = true)
    (hstore : h.storage.isSome = true) :
    makeSwitch s h =
      (h.switches.length, { h with switches := h.switches ++ [⟨s, true, none⟩] }) := by
  have hfind : findStore h = (true, h) := by
    rw [findStore_eq hs, hwindow, hstore]
    rfl
  unfold makeSwitch
  rw [bind_apply, hfind]
  rfl

theorem makeSwitch_opensTheme (h0 : h.Unwired s c v) :
    (makeSwitch s h).1 = 0 ∧ (makeSwitch s h).2.OpensTheme s 0 c v ∧
      SameWork h (makeSwitch s h).2 := by
  rw [makeSwitch_eq h0.sound h0.window h0.store, h0.switches]
  refine ⟨rfl, ⟨⟨h0.sound, length_pos_of_body? h0.body, h0.store, rfl, h0.view⟩, h0.control⟩, ?_⟩
  exact ⟨rfl, rfl, fun _ => rfl⟩

theorem operate_start (hdark : Node.IsToken s.darkClass) (hid : s.toggleId ≠ "") {i : Nat}
    (h0 : h.OpensTheme s i c v) :
    (operate Surface.start i h).2.ShowsTheme s i c (v.start s) ∧
      SameWork h (operate Surface.start i h).2 := by
  unfold operate
  rw [bind_apply, switch_eq h0.held]
  exact ⟨((surface_realizes hdark hid).start h0).2,
    (SameWork.unflipped.surface i).start s h (.refl h)⟩

theorem operate_flip (hdark : Node.IsToken s.darkClass) (hid : s.toggleId ≠ "") {i : Nat}
    (h0 : h.ShowsTheme s i c v) :
    (flipTheme i h).1 = v.turned ∧ (flipTheme i h).2.ShowsTheme s i c v.flip ∧
      SameWork h (flipTheme i h).2 := by
  unfold flipTheme operate
  rw [bind_apply, switch_eq h0.held]
  obtain ⟨htheme, hshows⟩ := (surface_realizes (c := c) hdark hid).flip h0
  exact ⟨htheme, hshows, (SameWork.unflipped.surface i).flip s h (.refl h)⟩

theorem bindControl_eq (hs : h.Sound) {i : Nat} {b : BodySwitch} (hi : h.switches[i]? = some b)
    (hc : b.control = some c) :
    bindControl i h = ((),
      if (h.nodeAt c).attributes.contains boundAttribute then h
      else { h.edit c (fun n => n.setAttribute boundAttribute "") with
        trace := h.trace ++ [.setAttribute c boundAttribute "", .listen (.node c) "click"]
        listeners := h.listeners ++ [⟨.node c, "click", .flip i⟩] }) := by
  unfold bindControl
  rw [bind_apply, switch_eq hi]
  simp only [hc]
  rw [bind_apply, node_apply]
  dsimp only
  split
  · rfl
  · have hsedit : ((h.noted (.setAttribute c boundAttribute "")).edit c
        fun n => n.setAttribute boundAttribute "").Sound := hs
    rw [bind_apply, tryAttribute_eq hs, listen_eq hsedit]
    simp [Host.edit, Host.noted]

/-- The note on a control that it is bound is not seen. -/
theorem edit_bound_showsTheme {i : Nat} (h0 : h.ShowsTheme s i c v) :
    (h.edit c fun n => n.setAttribute boundAttribute "").ShowsTheme s i c v :=
  h0.edit (fun n => n.alike_setAttribute _ _ (by decide) (by decide)) fun _ n =>
    ⟨rfl, Table.get?_insert_of_ne _ (by decide) _, Table.get?_insert_of_ne _ (by decide) _⟩

/-- On a page without listeners, clicks on an unbound control are listened
    for. -/
theorem bindControl_wired {i : Nat} (h0 : h.ShowsTheme s i c v) (hlisteners : h.listeners = [])
    (htasks : h.tasks = []) (hbound : (h.nodeAt c).attributes.get? boundAttribute = none) :
    (bindControl i h).2.Wired s i c [.flip i] [] v := by
  have hcontains : ¬ (h.nodeAt c).attributes.contains boundAttribute = true := by
    rw [Table.contains, hbound]
    exact Bool.false_ne_true
  rw [bindControl_eq h0.sound h0.held rfl, if_neg hcontains]
  constructor
  · refine (edit_bound_showsTheme h0).congr ⟨rfl, rfl, rfl, rfl, ?_⟩
    simp [Host.edit, Call.isCreation]
  · exact (Listens.of_idle hlisteners htasks).withClick (.flip i) |>.congr rfl rfl

theorem wireTheme_wired (hdark : Node.IsToken s.darkClass) (hid : s.toggleId ≠ "")
    (h0 : h.Unwired s c v) :
    (wireTheme s h).1 = some 0 ∧
      (wireTheme s h).2.Wired s 0 c [.flip 0] [] (v.start s) := by
  obtain ⟨hnumber, hopens, hmade⟩ := makeSwitch_opensTheme h0
  obtain ⟨hshows, hstarted⟩ := operate_start hdark hid hopens
  unfold wireTheme
  rw [bind_apply, get_apply, h0.body]
  simp only [bind_apply, pure_apply, hnumber]
  refine ⟨trivial, bindControl_wired hshows ?_ ?_ ?_⟩
  · rw [hstarted.listeners, hmade.listeners]
    exact h0.listeners
  · rw [hstarted.tasks, hmade.tasks]
    exact h0.tasks
  · rw [hstarted.bound, hmade.bound]
    exact h0.unbound

section Features

variable {i : Nat} {click keys : List Handler}

theorem wireShortcut_wired (h0 : h.Wired s i c click keys v) (chord : Chord) (j : Nat) :
    (wireShortcut chord j h).2.Wired s i c click (keys ++ [.shortcut chord j]) v := by
  unfold wireShortcut
  rw [listen_eq h0.sound]
  constructor
  · exact (h0.toShowsTheme.noted (.listen .document "keydown") rfl).congr ⟨rfl, rfl, rfl, rfl, rfl⟩
  · exact (h0.toListens.withKey _).congr rfl rfl

theorem ne_of_byId? (h0 : h.Wired s i c click keys v) {id : String} {j : NodeId}
    (hid : id ≠ s.toggleId) (hj : h.byId? id = some j) : j ≠ c := by
  rintro rfl
  exact hid (eq_of_byId? hj h0.control)

/-- The other features find nodes of their own, and the switch does not notice them. -/
theorem keeps_wired_features {settings : Settings} (hnames : settings.StandardNames)
    (reducedMotion : Bool) :
    Keeps (Wired settings.theme i c click keys v) (do
      wireBackToTop settings.backToTop
      wireReveal settings.reveal reducedMotion
      wireTyping settings.typing reducedMotion
      wireCommits settings.commits) := by
  have hunmoved : Unmoved _ (Wired settings.theme i c click keys v) :=
    Wired.unmoved hnames.darkClass_ne_visibleClass
  refine (hunmoved.disregards.keeps_wireBackToTop rfl ?_).bind fun _ =>
    (hunmoved.disregards.keeps_wireReveal rfl ?_ _).bind fun _ =>
    (hunmoved.disregards.keeps_wireTyping rfl ?_ _).bind fun _ =>
    hunmoved.disregards.keeps_wireCommits rfl ?_
  · intro h j h0 hj _
    apply ne_of_byId? h0 _ hj
    rw [hnames.backToTop, hnames.toggle]
    decide
  · intro h sel j _ _ _ hreveal
    exact absurd rfl hreveal
  · intro h j h0 hj _
    apply ne_of_byId? h0 _ hj
    rw [hnames.typing, hnames.toggle]
    decide
  · intro h j h0 hj _
    apply ne_of_byId? h0 _ hj
    rw [hnames.commits, hnames.toggle]
    decide

end Features

/-! ### Everything -/

/-- Enhancing a fresh page shows the preferred theme and wires it. -/
theorem enhancePage_wired (h0 : h.Fresh)
    (hbound : ∀ c, h.byId? h.settings.theme.toggleId = some c →
      (h.nodeAt c).attributes.get? boundAttribute = none) :
    ∃ c, (enhancePage h).2.Wired h.settings.theme 0 c [.flip 0] [.shortcut h.settings.shortcut 0]
      ((h.themeView h.settings.theme).start h.settings.theme) := by
  have hnames : h.settings.StandardNames := Settings.standardNames_ofAttributes _
  refine ⟨(h.byId? h.settings.theme.toggleId).getD h.nodes.length, ?_⟩
  obtain ⟨reducedMotion, h', ⟨log, logLimit, trace, htrace, rfl⟩, heq⟩ := enhancePage_eq h0.body
  have hunwired : ({ h with log, logLimit, trace } : Host).Unwired h.settings.theme _ _ :=
    (h0.unwired hbound).congr rfl ⟨rfl, rfl, rfl, rfl, htrace⟩ rfl rfl
  obtain ⟨hnumber, hwired⟩ := wireTheme_wired hnames.isToken_darkClass hnames.toggleId_ne_empty
    hunwired
  rw [heq 0 _ (Prod.ext hnumber rfl)]
  exact keeps_wired_features hnames _ _ (wireShortcut_wired hwired h.settings.shortcut 0)

end HostM

end Enhance
