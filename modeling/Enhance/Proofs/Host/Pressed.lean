/-
  Enhance/Proofs/Host/Pressed.lean
  ================================
  **A key flips the theme, or does nothing at all.**

  A page that was enhanced once, with a store or without, listens for keys in
  one place.  A keystroke that is the chord does there what one flip does, and
  its default is prevented; any other event leaves the page as it is, to the
  last entry of its log (`keydown_run`).
-/
import Enhance.Proofs.Host.Again
import Enhance.Proofs.Shortcut.Firing

namespace Enhance

/-! ### Which events are the chord -/

namespace PageEvent

/-- The event happened in an element that takes what is typed. -/
def IntoField (e : PageEvent) (h : Host) : Prop :=
  ∃ i, e.source = some i ∧ (h.nodeAt i).isHtml = true ∧
    ((h.nodeAt i).isEditable = true ∨ (h.nodeAt i).tagName ∈ ["INPUT", "TEXTAREA", "SELECT"])

/-- The event is the chord, pressed once and not into a field. -/
structure Strikes (chord : Chord) (e : PageEvent) (h : Host) : Prop where
  keyboard : e.isKeyboard = true
  once : e.repeated = false
  elsewhere : ¬ e.IntoField h
  modifiers : e.modifiers = chord.modifiers
  key : e.code = chord.code ∨ ∃ k, e.key.toList = [k] ∧ k.toLower = chord.key.toLower

end PageEvent

namespace HostM

open Host

theorem inEditable_keystroke (e : PageEvent) (h : Host) :
    (keystroke e h).1.inEditable = true ↔ e.IntoField h := by
  unfold keystroke PageEvent.IntoField
  cases e.source with
  | none => simp
  | some i =>
    simp only [bind_apply, pure_apply, node_apply, Option.some.injEq, exists_eq_left',
      Node.isField, Bool.and_eq_true, Bool.or_eq_true]
    exact and_congr Iff.rfl (or_congr Iff.rfl decide_eq_true_iff)

theorem strikes_iff {chord : Chord} (hlower : chord.key.toLower = chord.key) (e : PageEvent)
    (h : Host) : strikes chord e h = true ↔ e.Strikes chord h := by
  have hstroke : (keystroke e h).1 =
      ⟨e.key, e.code, e.modifiers, e.repeated, (keystroke e h).1.inEditable⟩ := by
    unfold keystroke
    cases e.source <;> rfl
  rw [strikes, hstroke]
  simp only [Chord.matched, Bool.and_eq_true, Bool.not_eq_true', Bool.or_eq_true, beq_iff_eq,
    decide_eq_true_eq, Chord.isKey_iff hlower]
  rw [← Bool.not_eq_true (keystroke e h).1.inEditable, inEditable_keystroke]
  constructor
  · rintro ⟨hkeyboard, ⟨⟨honce, helsewhere⟩, hmodifiers⟩, hkey⟩
    exact ⟨hkeyboard, honce, helsewhere, hmodifiers, hkey⟩
  · rintro ⟨hkeyboard, honce, helsewhere, hmodifiers, hkey⟩
    exact ⟨hkeyboard, ⟨⟨honce, helsewhere⟩, hmodifiers⟩, hkey⟩

end HostM

theorem Host.toLower_shortcut (h : Host) :
    h.settings.shortcut.key.toLower = h.settings.shortcut.key := by
  unfold settings
  rcases Settings.shortcut_ofAttributes (h.nodeAt 0).attributes.get? with hstandard | ⟨s, hread⟩
  · rw [hstandard]
    decide
  · obtain ⟨names, key, -, -, -, -, halnum, hkey⟩ := Chord.parse_eq_ok_iff.mp hread
    rw [hkey]
    exact (toLower_of_isAlphanum halnum).2.2

/-! ### A page that listens for keys -/

namespace Host

/-- A page on which no call fails, and whose first switch uses the store if there is one and
    knows its control `c`.  Keys go to these handlers, and nothing else has to do with the theme
    but clicks that flip it. -/
structure Keyed (settings : Settings) (c : NodeId) (keys : List Handler) (h : Host) : Prop where
  sound : h.Sound
  held : h.switches[0]? = some ⟨settings.theme, h.storage.isSome, some c⟩
  control : h.byId? settings.theme.toggleId = some c
  keys : h.handlers .document "keydown" = keys
  others : ∀ l ∈ h.listeners, l.handler.isAside = true ∨ l.handler = .flip 0 ∨
    l.handler = .shortcut settings.shortcut 0

variable {settings : Settings} {c : NodeId} {keys : List Handler} {h h' : Host}

namespace Keyed

theorem congr (h0 : h.Keyed settings c keys) (hfailures : h'.failures = h.failures)
    (hswitches : h'.switches = h.switches) (hstore : h'.storage.isSome = h.storage.isSome)
    (hhomes : h'.homes = h.homes) (hlisteners : h'.listeners = h.listeners) :
    h'.Keyed settings c keys where
  sound := by
    rw [Sound, hfailures]
    exact h0.sound
  held := by
    rw [hswitches, hstore]
    exact h0.held
  control := (byId?_congr hhomes).trans h0.control
  keys := by
    rw [Host.handlers, hlisteners]
    exact h0.keys
  others := by
    rw [hlisteners]
    exact h0.others

/-- One listener more, which is not for keys. -/
theorem withListener (h0 : h.Keyed settings c keys) {l : Listener}
    (hother : l.handler.isAside = true ∨ l.handler = .flip 0)
    (hkeys : ¬ (l.target = .document ∧ l.type = "keydown")) :
    ({ h with listeners := h.listeners ++ [l] } : Host).Keyed settings c keys where
  sound := h0.sound
  held := h0.held
  control := h0.control
  keys := by
    rw [← h0.keys]
    simp [handlers, List.filter_append, hkeys]
  others := by
    intro m hm
    rcases List.mem_append.mp hm with hm | hm
    · exact h0.others m hm
    · rw [List.mem_singleton.mp hm]
      exact hother.imp_right .inl

theorem edit (h0 : h.Keyed settings c keys) {j : NodeId} {f : Node → Node}
    (hf : ∀ n, Node.SamePlace n (f n)) : (h.edit j f).Keyed settings c keys :=
  h0.congr rfl rfl rfl (homes_edit hf) rfl

/-- The other features take no notice of keys. -/
theorem unmoved : Unmoved (fun _ _ => True) (Keyed settings c keys) where
  log h0 := h0.congr rfl rfl rfl rfl rfl
  logLimit h0 := h0.congr rfl rfl rfl rfl rfl
  noted _ h0 := h0.congr rfl rfl rfl rfl rfl
  clock h0 := h0.congr rfl rfl rfl rfl rfl
  scrollY h0 := h0.congr rfl rfl rfl rfl rfl
  visible h0 := h0.edit fun n => n.samePlace_putClass
  style h0 := h0.edit fun _ => ⟨rfl, rfl⟩
  text _ h0 := h0.edit fun _ => ⟨rfl, rfl⟩
  gate _ h0 := h0.congr rfl rfl rfl rfl rfl
  moved h0 := h0.congr rfl rfl rfl rfl rfl
  observer h0 := h0.congr rfl rfl rfl rfl rfl
  watched _ h0 := h0.congr rfl rfl rfl rfl rfl
  tasks _ h0 := h0.congr rfl rfl rfl rfl rfl
  writes _ _ _ := trivial
  follow h0 := h0.withListener (.inl rfl) fun h => nomatch h.1
  scrollUp _ h0 := h0.withListener (.inl rfl) fun h => nomatch h.1

end Keyed

theorem byId?_provided {s : ThemeSettings} (hid : s.toggleId ≠ "") :
    (h.provided s).byId? s.toggleId = some ((h.byId? s.toggleId).getD h.nodes.length) := by
  cases hfound : h.byId? s.toggleId with
  | some found =>
    rw [provided_of_some hfound]
    exact hfound
  | none =>
    rw [provided_of_none hfound]
    exact byId?_append rfl hid hfound rfl (HostM.id?_newControl hid)

/-- The page after a flip: the theme marked and drawn, and stored if there is a store. -/
def flipped (s : ThemeSettings) (c : NodeId) (t : Theme) (h : Host) : Host :=
  { h.redrawn s c t with
    storage := h.storage.map fun entries => entries.insert s.storageKey t.text
    trace := h.trace ++
      (flipCalls s c t).filter fun call => h.storage.isSome || !call.isWrite }

theorem Keyed.flipped (h0 : h.Keyed settings c keys) (t : Theme) :
    (h.flipped settings.theme c t).Keyed settings c keys := by
  have hredrawn := (h0.edit (j := 0) (f := fun n => n.putClass settings.theme.darkClass t.isDark)
    fun n => n.samePlace_putClass).edit (j := c) (f := Node.bear t.offer) (samePlace_bear _)
  exact hredrawn.congr rfl rfl Option.isSome_map rfl rfl

end Host

namespace HostM

open Host

variable {settings : Settings} {c i : Nat} {keys : List Handler} {h : Host} {s : ThemeSettings}

/-! ### The switch, with a store or without -/

/-- A theme is stored if there is a store, and otherwise that is remarked. -/
theorem save_eq (hs : h.Sound) {b : BodySwitch} (hi : h.switches[i]? = some b)
    (hstore : b.hasStore = h.storage.isSome) (t : Theme) :
    ∃ log, (surface i).save s t h = ((),
      { h with
        storage := h.storage.map fun entries => entries.insert s.storageKey t.text
        trace := h.trace ++ if h.storage.isSome then [.setItem s.storageKey t.text] else []
        log }) := by
  unfold Surface.save
  cases hstorage : h.storage with
  | some entries =>
    rw [hstorage] at hstore
    refine ⟨h.log, ?_⟩
    rw [bind_apply, write_eq hs hi hstore, hstorage]
    rfl
  | none =>
    rw [hstorage] at hstore
    obtain ⟨log, hlog⟩ := say_eq (h := h) .warn
      ("theme preference not saved: " ++ StorageFault.unavailable.message)
    refine ⟨log, ?_⟩
    rw [bind_apply, write_unavailable hi hstore]
    show say _ _ h = _
    rw [hlog]
    simp [hstorage]

/-- A flip of the switch of a page, to the letter. -/
theorem flipTheme_keyed (hdark : Node.IsToken settings.theme.darkClass)
    (h0 : h.Keyed settings c keys) {next : Theme}
    (hnext : (Theme.ofDark ((h.nodeAt 0).hasClass settings.theme.darkClass)).opposite = next) :
    ∃ log, flipTheme 0 h = (next, { h.flipped settings.theme c next with log }) := by
  have hs : (h.redrawn settings.theme c next).Sound := h0.sound
  obtain ⟨log, hsave⟩ := save_eq (s := settings.theme) hs h0.held rfl next
  refine ⟨log, flipTheme_of_save h0.sound h0.held rfl hdark hnext (hsave.trans ?_)⟩
  -- storing is the last call of a flip, and the only one that needs a store
  have hcalls : ∀ stored : Bool,
      redrawCalls settings.theme c next ++
        (if stored then [Call.setItem settings.theme.storageKey next.text] else []) =
      (flipCalls settings.theme c next).filter fun call => stored || !call.isWrite := by
    intro stored
    cases stored <;> cases next <;> rfl
  rw [flipped, ← hcalls, ← List.append_assoc]
  rfl

/-! ### Setting up -/

/-- A switch that is made first notes whether there is a store. -/
theorem makeSwitch_first (hs : h.Sound) (hwindow : h.hasWindow = true)
    (hswitches : h.switches = []) :
    ∃ log, makeSwitch s h = (0, { h with switches := [⟨s, h.storage.isSome, none⟩], log }) := by
  have hfind : findStore h = (h.storage.isSome, h) := by
    rw [findStore_eq hs, hwindow, Bool.true_and]
  unfold makeSwitch
  rw [bind_apply, hfind]
  dsimp only
  split
  · obtain ⟨log, hlog⟩ := say_eq (h := h) .warn
      "localStorage unavailable; theme changes will not persist"
    refine ⟨log, ?_⟩
    rw [bind_apply, hlog, modifyGet_apply, hswitches]
    rfl
  · refine ⟨h.log, ?_⟩
    rw [modifyGet_apply, hswitches]
    rfl

/-- With a store or without, some theme is preferred, and the page is as before. -/
theorem exists_preference_eq (hs : h.Sound) {b : BodySwitch} (hi : h.switches[i]? = some b) :
    ∃ theme log trace, (surface i).preference s h = (theme, { h with log, trace }) := by
  unfold Surface.preference
  cases hstore : b.hasStore with
  | true =>
    obtain ⟨log, hsettle⟩ := settle_eq (s := s) (i := i) (h := h.noted (.getItem s.storageKey))
      (h.storage.bind fun entries => entries.get? s.storageKey)
    refine ⟨s.settled (.ok (h.storage.bind fun entries => entries.get? s.storageKey)), log,
      h.trace ++ [.getItem s.storageKey], ?_⟩
    rw [bind_apply, read_eq hs hi hstore]
    exact hsettle
  | false =>
    obtain ⟨log, hlog⟩ := say_eq (h := h) .warn
      ("theme preference unreadable: " ++ StorageFault.unavailable.message)
    refine ⟨s.fallback, log, h.trace, ?_⟩
    rw [bind_apply, read_unavailable hi hstore]
    show (s.fallback, (say _ _ h).2) = _
    rw [hlog]

theorem wireTheme_keyed (hdark : Node.IsToken settings.theme.darkClass)
    (hid : settings.theme.toggleId ≠ "") (hs : h.Sound) (hwindow : h.hasWindow = true)
    (hbody : h.body? = some 0) (hswitches : h.switches = []) (hlisteners : h.listeners = []) :
    ∃ c h', wireTheme settings.theme h = (some 0, h') ∧ h'.Keyed settings c [] := by
  obtain ⟨log0, hmake⟩ := makeSwitch_first (s := settings.theme) hs hwindow hswitches
  obtain ⟨h1, hh1⟩ : ∃ h1, h1 = ({ h with
      switches := [⟨settings.theme, h.storage.isSome, none⟩], log := log0 } : Host) := ⟨_, rfl⟩
  rw [← hh1] at hmake
  have hs1 : h1.Sound := by
    rw [hh1]
    exact hs
  have hi1 : h1.switches[0]? = some ⟨settings.theme, h.storage.isSome, none⟩ := by
    rw [hh1]
    rfl
  have hstore1 : h.storage.isSome = h1.storage.isSome := by rw [hh1]
  obtain ⟨theme, log1, trace1, hpreference⟩ := exists_preference_eq (s := settings.theme) hs1 hi1
  obtain ⟨log2, trace2, hstart⟩ :=
    operate_start_of_preference hs1 hi1 rfl hdark rfl hpreference
  obtain ⟨c, hc⟩ : ∃ c, (h1.byId? settings.theme.toggleId).getD h1.nodes.length = c := ⟨_, rfl⟩
  rw [hc] at hstart
  refine ⟨c, (bindControl 0 (operate Surface.start 0 h1).2).2, ?_, ?_⟩
  · unfold wireTheme
    rw [bind_apply, get_apply, hbody]
    dsimp only
    rw [bind_apply, hmake]
    rfl
  · have hstarted : (operate Surface.start 0 h1).2.Keyed settings c [] := by
      rw [hstart]
      refine ⟨hs1, ?_, ?_, ?_, ?_⟩
      · show (h1.switches.modify 0 _)[0]? = _
        rw [List.getElem?_modify_eq, hi1, hstore1]
        rfl
      · show ((h1.provided settings.theme).dressed settings.theme _ theme).byId?
          settings.theme.toggleId = _
        rw [byId?_congr (homes_dressed theme), byId?_provided hid, hc]
      · show (h1.listeners.filter _).map _ = _
        rw [hh1]
        show (h.listeners.filter _).map _ = _
        rw [hlisteners]
        rfl
      · show ∀ l ∈ h1.listeners, _
        rw [hh1]
        show ∀ l ∈ h.listeners, _
        rw [hlisteners]
        exact fun l hl => nomatch hl
    rw [bindControl_eq hstarted.sound hstarted.held rfl]
    split
    · exact hstarted
    · have halike : ∀ n : Node, Node.Alike settings.theme.darkClass n
          (n.setAttribute boundAttribute "") := fun n =>
        n.alike_setAttribute _ _ (by decide) (by decide)
      have hbound := (hstarted.edit (j := c) fun n => (halike n).toSamePlace).withListener
        (l := ⟨.node c, "click", .flip 0⟩) (.inr rfl) fun h => nomatch h.1
      exact hbound.congr rfl rfl rfl rfl rfl

theorem wireShortcut_keyed (h0 : h.Keyed settings c []) :
    (wireShortcut settings.shortcut 0 h).2.Keyed settings c [.shortcut settings.shortcut 0] := by
  unfold wireShortcut
  rw [listen_eq h0.sound]
  refine ⟨h0.sound, h0.held, h0.control, ?_, ?_⟩
  · show ((h.listeners ++ [_]).filter _).map _ = _
    rw [List.filter_append, List.map_append]
    exact congrArg (· ++ [Handler.shortcut settings.shortcut 0]) h0.keys
  · intro l hl
    rcases List.mem_append.mp hl with hl | hl
    · exact h0.others l hl
    · rw [List.mem_singleton.mp hl]
      exact .inr (.inr rfl)

/-- A page that was enhanced listens for keys. -/
theorem enhancePage_keyed (hs : h.Sound) (hwindow : h.hasWindow = true) (hbody : h.body? = some 0)
    (hswitches : h.switches = []) (hlisteners : h.listeners = []) :
    ∃ c, (enhancePage h).2.Keyed h.settings c [.shortcut h.settings.shortcut 0] := by
  have hnames : h.settings.StandardNames := Settings.standardNames_ofAttributes _
  obtain ⟨reducedMotion, h', ⟨log, logLimit, trace, -, rfl⟩, heq⟩ := enhancePage_eq hbody
  obtain ⟨c, h1, hwire, hkeyed⟩ := wireTheme_keyed (h := { h with log, logLimit, trace })
    hnames.isToken_darkClass hnames.toggleId_ne_empty hs
    hwindow hbody hswitches hlisteners
  refine ⟨c, ?_⟩
  rw [heq 0 h1 hwire]
  have hunmoved : Unmoved _ (Keyed h.settings c [.shortcut h.settings.shortcut 0]) := Keyed.unmoved
  have hfeatures : Keeps (Keyed h.settings c [.shortcut h.settings.shortcut 0]) (do
      wireBackToTop h.settings.backToTop
      wireReveal h.settings.reveal reducedMotion
      wireTyping h.settings.typing reducedMotion
      wireCommits h.settings.commits) :=
    (hunmoved.disregards.keeps_wireBackToTop rfl fun _ _ => trivial).bind fun _ =>
    (hunmoved.disregards.keeps_wireReveal rfl (fun _ _ _ => trivial) reducedMotion).bind fun _ =>
    (hunmoved.disregards.keeps_wireTyping rfl (fun _ _ => trivial) reducedMotion).bind fun _ =>
    hunmoved.disregards.keeps_wireCommits rfl fun _ _ => trivial
  exact hfeatures _ (wireShortcut_keyed hkeyed)

/-! ### Events -/

/-- A keystroke that is the chord is a flip and a message, and its default is prevented. -/
theorem react_strikes {chord : Chord} {e : PageEvent} (hstrikes : strikes chord e h = true) :
    ∃ log, react e (.shortcut chord i) h = (true, { (flipTheme i h).2 with log }) := by
  obtain ⟨log, hlog⟩ := react_struck (i := i) hstrikes
  refine ⟨log, Prod.ext ?_ hlog⟩
  rw [strikes, Bool.and_eq_true] at hstrikes
  obtain ⟨hkeyboard, hmatched⟩ := hstrikes
  rw [react, if_neg (not_not_intro hkeyboard), bind_apply, keystroke_snd, if_pos hmatched]
  rfl

/-- Any other event is none of the chord's business. -/
theorem react_misses {chord : Chord} {e : PageEvent} (hmisses : ¬ strikes chord e h = true) :
    react e (.shortcut chord i) h = (false, h) := by
  rw [react]
  by_cases hkeyboard : e.isKeyboard = true
  · have hmatched : ¬ chord.matched (keystroke e h).1 = true := by
      rwa [strikes, hkeyboard, Bool.true_and] at hmisses
    rw [if_neg (not_not_intro hkeyboard), bind_apply, keystroke_snd, if_neg hmatched]
    rfl
  · rw [if_pos hkeyboard]
    rfl

theorem keeps_keyed_flipTheme (hdark : Node.IsToken settings.theme.darkClass) :
    Keeps (Keyed settings c keys) (flipTheme 0) := by
  intro h h0
  obtain ⟨log, hflip⟩ := flipTheme_keyed hdark h0 rfl
  rw [hflip]
  exact (h0.flipped _).congr rfl rfl rfl rfl rfl

/-- Where nothing is listened for but by the first switch and the features beside the theme, any
    event keeps what they keep. -/
theorem keeps_dispatch_of_flip {owns : Feature → NodeId → Prop} {P : Host → Prop} {chord : Chord}
    (hp : Unmoved owns P) (hflip : Keeps P (flipTheme 0))
    (hothers : ∀ {h}, P h → ∀ l ∈ h.listeners, l.handler.isAside = true ∨ l.handler = .flip 0 ∨
      l.handler = .shortcut chord 0) (target : Target) (type : String) (e : PageEvent) :
    Keeps P (dispatch target type e) := by
  intro h h0
  unfold dispatch
  rw [bind_apply, handlersFor_eq]
  refine ((Keeps.mapM ?_).bind fun _ => keeps_pure _) h h0
  intro handler hhandler
  obtain ⟨l, hl, rfl⟩ := List.mem_map.mp hhandler
  rcases hothers h0 l (List.mem_filter.mp hl).1 with haside | hclick | hkey
  · exact hp.disregards.keeps_react rfl e haside
  · rw [hclick]
    exact hflip.bind fun _ => keeps_pure _
  · rw [hkey]
    intro h1 h1kept
    by_cases hstrikes : strikes chord e h1 = true
    · obtain ⟨log, hreact⟩ := react_strikes (i := 0) hstrikes
      rw [hreact]
      exact hp.log (hflip h1 h1kept)
    · rw [react_misses hstrikes]
      exact h1kept

theorem keeps_keyed_dispatch (hdark : Node.IsToken settings.theme.darkClass) (target : Target)
    (type : String) (e : PageEvent) : Keeps (Keyed settings c keys) (dispatch target type e) :=
  keeps_dispatch_of_flip Keyed.unmoved (keeps_keyed_flipTheme hdark) (fun h0 => h0.others) target
    type e

end HostM

namespace Session

open Host HostM

variable {settings : Settings} {c : Nat} {keys : List Handler} {s : Session}

/-! ### Runs -/

/-- What every event keeps, and the features beside the theme, a visit keeps. -/
theorem keeps_visit {owns : Feature → NodeId → Prop} {P : Host → Prop} (hp : Unmoved owns P)
    (hdispatch : ∀ target type e, Keeps P (dispatch target type e)) (held : Option Nat) {t : Step}
    (ht : t.isVisit = true) : Keeps P (act held t) := by
  cases t with
  | event target type e => exact (hdispatch target type e).bind fun _ => keeps_pure _
  | scroll offset =>
    refine Keeps.bind (keeps_modify fun _ h0 => hp.scrollY h0) fun _ => ?_
    exact (hdispatch .window "scroll" {}).bind fun _ => keeps_pure _
  | sight o batch => exact (hp.disregards.keeps_sight rfl o batch).bind fun _ => keeps_pure _
  | elapse ms => exact (hp.disregards.keeps_elapse nofun rfl ms).bind fun _ => keeps_pure _
  | respond d => exact (hp.disregards.keeps_respond rfl d).bind fun _ => keeps_pure _
  | _ => cases ht

theorem keyed_step (hdark : Node.IsToken settings.theme.darkClass) {t : Step}
    (ht : t.isVisit = true) (h0 : s.host.Keyed settings c keys) :
    (s.step t).2.host.Keyed settings c keys := by
  have hunmoved : Unmoved _ (Keyed settings c keys) := Keyed.unmoved
  rw [host_step]
  apply hunmoved.disregards.keeps_runTasks nofun
  exact keeps_visit hunmoved (keeps_keyed_dispatch hdark) s.held ht s.host h0

theorem keyed_run (hdark : Node.IsToken settings.theme.darkClass)
    (h0 : s.host.Keyed settings c keys) (steps : List Step)
    (hsteps : ∀ t ∈ steps, t.isVisit = true) : (s.run steps).host.Keyed settings c keys := by
  induction steps generalizing s with
  | nil => exact h0
  | cons t rest ih =>
    apply ih
    · exact keyed_step hdark (hsteps t List.mem_cons_self) h0
    · exact fun u hu => hsteps u (List.mem_cons_of_mem t hu)

/-- A page that is enhanced and visited listens for keys, and its tasks wait. -/
theorem keyed_enhanced (h0 : s.host.Pristine) (hwindow : s.host.hasWindow = true)
    (hdocument : s.host.hasDocument = true) (hbody : s.host.body? = some 0) (steps : List Step)
    (hsteps : ∀ t ∈ steps, t.isVisit = true) :
    ∃ c, (s.run (.enhance :: steps)).host.Keyed s.host.settings c
        [.shortcut s.host.settings.shortcut 0] ∧
      ∀ t ∈ (s.run (.enhance :: steps)).host.tasks, t.isIdle = true := by
  have hnames : s.host.settings.StandardNames := Settings.standardNames_ofAttributes _
  obtain ⟨c, hpage⟩ := enhancePage_keyed h0.sound hwindow hbody h0.switches h0.listeners
  have hact : (act s.held .enhance s.host).2 = (enhancePage s.host).2 := by
    show (HostM.enhance s.host).2 = _
    unfold HostM.enhance
    simp [hwindow, hdocument]
  have hstep : (s.step .enhance).2.host.Keyed s.host.settings c
      [.shortcut s.host.settings.shortcut 0] := by
    rw [host_step, hact]
    exact Keyed.unmoved.disregards.keeps_runTasks nofun _ hpage
  refine ⟨c, keyed_run hnames.isToken_darkClass hstep steps hsteps, ?_⟩
  refine (resting_run h0.resting (.enhance :: steps) ?_).idle
  intro t ht
  rcases List.mem_cons.mp ht with rfl | ht
  · rfl
  · have hvisit := hsteps t ht
    cases t with
    | start => rfl
    | enhance => rfl
    | ready => rfl
    | _ => exact hvisit

/-- **A key flips the theme, or does nothing.**  A page with a body is enhanced and visited in
    any way, and then a key goes down.  If the event is the chord, pressed once and not into a
    field, its default is prevented, and the page is as after one flip, but for a message: the
    other theme is marked on the body, drawn on the control, and stored if there is a store.  If
    it is anything else, its default is not prevented and nothing changes at all. -/
theorem keydown_run (h0 : s.host.Pristine) (hwindow : s.host.hasWindow = true)
    (hdocument : s.host.hasDocument = true) (hbody : s.host.body? = some 0) (steps : List Step)
    (hsteps : ∀ t ∈ steps, t.isVisit = true) (e : PageEvent) :
    let theme := s.host.settings.theme
    let chord := s.host.settings.shortcut
    let before := s.run (.enhance :: steps)
    let pressed := before.step (.event .document "keydown" e)
    let next := (Theme.ofDark ((before.host.nodeAt 0).hasClass theme.darkClass)).opposite
    (e.Strikes chord before.host →
      pressed.1 = .dispatched ⟨1, true⟩ ∧
      (∃ log, pressed.2 = { before with host := { (flipTheme 0 before.host).2 with log } }) ∧
      ∃ c, before.host.byId? theme.toggleId = some c ∧
        pressed.2.host.nodes =
          (before.host.nodes.modify 0 fun n => n.putClass theme.darkClass next.isDark).modify c
            (Node.bear next.offer) ∧
        pressed.2.host.storage =
          before.host.storage.map fun entries => entries.insert theme.storageKey next.text) ∧
    (¬ e.Strikes chord before.host → pressed = (.dispatched ⟨1, false⟩, before)) := by
  intro theme chord before pressed next
  have hnames : s.host.settings.StandardNames := Settings.standardNames_ofAttributes _
  obtain ⟨c, hkeyed, hidle⟩ := keyed_enhanced h0 hwindow hdocument hbody steps hsteps
  have hact : ∀ {prevented h}, react e (.shortcut chord 0) before.host = (prevented, h) →
      act before.held (.event .document "keydown" e) before.host =
        (.dispatched ⟨1, prevented⟩, h) := by
    intro prevented h hreact
    show send .document "keydown" e before.host = _
    unfold send dispatch
    rw [bind_apply, bind_apply, handlersFor_eq, hkeyed.keys, bind_apply, List.mapM_cons,
      bind_apply, hreact]
    cases prevented <;> rfl
  rw [← strikes_iff s.host.toLower_shortcut]
  constructor
  · intro hstrikes
    obtain ⟨log1, hreact⟩ := react_strikes (i := 0) hstrikes
    obtain ⟨log2, hflip⟩ := flipTheme_keyed hnames.isToken_darkClass hkeyed
      (rfl : _ = next)
    have hpressed : pressed = (.dispatched ⟨1, true⟩,
        { before with host := { (flipTheme 0 before.host).2 with log := log1 } }) := by
      refine step_eq_of_act (hact hreact) ?_
      rw [hflip]
      exact hidle
    rw [hpressed]
    refine ⟨rfl, ⟨log1, rfl⟩, c, hkeyed.control, ?_, ?_⟩
    · rw [hflip]
      rfl
    · rw [hflip]
      rfl
  · intro hmisses
    exact step_eq_of_act (hact (react_misses hmisses)) hidle

/-- The chord over a drawing, in capitals and without a place on the keyboard, and the same key
    held down, on a page without a store. -/
theorem keydown_run_drawing :
    let page : Host :=
      { nodes := [{ tag := "body" }, { tag := "svg", isHtml := false }], storage := none }
    let chord : PageEvent :=
      { isKeyboard := true, key := "D", modifiers := { alt := true, shift := true },
        source := some 1 }
    let before := ({ host := page } : Session).run [.enhance, .elapse 100]
    let pressed := before.step (.event .document "keydown" chord)
    (page.Pristine ∧ page.body? = some 0 ∧ chord.Strikes page.settings.shortcut before.host) ∧
      pressed.1 = .dispatched ⟨1, true⟩ ∧ (pressed.2.host.nodeAt 0).hasClass "dark-mode" = true ∧
      before.step (.event .document "keydown" { chord with repeated := true }) =
        (.dispatched ⟨1, false⟩, before) := by
  intro page chord before pressed
  have hpristine : page.Pristine := ⟨fun _ => rfl, rfl, rfl, rfl, rfl, rfl⟩
  have hbody : page.body? = some 0 := by decide +kernel
  have hvisit : ∀ t ∈ [Step.elapse 100], t.isVisit = true := by decide
  have hstrikes : chord.Strikes page.settings.shortcut before.host := by
    refine ⟨rfl, rfl, ?_, by decide +kernel, .inr ⟨'D', by decide +kernel, by decide +kernel⟩⟩
    rintro ⟨i, ⟨⟩, hhtml, -⟩
    have hdrawing : (before.host.nodeAt 1).isHtml = false := by decide +kernel
    exact Bool.false_ne_true (hdrawing.symm.trans hhtml)
  obtain ⟨hdown, -⟩ := keydown_run (s := { host := page }) hpristine rfl rfl hbody _ hvisit chord
  obtain ⟨-, hheld⟩ := keydown_run (s := { host := page }) hpristine rfl rfl hbody _ hvisit
    { chord with repeated := true }
  exact ⟨⟨hpristine, hbody, hstrikes⟩, (hdown hstrikes).1, by decide +kernel,
    hheld fun h => absurd h.once (by decide)⟩

end Session

end Enhance
