/-
  Enhance/Proofs/Host/Account.lean
  ================================
  **What a switch does to a page, to the letter.**

  As long as no call fails, a flip turns the marker round, draws on the control
  and stores the theme, each once.  A start looks at the store and never writes
  it; it draws and marks, and knows the control from then on.
-/
import Enhance.Proofs.Host.Mirror

namespace Enhance

/-- A control with an offer drawn on it. -/
def Node.bear (o : Offer) (n : Node) : Node :=
  ((n.setMarkup o.html).setAttribute "aria-label" o.label).setAttribute "title" o.label

namespace Host

variable {s : ThemeSettings} {i c : Nat} {v : ThemeView} {h : Host}

/-- The calls of a flip to a theme. -/
def flipCalls (s : ThemeSettings) (c : NodeId) (t : Theme) : List Call :=
  [if t.isDark then .addClass 0 s.darkClass else .removeClass 0 s.darkClass,
    .setMarkup c t.offer.html, .setAttribute c "aria-label" t.offer.label,
    .setAttribute c "title" t.offer.label, .setItem s.storageKey t.text]

/-- The calls of a flip before the theme is stored. -/
def redrawCalls (s : ThemeSettings) (c : NodeId) (t : Theme) : List Call :=
  [if t.isDark then .addClass 0 s.darkClass else .removeClass 0 s.darkClass,
    .setMarkup c t.offer.html, .setAttribute c "aria-label" t.offer.label,
    .setAttribute c "title" t.offer.label]

/-- The page after a flip, before the theme is stored. -/
def redrawn (s : ThemeSettings) (c : NodeId) (t : Theme) (h : Host) : Host :=
  { (h.edit 0 fun n => n.putClass s.darkClass t.isDark).edit c (Node.bear t.offer) with
    trace := h.trace ++ redrawCalls s c t }

/-- The page with a theme drawn on the control and marked on the body. -/
def dressed (s : ThemeSettings) (c : NodeId) (t : Theme) (h : Host) : Host :=
  (h.edit c (Node.bear t.offer)).edit 0 fun n => n.putClass s.darkClass t.isDark

/-- The page with the control that a switch finds or makes. -/
def provided (s : ThemeSettings) (h : Host) : Host :=
  { h with
    nodes := h.nodes ++
      if (h.byId? s.toggleId).isSome then [] else [HostM.newControl s.toggleId] }

theorem provided_of_some (hc : h.byId? s.toggleId = some c) : h.provided s = h := by
  unfold provided
  rw [hc]
  simp

theorem provided_of_none (hc : h.byId? s.toggleId = none) :
    h.provided s = { h with nodes := h.nodes ++ [HostM.newControl s.toggleId] } := by
  unfold provided
  rw [hc]
  rfl

end Host

namespace HostM

open Host

variable {s : ThemeSettings} {i c : Nat} {v : ThemeView} {h : Host} {b : BodySwitch}

theorem renderControl_eq (hs : h.Sound) (hi : h.switches[i]? = some b) (hc : b.control = some c)
    (o : Offer) :
    (surface i).renderControl o h =
      ((), { h.edit c (Node.bear o) with
        trace := h.trace ++ [.setMarkup c o.html, .setAttribute c "aria-label" o.label,
          .setAttribute c "title" o.label] }) := by
  show renderControl i o h = _
  unfold renderControl
  rw [bind_apply, switch_eq hi]
  simp only [hc]
  -- one host after each call
  obtain ⟨h1, hmarkup, hh1⟩ : ∃ h1, setMarkup c o.html h = ((), h1) ∧
      h1 = (h.noted (.setMarkup c o.html)).edit c fun n => n.setMarkup o.html := ⟨_, rfl, rfl⟩
  have hs1 : h1.Sound := by
    rw [hh1]
    exact hs
  obtain ⟨h2, hlabel, hh2⟩ : ∃ h2, tryAttribute c "aria-label" o.label h1 = ((), h2) ∧
      h2 = (h1.noted (.setAttribute c "aria-label" o.label)).edit c
        fun n => n.setAttribute "aria-label" o.label := ⟨_, tryAttribute_eq hs1 _ _, rfl⟩
  have hs2 : h2.Sound := by
    rw [hh2]
    exact hs1
  have hnodes : ((h.nodes.modify c fun n => n.setMarkup o.html).modify c
      fun n => n.setAttribute "aria-label" o.label).modify c
        (fun n => n.setAttribute "title" o.label) = h.nodes.modify c (Node.bear o) := by
    rw [List.modify_modify_eq, List.modify_modify_eq]
    rfl
  rw [bind_apply, hmarkup, bind_apply, hlabel, tryAttribute_eq hs2, hh2, hh1]
  simp [Host.edit, Host.noted, hnodes]

theorem setDark_of_classList (hclass : h.failures .classList = none)
    (hi : h.switches[i]? = some b) (hdark : Node.IsToken b.settings.darkClass) (dark : Bool) :
    (surface i).setDark dark h =
      ((), (h.noted (if dark then .addClass 0 b.settings.darkClass
        else .removeClass 0 b.settings.darkClass)).edit 0
          fun n => n.putClass b.settings.darkClass dark) := by
  show (do markClass 0 (← switch i).settings.darkClass dark : HostM Unit) h = _
  rw [bind_apply, switch_eq hi, markClass_of_classList hclass hdark]

theorem setDark_eq (hs : h.Sound) (hi : h.switches[i]? = some b)
    (hdark : Node.IsToken b.settings.darkClass) (dark : Bool) :
    (surface i).setDark dark h =
      ((), (h.noted (if dark then .addClass 0 b.settings.darkClass
        else .removeClass 0 b.settings.darkClass)).edit 0
          fun n => n.putClass b.settings.darkClass dark) :=
  setDark_of_classList (hs _) hi hdark dark

theorem shown_eq (hi : h.switches[i]? = some b) :
    (surface i).shown h = (Theme.ofDark ((h.nodeAt 0).hasClass b.settings.darkClass), h) := by
  show (do return Theme.ofDark (← bodyHasClass (← switch i).settings.darkClass) : HostM Theme) h = _
  rw [bind_apply, bind_apply, switch_eq hi]
  rfl

/-- A flip marks and draws the other theme, and then stores it in whatever way it can. -/
theorem flipTheme_of_save (hs : h.Sound) (hi : h.switches[i]? = some b) (hc : b.control = some c)
    (hdark : Node.IsToken b.settings.darkClass) {next : Theme}
    (hnext : (Theme.ofDark ((h.nodeAt 0).hasClass b.settings.darkClass)).opposite = next)
    {h' : Host}
    (hsave : (surface i).save b.settings next (h.redrawn b.settings c next) = ((), h')) :
    flipTheme i h = (next, h') := by
  obtain ⟨h1, hmark, hh1⟩ : ∃ h1, (surface i).setDark next.isDark h = ((), h1) ∧
      h1 = (h.noted (if next.isDark then .addClass 0 b.settings.darkClass
        else .removeClass 0 b.settings.darkClass)).edit 0
          fun n => n.putClass b.settings.darkClass next.isDark :=
    ⟨_, setDark_eq hs hi hdark _, rfl⟩
  have hs1 : h1.Sound := by
    rw [hh1]
    exact hs
  have hi1 : h1.switches[i]? = some b := by
    rw [hh1]
    exact hi
  have hdraw : (surface i).renderControl next.offer h1 = ((), h.redrawn b.settings c next) := by
    rw [renderControl_eq hs1 hi1 hc, hh1]
    simp [redrawn, redrawCalls, Host.edit, Host.noted]
  unfold flipTheme operate
  rw [bind_apply, switch_eq hi]
  show Surface.flip (surface i) b.settings h = _
  unfold Surface.flip
  rw [bind_apply, shown_eq hi]
  show (do
    (surface i).setDark (Theme.ofDark ((h.nodeAt 0).hasClass b.settings.darkClass)).opposite.isDark
    (surface i).renderControl
      (Theme.ofDark ((h.nodeAt 0).hasClass b.settings.darkClass)).opposite.offer
    (surface i).save b.settings
      (Theme.ofDark ((h.nodeAt 0).hasClass b.settings.darkClass)).opposite
    return (Theme.ofDark ((h.nodeAt 0).hasClass b.settings.darkClass)).opposite : HostM Theme) h = _
  rw [hnext, bind_apply, hmark, bind_apply, hdraw, bind_apply, hsave]
  rfl

/-- A flip by a switch that uses the store, call by call. -/
theorem flipTheme_of_held (hs : h.Sound) (hi : h.switches[i]? = some ⟨s, true, some c⟩)
    (hdark : Node.IsToken s.darkClass) {next : Theme}
    (hnext : (Theme.ofDark ((h.nodeAt 0).hasClass s.darkClass)).opposite = next) :
    flipTheme i h =
      (next,
        { (h.edit 0 fun n => n.putClass s.darkClass next.isDark).edit c
            (Node.bear next.offer) with
          storage := h.storage.map fun t => t.insert s.storageKey next.text
          trace := h.trace ++ flipCalls s c next }) := by
  refine flipTheme_of_save hs hi rfl hdark hnext ?_
  have hredrawn : (h.redrawn s c next).Sound := hs
  unfold Surface.save
  rw [bind_apply, write_eq hredrawn hi rfl]
  simp [redrawn, redrawCalls, flipCalls, Host.edit, Host.noted]

theorem flipTheme_eq (hdark : Node.IsToken s.darkClass) (h0 : h.ShowsTheme s i c v) :
    flipTheme i h =
      (v.turned,
        { (h.edit 0 fun n => n.putClass s.darkClass v.turned.isDark).edit c
            (Node.bear v.turned.offer) with
          storage := h.storage.map fun t => t.insert s.storageKey v.turned.text
          trace := h.trace ++ flipCalls s c v.turned }) :=
  flipTheme_of_held h0.sound h0.held hdark
    (congrArg (fun dark => (Theme.ofDark dark).opposite) h0.dark_eq)

/-! ### A start -/

/-- Which theme to start with is settled without any change but to the log. -/
theorem settle_eq (stored : Option String) :
    ∃ log, (surface i).settle s (.ok stored) h = (s.settled (.ok stored), { h with log }) := by
  cases stored with
  | none => exact ⟨h.log, rfl⟩
  | some raw =>
    rw [Surface.settle]
    cases hraw : Theme.ofText? raw with
    | none =>
      obtain ⟨log, hlog⟩ := say_eq (h := h) .debug
        ("ignoring stored theme: " ++ Theme.unknownMessage raw)
      refine ⟨log, ?_⟩
      show ((do
        say .debug ("ignoring stored theme: " ++ Theme.unknownMessage raw)
        pure s.fallback : HostM Theme) h) = _
      rw [bind_apply, hlog]
      simp [ThemeSettings.settled, hraw]
    | some t =>
      refine ⟨h.log, ?_⟩
      simp [ThemeSettings.settled, hraw]

theorem preference_eq (h0 : h.OpensTheme s i c v) :
    ∃ log, (surface i).preference s h =
      (s.settled (.ok v.stored), { h.noted (.getItem s.storageKey) with log }) := by
  have hstored : (h.storage.bind fun t => t.get? s.storageKey) = v.stored := by
    rw [← h0.view]
    rfl
  unfold Surface.preference
  rw [bind_apply, read_eq h0.sound h0.held rfl, hstored]
  exact settle_eq v.stored

/-- A switch that has no control yet learns of the one that there is. -/
theorem ensureControl_of_found (hi : h.switches[i]? = some b) (hnew : b.control = none)
    (hfound : h.byId? b.settings.toggleId = some c) :
    ensureControl i h = (false,
      { h with switches := h.switches.modify i fun b => { b with control := some c } }) := by
  unfold ensureControl
  rw [bind_apply, switch_eq hi]
  simp only [hnew, Option.isSome_none, Bool.false_eq_true, if_false, bind_apply, get_apply, hfound]
  rfl

/-- If there is none, one is made at the end of the page. -/
theorem ensureControl_of_granted (hgranted : denies h.failures = false)
    (hi : h.switches[i]? = some b) (hnew : b.control = none)
    (hnone : h.byId? b.settings.toggleId = none) :
    ∃ trace, ensureControl i h = (true,
      { h with
        nodes := h.nodes ++ [newControl b.settings.toggleId]
        switches := h.switches.modify i fun b => { b with control := some h.nodes.length }
        trace }) := by
  unfold ensureControl
  rw [bind_apply, switch_eq hi]
  simp only [hnew, Option.isSome_none, Bool.false_eq_true, if_false, bind_apply, get_apply, hnone,
    createControl_of_granted hgranted]
  exact ⟨_, rfl⟩

/-- The control is found, or made at the end of the page. -/
theorem ensureControl_eq (hs : h.Sound) (hi : h.switches[i]? = some b) (hnew : b.control = none)
    (hcontrol : (h.byId? b.settings.toggleId).getD h.nodes.length = c) :
    ∃ made trace, (surface i).ensureControl h =
      (made, { h.provided b.settings with
        switches := h.switches.modify i fun b => { b with control := some c }
        trace }) := by
  cases hfound : h.byId? b.settings.toggleId with
  | some found =>
    obtain rfl : found = c := by
      rw [hfound] at hcontrol
      exact hcontrol
    rw [provided_of_some hfound]
    exact ⟨false, h.trace, ensureControl_of_found hi hnew hfound⟩
  | none =>
    obtain rfl : h.nodes.length = c := by
      rw [hfound] at hcontrol
      exact hcontrol
    have hgranted : denies h.failures = false := not_denies_iff.mpr ⟨hs _, hs _, hs _⟩
    rw [provided_of_none hfound]
    exact ⟨true, ensureControl_of_granted hgranted hi hnew hfound⟩

/-- The theme is drawn and marked. -/
theorem present_eq (hs : h.Sound) (hi : h.switches[i]? = some b) (hc : b.control = some c)
    (hdark : Node.IsToken b.settings.darkClass) (t : Theme) :
    ∃ log trace, ((do
      (surface i).renderControl t.offer
      (surface i).setDark t.isDark
      (surface i).say .info ("theme initialized: " ++ t.text)
      return t : HostM Theme) h) = (t, { h.dressed b.settings c t with log, trace }) := by
  obtain ⟨h1, hdraw, trace1, hh1⟩ : ∃ h1, (surface i).renderControl t.offer h = ((), h1) ∧
      ∃ trace, h1 = { h.edit c (Node.bear t.offer) with trace } :=
    ⟨_, renderControl_eq hs hi hc _, _, rfl⟩
  have hs1 : h1.Sound := by
    rw [hh1]
    exact hs
  have hi1 : h1.switches[i]? = some b := by
    rw [hh1]
    exact hi
  obtain ⟨h2, hmark, trace2, hh2⟩ : ∃ h2, (surface i).setDark t.isDark h1 = ((), h2) ∧
      ∃ trace, h2 =
        { h1.edit 0 (fun n => n.putClass b.settings.darkClass t.isDark) with trace } :=
    ⟨_, setDark_eq hs1 hi1 hdark _, _, rfl⟩
  obtain ⟨log, hsay⟩ := say_eq (h := h2) .info ("theme initialized: " ++ t.text)
  refine ⟨log, trace2, ?_⟩
  rw [bind_apply, hdraw, bind_apply, hmark, bind_apply]
  show (t, (say _ _ h2).2) = _
  rw [hsay, hh2, hh1]
  rfl

/-- A start shows the preferred theme, in whatever way the preference is found out, as long
    as this shows in the log and the trace only. -/
theorem operate_start_of_preference (hs : h.Sound) (hi : h.switches[i]? = some b)
    (hnew : b.control = none) (hdark : Node.IsToken b.settings.darkClass)
    (hcontrol : (h.byId? b.settings.toggleId).getD h.nodes.length = c) {theme : Theme}
    {log1 : List Log.Entry} {trace1 : List Call}
    (hpreference : (surface i).preference b.settings h =
      (theme, { h with log := log1, trace := trace1 })) :
    ∃ log trace, (operate Surface.start i h).2 =
      { (h.provided b.settings).dressed b.settings c theme with
        switches := h.switches.modify i fun b => { b with control := some c }
        log, trace } := by
  obtain ⟨h1, hh1⟩ : ∃ h1, h1 = ({ h with log := log1, trace := trace1 } : Host) := ⟨_, rfl⟩
  rw [← hh1] at hpreference
  have hs1 : h1.Sound := by
    rw [hh1]
    exact hs
  have hi1 : h1.switches[i]? = some b := by
    rw [hh1]
    exact hi
  have hcontrol1 : (h1.byId? b.settings.toggleId).getD h1.nodes.length = c := by
    rw [hh1]
    exact hcontrol
  obtain ⟨made, trace2, hensure⟩ := ensureControl_eq hs1 hi1 hnew hcontrol1
  -- whether a remark on a new control is made shows in the log only
  have hpresent : ∀ log2, ∃ log trace, ((do
      (surface i).renderControl theme.offer
      (surface i).setDark theme.isDark
      (surface i).say .info ("theme initialized: " ++ theme.text)
      return theme : HostM Theme) { ((surface i).ensureControl h1).2 with log := log2 }).2 =
      { (h.provided b.settings).dressed b.settings c theme with
        switches := h.switches.modify i fun b => { b with control := some c }
        log, trace } := by
    intro log2
    have hs2 : ({ ((surface i).ensureControl h1).2 with log := log2 } : Host).Sound := by
      rw [hensure]
      exact hs1
    have hi2 : ({ ((surface i).ensureControl h1).2 with log := log2 } : Host).switches[i]? =
        some { b with control := some c } := by
      rw [hensure]
      exact setControl_held hi1
    obtain ⟨log, trace, heq⟩ := present_eq hs2 hi2 rfl hdark theme
    refine ⟨log, trace, ?_⟩
    rw [heq, hensure, hh1]
    rfl
  have hstart : (operate Surface.start i h).2 = ((do
      if ← (surface i).ensureControl then
        (surface i).say .debug "theme toggle control created"
      (surface i).renderControl theme.offer
      (surface i).setDark theme.isDark
      (surface i).say .info ("theme initialized: " ++ theme.text)
      return theme : HostM Theme) h1).2 := by
    unfold operate
    rw [bind_apply, switch_eq hi]
    show (Surface.start (surface i) b.settings h).2 = _
    unfold Surface.start
    rw [bind_apply, hpreference]
  rw [hstart, bind_apply]
  cases hmade : ((surface i).ensureControl h1).1 with
  | false => exact hpresent ((surface i).ensureControl h1).2.log
  | true =>
    obtain ⟨log2, hsay⟩ := say_eq (h := ((surface i).ensureControl h1).2) .debug
      "theme toggle control created"
    obtain ⟨log, trace, heq⟩ := hpresent log2
    refine ⟨log, trace, ?_⟩
    have hremark : ((surface i).say .debug "theme toggle control created"
        ((surface i).ensureControl h1).2).2 =
          { ((surface i).ensureControl h1).2 with log := log2 } := congrArg Prod.snd hsay
    rw [← heq, if_pos rfl, bind_apply, hremark]

/-- A start, as far as it changes the page. -/
theorem operate_start_eq (hdark : Node.IsToken s.darkClass) (h0 : h.OpensTheme s i c v) :
    ∃ log trace, (operate Surface.start i h).2 =
      { (h.provided s).dressed s c (s.settled (.ok v.stored)) with
        switches := h.switches.modify i fun b => { b with control := some c }
        log, trace } := by
  obtain ⟨log, hpreference⟩ := preference_eq h0
  exact operate_start_of_preference h0.sound h0.held rfl hdark h0.control hpreference

end HostM

end Enhance
