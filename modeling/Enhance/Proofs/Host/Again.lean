/-
  Enhance/Proofs/Host/Again.lean
  ==============================
  **Clicks and keys on a page that was enhanced several times.**

  A click is one flip, however often the page was enhanced: only the first
  enhancement binds the control, and every later one shows again what is shown
  (`run_again`).  Keys are not bound that way.  Every enhancement listens for
  them with a switch of its own, and one keystroke flips once for each of them
  (`keydown_enhanced`).
-/
import Enhance.Proofs.Host.Layered

namespace Enhance

/-- The marker of a class is put on the body, or taken off. -/
def Call.marks (name : String) : Call → Bool
  | .addClass 0 n => n == name
  | .removeClass 0 n => n == name
  | _ => false

/-- An entry is stored. -/
def Call.isWrite : Call → Bool
  | .setItem .. => true
  | _ => false

theorem Node.isField_bear (o : Offer) (n : Node) : (n.bear o).isField = n.isField := rfl

theorem Node.isField_putClass (n : Node) (c : String) (present : Bool) :
    (n.putClass c present).isField = n.isField := by
  rcases n.putClass_eq_or c present with hsame | ⟨value, hset⟩
  · rw [hsame]
  · rw [hset]
    rfl

namespace Host

variable {g h h' : Host} {s : ThemeSettings} {c : NodeId} {id : String}

/-! ### How many elements have an id -/

theorem length_filter_range {α : Type} (p : α → Bool) (l : List α) :
    ((List.range l.length).filter fun i => (l[i]?).any p).length = l.countP p := by
  rw [← List.countP_eq_length_filter]
  induction l with
  | nil => rfl
  | cons a rest ih =>
    rw [List.length_cons, List.range_succ_eq_map, List.countP_cons, List.countP_map,
      List.countP_cons, ← ih]
    simp only [Option.any_some, List.getElem?_cons_zero]
    rfl

theorem length_select_withId (h : Host) (id : String) :
    (h.select (.withId id)).length = h.homes.countP fun p => p.1 && p.2 == some id := by
  unfold select homes
  rw [List.countP_map, ← length_filter_range]
  congr 2
  funext i
  cases h.nodes[i]? <;> rfl

theorem mem_select_withId (hc : h.byId? id = some c) : c ∈ h.select (.withId id) := by
  obtain ⟨hattached, hid⟩ := nodeAt_of_byId? hc
  have hnode : h.nodes[c]? = some (h.nodeAt c) := by
    rw [nodeAt, List.getElem?_eq_getElem (lt_of_byId? hc)]
    rfl
  refine List.mem_filter.mpr ⟨List.mem_range.mpr (lt_of_byId? hc), ?_⟩
  rw [hnode]
  simp [hattached, Selector.selects, hid]

/-- A page that had one control at most has one as soon as there is one. -/
theorem select_toggle (honce : (g.select (.withId "dark-mode-toggle")).length ≤ 1)
    (hhomes : h.homes = g.homes ++ g.addedHomes) (hc : h.byId? "dark-mode-toggle" = some c) :
    h.select (.withId "dark-mode-toggle") = [c] := by
  have hmem := mem_select_withId hc
  have hlength : (h.select (.withId "dark-mode-toggle")).length ≤ 1 := by
    rw [length_select_withId] at honce ⊢
    rw [hhomes, List.countP_append]
    unfold addedHomes
    cases hfound : g.byId? "dark-mode-toggle" with
    | some found => simpa using honce
    | none =>
      -- none of the elements that were there counts
      rw [byId?_eq_homes, if_neg (by decide), List.findIdx?_eq_none_iff] at hfound
      rw [List.countP_eq_zero.mpr fun p hp => by rw [hfound p hp]; exact Bool.false_ne_true]
      decide
  obtain ⟨d, hd⟩ := List.length_eq_one_iff.mp
    (Nat.le_antisymm hlength (List.length_pos_of_mem hmem))
  rw [hd] at hmem ⊢
  rw [List.mem_singleton.mp hmem]

/-! ### The calls of a flip -/

theorem countP_marks_flipCalls (t : Theme) :
    (flipCalls s c t).countP (Call.marks s.darkClass) = 1 := by
  cases t <;> simp [flipCalls, Call.marks, Theme.isDark]

theorem countP_isWrite_flipCalls (t : Theme) : (flipCalls s c t).countP Call.isWrite = 1 := by
  cases t <;> simp [flipCalls, Call.isWrite, Theme.isDark]

end Host

namespace HostM

open Host

variable {g h : Host} {settings : Settings} {c times i : Nat} {click keys : List Handler}
  {bound : Bool} {v : ThemeView}

theorem strikes_congr {h' : Host} (chord : Chord) (e : PageEvent)
    (hfield : ∀ j, (h'.nodeAt j).isField = (h.nodeAt j).isField) :
    strikes chord e h' = strikes chord e h := by
  have hkey : (keystroke e h').1 = (keystroke e h).1 := by
    unfold keystroke
    cases hsource : e.source with
    | none => rfl
    | some j => simp only [bind_apply, pure_apply, node_apply, hfield j]
  rw [strikes, strikes, hkey]

/-! ### Flips -/

/-- A flip by any of the switches. -/
theorem flipTheme_layered (h0 : Layered g settings c times click keys bound v h)
    (hi : i < times) :
    Layered g settings c times click keys bound v.flip (flipTheme i h).2 ∧
      (flipTheme i h).2.tasks = h.tasks ∧
      (flipTheme i h).2.trace = h.trace ++ flipCalls settings.theme c v.turned ∧
      (flipTheme i h).2.storage =
        h.storage.map fun t => t.insert settings.theme.storageKey v.turned.text := by
  have hnames := h0.names
  have hshows : h.ShowsTheme settings.theme i c v := (h0.wired hi).toShowsTheme
  obtain ⟨-, hflipped, hwork⟩ := operate_flip hnames.isToken_darkClass hnames.toggleId_ne_empty
    hshows
  have harranged := Arranged.unthemed.keeps_flipTheme i h h0.arranged
  have hstate := congrArg Prod.snd (flipTheme_eq hnames.isToken_darkClass hshows)
  refine ⟨?_, hwork.tasks, ?_, ?_⟩
  · apply h0.change harranged
    · exact h0.listens.congr hwork.listeners hwork.tasks
    · rw [hstate]
      rfl
    · rw [hstate]
      rfl
    · rw [hstate]
      show ((h.edit 0 _).edit c (Node.bear v.turned.offer)).homes = h.homes
      rw [homes_edit (samePlace_bear _), homes_edit fun n => n.samePlace_putClass]
    · exact hflipped.store
    · rw [hstate]
      show ((h.edit 0 _).edit c (Node.bear v.turned.offer)).settings = h.settings
      rw [settings_bear, settings_mark]
    · exact hflipped.view
    · rw [hstate]
      rfl
    · rw [Table.contains, hwork.bound]
      exact h0.bound
  · rw [hstate]
  · rw [hstate]

/-- No element becomes a field by a flip, or ceases to be one. -/
theorem isField_flipTheme (h0 : Layered g settings c times click keys bound v h)
    (hi : i < times) (j : NodeId) :
    ((flipTheme i h).2.nodeAt j).isField = (h.nodeAt j).isField := by
  rw [flipTheme_eq h0.names.isToken_darkClass (h0.wired hi).toShowsTheme]
  show (((h.edit 0 _).edit c (Node.bear v.turned.offer)).nodeAt j).isField = _
  have hmarked : ((h.edit 0 fun n => n.putClass settings.theme.darkClass v.turned.isDark).nodeAt
      j).isField = (h.nodeAt j).isField :=
    nodeAt_edit_induction (P := fun n => n.isField = (h.nodeAt j).isField) rfl
      fun _ => Node.isField_putClass _ _ _
  exact nodeAt_edit_induction (P := fun n => n.isField = (h.nodeAt j).isField) hmarked
    fun _ => (Node.isField_bear _ _).trans hmarked

/-! ### Keys -/

/-- A keystroke that matches is a flip and a message. -/
theorem react_struck {chord : Chord} {e : PageEvent} (hstrikes : strikes chord e h = true) :
    ∃ log, (react e (.shortcut chord i) h).2 = { (flipTheme i h).2 with log } := by
  rw [strikes, Bool.and_eq_true] at hstrikes
  obtain ⟨hkeyboard, hmatched⟩ := hstrikes
  obtain ⟨log, hlog⟩ := say_eq (h := (flipTheme i h).2) .debug
    (chord.render ++ " switched theme to " ++ (flipTheme i h).1.text)
  refine ⟨log, ?_⟩
  rw [react, if_neg (not_not_intro hkeyboard), bind_apply, keystroke_snd, if_pos hmatched,
    bind_apply, bind_apply, hlog]
  rfl

/-- One flip for each of the handlers of keys. -/
theorem react_all_struck {chord : Chord} {e : PageEvent} {l : List Nat} (hl : ∀ i ∈ l, i < times)
    (h0 : Layered g settings c times click keys bound v h) (hstrikes : strikes chord e h = true) :
    ∃ v' calls, v'.dark = (v.dark ^^ decide (l.length % 2 = 1)) ∧
      Layered g settings c times click keys bound v'
        ((l.map (Handler.shortcut chord)).mapM (react e) h).2 ∧
      ((l.map (Handler.shortcut chord)).mapM (react e) h).2.tasks = h.tasks ∧
      ((l.map (Handler.shortcut chord)).mapM (react e) h).2.trace = h.trace ++ calls ∧
      calls.countP (Call.marks settings.theme.darkClass) = l.length ∧
      calls.countP Call.isWrite = l.length := by
  -- every handler flips what the one before it showed
  induction l generalizing h v with
  | nil => exact ⟨v, [], (Bool.xor_false _).symm, h0, rfl, (List.append_nil _).symm, rfl, rfl⟩
  | cons i rest ih =>
    have hi := hl i List.mem_cons_self
    obtain ⟨hflipped, htasks, htrace, -⟩ := flipTheme_layered h0 hi
    obtain ⟨log, hreact⟩ := react_struck (i := i) hstrikes
    have hstrikes' : strikes chord e { (flipTheme i h).2 with log } = true := by
      rw [← hstrikes]
      exact strikes_congr chord e (isField_flipTheme h0 hi)
    have hremarked : Layered g settings c times click keys bound v.flip
        { (flipTheme i h).2 with log } := hflipped.remarked rfl
    obtain ⟨v', calls, hdark, hlayered, hsame, hcalls, hmarks, hwrites⟩ :=
      ih (fun j hj => hl j (List.mem_cons_of_mem i hj)) hremarked hstrikes'
    have hrest : (((i :: rest).map (Handler.shortcut chord)).mapM (react e) h).2 =
        ((rest.map (Handler.shortcut chord)).mapM (react e) { (flipTheme i h).2 with log }).2 := by
      rw [List.map_cons, List.mapM_cons, bind_apply, hreact]
      rfl
    rw [hrest]
    refine ⟨v', flipCalls settings.theme c v.turned ++ calls, ?_, hlayered, hsame.trans htasks,
      ?_, ?_, ?_⟩
    · have hturned : v.flip.dark = !v.dark := by
        show (Theme.ofDark v.dark).opposite.isDark = _
        cases v.dark <;> rfl
      have hparity : decide ((rest.length + 1) % 2 = 1) = !decide (rest.length % 2 = 1) := by
        rw [← decide_not]
        congr 1
        apply propext
        omega
      rw [hdark, hturned, List.length_cons, hparity, Bool.not_xor, Bool.xor_not]
    · rw [hcalls]
      show (flipTheme i h).2.trace ++ calls = _
      rw [htrace, List.append_assoc]
    · rw [List.countP_append, countP_marks_flipCalls, hmarks, List.length_cons, Nat.add_comm]
    · rw [List.countP_append, countP_isWrite_flipCalls, hwrites, List.length_cons, Nat.add_comm]

end HostM

namespace Session

open Host HostM

variable {g : Host} {settings : Settings} {c times i : Nat} {click keys : List Handler}
  {bound : Bool} {v : ThemeView} {s : Session}

/-! ### Clicks -/

/-- A click on a page at rest is one flip, and nothing else. -/
theorem click_layered (h0 : Layered g settings c times [.flip i] keys bound v s.host)
    (hrest : Resting g s.host) (hi : i < times) (e : PageEvent) :
    let clicked := (s.step (.event (.node c) "click" e)).2.host
    Layered g settings c times [.flip i] keys bound v.flip clicked ∧
      clicked.trace = s.host.trace ++ flipCalls settings.theme c v.turned ∧
      clicked.storage =
        s.host.storage.map fun t => t.insert settings.theme.storageKey v.turned.text := by
  have hact : (act s.held (.event (.node c) "click" e) s.host).2 = (flipTheme i s.host).2 := by
    show (dispatch (.node c) "click" e s.host).2 = _
    rw [dispatch_of_single h0.listens.click]
    rfl
  obtain ⟨hflipped, htasks, htrace, hstorage⟩ := flipTheme_layered h0 hi
  have hidle : ∀ t ∈ (flipTheme i s.host).2.tasks, t.isIdle = true := by
    rw [htasks]
    exact hrest.idle
  intro clicked
  have hclicked : clicked = (flipTheme i s.host).2 := by
    show (s.step _).2.host = _
    rw [host_step, hact, runTasks_idle hidle]
  rw [hclicked]
  exact ⟨hflipped, htrace, hstorage⟩

/-- A page that was enhanced at least once.  What it shows is what the store asks for, and
    clicks go to the first switch. -/
structure Settled (g : Host) (settings : Settings) (c : NodeId) (s : Session) : Prop where
  resting : Resting g s.host
  layered : ∃ times keys v, 0 < times ∧ v.start settings.theme = v ∧
    Layered g settings c times [.flip 0] keys true v s.host

/-- Another enhancement, or a click on the control. -/
def Step.IsAgain (c : NodeId) (t : Step) : Prop :=
  t = .enhance ∨ ∃ e, t = .event (.node c) "click" e

theorem Step.IsAgain.isPage {t : Step} (ht : t.IsAgain c) : t.isPage = true := by
  rcases ht with rfl | ⟨e, rfl⟩
  · rfl
  · rfl

theorem settled_step (h0 : s.Settled g settings c) {t : Step} (ht : t.IsAgain c) :
    (s.step t).2.Settled g settings c := by
  refine ⟨resting_step h0.resting.toArranged ht.isPage, ?_⟩
  obtain ⟨times, keys, v, htimes, hstart, hlayered⟩ := h0.layered
  rcases ht with rfl | ⟨e, rfl⟩
  · obtain ⟨hstep, -⟩ := layered_step_enhance hlayered
    rw [hstart, if_pos rfl, List.append_nil] at hstep
    exact ⟨times + 1, _, v, Nat.succ_pos times, hstart, hstep⟩
  · have hcontrol : v.hasControl = true := by
      rw [← hlayered.view, themeView_of_control (hlayered.found htimes)]
    obtain ⟨hstep, -, -⟩ := click_layered hlayered h0.resting htimes e
    exact ⟨times, keys, v.flip, htimes, ThemeView.start_flip _ hcontrol, hstep⟩

theorem settled_run (h0 : s.Settled g settings c) (steps : List Step)
    (hsteps : ∀ t ∈ steps, t.IsAgain c) : (s.run steps).Settled g settings c := by
  induction steps generalizing s with
  | nil => exact h0
  | cons t rest ih =>
    apply ih
    · exact settled_step h0 (hsteps t List.mem_cons_self)
    · exact fun u hu => hsteps u (List.mem_cons_of_mem t hu)

/-- The first enhancement of a page whose control, if there is one, is not bound. -/
theorem settled_enhance (h0 : s.host.Pristine) (hwindow : s.host.hasWindow = true)
    (hdocument : s.host.hasDocument = true) (hbody : s.host.body? = some 0)
    (hstore : s.host.storage.isSome = true)
    (hfree : ∀ c, s.host.byId? s.host.settings.theme.toggleId = some c →
      (s.host.nodeAt c).attributes.contains boundAttribute = false) :
    (s.step .enhance).2.Settled s.host s.host.settings
      ((s.host.byId? s.host.settings.theme.toggleId).getD s.host.nodes.length) := by
  have hpristine := Layered.of_pristine h0 hwindow hdocument hbody hstore
  have hunbound : (s.host.nodeAt ((s.host.byId? s.host.settings.theme.toggleId).getD
      s.host.nodes.length)).attributes.contains boundAttribute = false := by
    cases hc : s.host.byId? s.host.settings.theme.toggleId with
    | some c => exact hfree c hc
    | none =>
      -- the node that will be the control is not there yet
      rw [Option.getD_none, nodeAt, List.getElem?_eq_none (Nat.le_refl _)]
      rfl
  rw [hunbound] at hpristine
  obtain ⟨hstep, -⟩ := layered_step_enhance hpristine
  exact ⟨resting_step h0.resting.toArranged rfl, 1, _, _, Nat.one_pos, ThemeView.start_start _ _,
    hstep⟩

/-- **Enhancing a page again doubles neither its control nor a click.**  A page that has one
    control at most, which is not bound, is enhanced, and then enhanced again and clicked on its
    control in any order.  All the while it has exactly one control; a click makes the calls of
    one flip and no other, and another enhancement leaves what is shown and stored. -/
theorem run_again (h0 : s.host.Pristine) (hwindow : s.host.hasWindow = true)
    (hdocument : s.host.hasDocument = true) (hbody : s.host.body? = some 0)
    (hstore : s.host.storage.isSome = true)
    (honce : (s.host.select (.withId s.host.settings.theme.toggleId)).length ≤ 1)
    (hfree : ∀ c, s.host.byId? s.host.settings.theme.toggleId = some c →
      (s.host.nodeAt c).attributes.contains boundAttribute = false) :
    let theme := s.host.settings.theme
    ∃ c, ∀ steps : List Step, (∀ t ∈ steps, t.IsAgain c) →
      let now := s.run (.enhance :: steps)
      let next := (Theme.ofDark ((now.host.nodeAt 0).hasClass theme.darkClass)).opposite
      let enhanced := (now.step .enhance).2.host
      now.host.select (.withId theme.toggleId) = [c] ∧
      (∀ e, let clicked := (now.step (.event (.node c) "click" e)).2.host
        clicked.trace = now.host.trace ++ flipCalls theme c next ∧
        (clicked.nodeAt 0).hasClass theme.darkClass = next.isDark ∧
        clicked.storage = now.host.storage.map (fun t => t.insert theme.storageKey next.text) ∧
        (clicked.nodeAt c).markup = some next.offer.html ∧
        (clicked.nodeAt c).attributes.get? "aria-label" = some next.offer.label ∧
        (clicked.nodeAt c).attributes.get? "title" = some next.offer.label) ∧
      ((enhanced.nodeAt 0).hasClass theme.darkClass =
          (now.host.nodeAt 0).hasClass theme.darkClass ∧
        (enhanced.nodeAt c).markup = (now.host.nodeAt c).markup ∧
        (enhanced.nodeAt c).attributes.get? "aria-label" =
          (now.host.nodeAt c).attributes.get? "aria-label" ∧
        (enhanced.nodeAt c).attributes.get? "title" =
          (now.host.nodeAt c).attributes.get? "title" ∧
        enhanced.storage = now.host.storage) := by
  intro theme
  refine ⟨(s.host.byId? theme.toggleId).getD s.host.nodes.length, ?_⟩
  intro steps hsteps now next enhanced
  have hsettled : now.Settled s.host s.host.settings _ :=
    settled_run (settled_enhance h0 hwindow hdocument hbody hstore hfree) steps hsteps
  obtain ⟨hresting, times, keys, v, htimes, hstart, hlayered⟩ := hsettled
  have hshows := (hlayered.wired htimes).toShowsTheme
  have hnext : next = v.turned :=
    congrArg (fun dark => (Theme.ofDark dark).opposite) hlayered.dark_eq
  refine ⟨?_, ?_, ?_⟩
  · have hfound := hlayered.found htimes
    have hplaces := hlayered.places
    rw [hlayered.names.toggle] at honce hfound ⊢
    rw [addedHomes_of_some hfound, List.append_nil] at hplaces
    exact select_toggle honce hplaces hfound
  · intro e clicked
    obtain ⟨hclicked, htrace, hstorage⟩ := click_layered hlayered hresting htimes e
    have hflipped := (hclicked.wired htimes).toShowsTheme
    rw [hnext]
    exact ⟨htrace, hflipped.dark_eq, hstorage, hflipped.html_eq, hflipped.label_eq,
      hflipped.title_eq⟩
  · obtain ⟨henhanced, hstorage⟩ := layered_step_enhance hlayered
    rw [hstart] at henhanced
    have hagain := (henhanced.wired (Nat.succ_pos times)).toShowsTheme
    exact ⟨hagain.dark_eq.trans hshows.dark_eq.symm, hagain.html_eq.trans hshows.html_eq.symm,
      hagain.label_eq.trans hshows.label_eq.symm, hagain.title_eq.trans hshows.title_eq.symm,
      hstorage⟩

/-- A dark page with a control in the markup, whose store asks for the dark theme, enhanced
    three times with a click in between. -/
theorem run_again_markup_control :
    let page : Host :=
      { nodes := [{ tag := "body", attributes := .ofList [("class", "dark-mode")] },
          { tag := "button", attributes := .ofList [("id", "dark-mode-toggle")] }]
        storage := some (.ofList [("theme", "dark")]) }
    let s : Session := { host := page }
    let now := s.run [.enhance, .enhance, .event (.node 1) "click" {}, .enhance]
    let clicked := (now.step (.event (.node 1) "click" {})).2.host
    (page.Pristine ∧ page.body? = some 0 ∧
      (page.select (.withId page.settings.theme.toggleId)).length ≤ 1 ∧
      ∀ c, page.byId? page.settings.theme.toggleId = some c →
        (page.nodeAt c).attributes.contains boundAttribute = false) ∧
    now.host.select (.withId "dark-mode-toggle") = [1] ∧
    clicked.trace = now.host.trace ++ flipCalls {} 1 .dark := by
  intro page s
  have hsettings : page.settings = {} := by decide +kernel
  have hpristine : page.Pristine := ⟨fun _ => rfl, rfl, rfl, rfl, rfl, rfl⟩
  have honce : (page.select (.withId page.settings.theme.toggleId)).length ≤ 1 := by
    rw [hsettings]
    decide +kernel
  have hfree : ∀ c, page.byId? page.settings.theme.toggleId = some c →
      (page.nodeAt c).attributes.contains boundAttribute = false := by
    intro c hc
    have hfound : page.byId? page.settings.theme.toggleId = some 1 := by
      rw [hsettings]
      decide +kernel
    obtain rfl : 1 = c := Option.some.inj (hfound.symm.trans hc)
    decide +kernel
  refine ⟨⟨hpristine, by decide +kernel, honce, hfree⟩, ?_⟩
  obtain ⟨c, hagain⟩ := run_again (s := s) hpristine rfl rfl (by decide +kernel) rfl honce hfree
  have hthree : ∀ t ∈ [Step.enhance, .event (.node c) "click" {}, .enhance], t.IsAgain c := by
    intro t ht
    rcases List.mem_cons.mp ht with rfl | ht
    · exact .inl rfl
    · rcases List.mem_cons.mp ht with rfl | ht
      · exact .inr ⟨_, rfl⟩
      · exact .inl (List.mem_singleton.mp ht)
  -- the control is the one in the markup
  obtain ⟨hfirst, -⟩ := hagain [] fun t ht => nomatch ht
  have hone : (s.run [.enhance]).host.select (.withId page.settings.theme.toggleId) = [1] := by
    rw [hsettings]
    decide +kernel
  obtain rfl : c = 1 := List.singleton_inj.mp (hfirst.symm.trans hone)
  obtain ⟨hselect, hclick, -⟩ := hagain _ hthree
  have hnext : (Theme.ofDark (((s.run [.enhance, .enhance, .event (.node 1) "click" {},
      .enhance]).host.nodeAt 0).hasClass page.settings.theme.darkClass)).opposite = .dark := by
    rw [hsettings]
    decide +kernel
  obtain ⟨htrace, -⟩ := hclick {}
  rw [hnext, hsettings] at htrace
  rw [hsettings] at hselect
  exact ⟨hselect, htrace⟩

/-! ### Keys -/

/-- After so many enhancements, as many handlers wait for keys. -/
theorem layered_enhances (h0 : s.host.Pristine) (hwindow : s.host.hasWindow = true)
    (hdocument : s.host.hasDocument = true) (hbody : s.host.body? = some 0)
    (hstore : s.host.storage.isSome = true) (times : Nat) :
    ∃ c click bound v, Layered s.host s.host.settings c times click
      ((List.range times).map (Handler.shortcut s.host.settings.shortcut)) bound v
      (s.run (List.replicate times .enhance)).host := by
  induction times with
  | zero => exact ⟨_, _, _, _, Layered.of_pristine h0 hwindow hdocument hbody hstore⟩
  | succ times ih =>
    obtain ⟨c, click, bound, v, hlayered⟩ := ih
    obtain ⟨hstep, -⟩ := layered_step_enhance hlayered
    have hrun : s.run (List.replicate (times + 1) .enhance) =
        ((s.run (List.replicate times .enhance)).step .enhance).2 := by
      rw [run, List.replicate_succ', List.foldl_append]
      rfl
    rw [hrun, List.range_succ, List.map_append]
    exact ⟨c, _, _, _, hstep⟩

/-- **A keystroke flips the theme once for every enhancement.**  After so many enhancements of
    a page, a keystroke that matches marks the body as often and stores as often; the page is
    dark afterwards as it was before if that number is even, and the other way otherwise. -/
theorem keydown_enhanced (h0 : s.host.Pristine) (hwindow : s.host.hasWindow = true)
    (hdocument : s.host.hasDocument = true) (hbody : s.host.body? = some 0)
    (hstore : s.host.storage.isSome = true) (times : Nat) (e : PageEvent)
    (hstrikes : strikes s.host.settings.shortcut e
      (s.run (List.replicate times .enhance)).host = true) :
    let theme := s.host.settings.theme
    let page := s.run (List.replicate times .enhance)
    let pressed := (page.step (.event .document "keydown" e)).2.host
    ∃ calls, pressed.trace = page.host.trace ++ calls ∧
      calls.countP (Call.marks theme.darkClass) = times ∧
      calls.countP Call.isWrite = times ∧
      (pressed.nodeAt 0).hasClass theme.darkClass =
        ((page.host.nodeAt 0).hasClass theme.darkClass ^^ decide (times % 2 = 1)) := by
  intro theme page pressed
  obtain ⟨c, click, bound, v, hlayered⟩ :=
    layered_enhances h0 hwindow hdocument hbody hstore times
  have hresting : Resting s.host page.host := by
    apply resting_run h0.resting
    intro t ht
    rw [List.eq_of_mem_replicate ht]
    rfl
  obtain ⟨v', calls, hdark, hafter, htasks, htrace, hmarks, hwrites⟩ :=
    react_all_struck (fun i hi => List.mem_range.mp hi) hlayered hstrikes
  rw [List.length_range] at hdark hmarks hwrites
  have hpressed : pressed = (((List.range times).map
      (Handler.shortcut s.host.settings.shortcut)).mapM (react e) page.host).2 := by
    have hact : (act page.held (.event .document "keydown" e) page.host).2 =
        (((List.range times).map (Handler.shortcut s.host.settings.shortcut)).mapM (react e)
          page.host).2 := by
      show (dispatch .document "keydown" e page.host).2 = _
      unfold dispatch
      rw [bind_apply, handlersFor_eq, hlayered.listens.keys]
      rfl
    show (page.step _).2.host = _
    rw [host_step, hact, runTasks_idle]
    rw [htasks]
    exact hresting.idle
  rw [hpressed]
  exact ⟨calls, htrace, hmarks, hwrites, by rw [hafter.dark_eq, hdark, ← hlayered.dark_eq]⟩

/-- The chord pressed on a page that was enhanced three times. -/
theorem keydown_enhanced_three :
    let s : Session := { host := { nodes := [{ tag := "body" }] } }
    let chord : PageEvent :=
      { isKeyboard := true, code := "KeyD", modifiers := { alt := true, shift := true } }
    let page := s.run (List.replicate 3 .enhance)
    let pressed := (page.step (.event .document "keydown" chord)).2.host
    (s.host.Pristine ∧ s.host.body? = some 0 ∧
      strikes s.host.settings.shortcut chord page.host = true) ∧
    ∃ calls, pressed.trace = page.host.trace ++ calls ∧
      calls.countP (Call.marks s.host.settings.theme.darkClass) = 3 ∧
      calls.countP Call.isWrite = 3 ∧
      (pressed.nodeAt 0).hasClass s.host.settings.theme.darkClass =
        ((page.host.nodeAt 0).hasClass s.host.settings.theme.darkClass ^^ decide (3 % 2 = 1)) := by
  intro s chord
  have hpristine : s.host.Pristine := ⟨fun _ => rfl, rfl, rfl, rfl, rfl, rfl⟩
  have hstrikes : strikes s.host.settings.shortcut chord
      (s.run (List.replicate 3 .enhance)).host = true := by decide +kernel
  refine ⟨⟨hpristine, by decide +kernel, hstrikes⟩, ?_⟩
  exact keydown_enhanced (s := s) hpristine rfl rfl (by decide +kernel) rfl 3 chord hstrikes

/-- The chord pressed on a page that was enhanced twice: two flips, and the page looks as
    before. -/
theorem keydown_enhanced_twice :
    let s : Session := { host := { nodes := [{ tag := "body" }] } }
    let chord : PageEvent :=
      { isKeyboard := true, code := "KeyD", modifiers := { alt := true, shift := true } }
    let page := s.run [.enhance, .enhance]
    let pressed := (page.step (.event .document "keydown" chord)).2.host
    let calls := pressed.trace.drop page.host.trace.length
    strikes s.host.settings.shortcut chord page.host = true ∧
      calls.countP (Call.marks "dark-mode") = 2 ∧ calls.countP Call.isWrite = 2 ∧
      (page.host.nodeAt 0).hasClass "dark-mode" = false ∧
      (pressed.nodeAt 0).hasClass "dark-mode" = false := by
  decide +kernel

end Session

end Enhance
