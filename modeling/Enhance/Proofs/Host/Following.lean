/-
  Enhance/Proofs/Host/Following.lean
  ==================================
  **A back-to-top button follows the offset that was read last.**

  The gate of the button is fed when it is wired, and whenever a scroll event comes
  to the window; the button looks as the last offset asks for, and one class change
  is asked of it per word of the gate (`Fed`).  Everything else spares the button, so
  that only the offsets count that are read in the course of a visit.
-/
import Enhance.Proofs.Host.Arranged
import Enhance.Proofs.Host.Spared
import Enhance.Proofs.Scroll

namespace Enhance

namespace Host

variable {button : NodeId} {threshold : Binary64} {heard : Bool} {g h : Host}
  {reads : List Binary64}

/-! ### Reading the offset -/

/-- The offset that is read on a page; one that cannot be read counts as zero. -/
def offsetRead (h : Host) : Binary64 :=
  if (h.failures .scrollY).isSome then .zero false else h.scrollY

theorem scrollOffset_eq (h : Host) :
    ∃ answer, HostM.scrollOffset h = (answer, h) ∧
      answer.toOption.getD (.zero false) = h.offsetRead := by
  unfold HostM.scrollOffset HostM.attempt offsetRead
  rw [bind_apply, get_apply]
  cases h.failures .scrollY with
  | some t => exact ⟨.error t, rfl, rfl⟩
  | none => exact ⟨.ok h.scrollY, rfl, rfl⟩

/-- The events of the window that tell of scrolling. -/
def isScrollEvent (target : Target) (type : String) : Bool := target = .window ∧ type = "scroll"

/-! ### A gate that was fed -/

/-- The next gate of the page `g` has this button and was fed these offsets; it is fed by scroll
    events if they are `heard`.  The page may look otherwise by now, but the offset and the calls
    that fail are still those of `g`. -/
structure Fed (button : NodeId) (threshold : Binary64) (heard : Bool) (g : Host)
    (reads : List Binary64) (h : Host) : Prop extends Alone g.gates.length button h where
  failures : h.failures = g.failures
  scrollY : h.scrollY = g.scrollY
  gate : h.gates[g.gates.length]? = some ⟨.feed { threshold } reads, button⟩
  hears : ∀ target type, h.listeners.count ⟨target, type, .follow g.gates.length⟩ =
    if heard && isScrollEvent target type then 1 else 0
  shown : ∀ y, reads.getLast? = some y → (h.nodeAt button).hasClass visibleClass = threshold.lt y
  asked : h.trace.countP (Call.asks button) = g.trace.countP (Call.asks button) +
    (ScrollGate.words { threshold } reads).length

theorem Fed.spared {h' : Host} (h0 : Fed button threshold heard g reads h)
    (hspared : Spared g.gates.length button h h') : Fed button threshold heard g reads h' where
  toAlone := hspared.toAlone
  failures := hspared.failures.trans h0.failures
  scrollY := hspared.scrollY.trans h0.scrollY
  gate := hspared.gate.trans h0.gate
  hears target type := (hspared.heard target type).trans (h0.hears target type)
  shown y hy := hspared.shown.trans (h0.shown y hy)
  asked := hspared.asked.trans h0.asked

section Reading

variable {y : Binary64} (h0 : Fed button threshold heard g reads h)

include h0

theorem Fed.gate_withGate (gate : ScrollGate) :
    (h.withGate g.gates.length gate).gates[g.gates.length]? = some ⟨gate, button⟩ := by
  rw [withGate, List.getElem?_modify_eq, h0.gate]
  rfl

/-- The gate is fed an offset that it has nothing to say to. -/
theorem Fed.silent (hword : ((ScrollGate.feed { threshold } reads).update y).1 = none) :
    Fed button threshold heard g (reads ++ [y])
      (h.withGate g.gates.length (.feed { threshold } (reads ++ [y]))) := by
  obtain ⟨hupdate, -⟩ := (ScrollGate.update_feed threshold reads).1 y
  have hwords := ScrollGate.words_concat { threshold } reads y
  rw [hword] at hupdate hwords
  refine { h0 with
    toAlone := h0.toAlone.withGate _ _
    gate := h0.gate_withGate _
    shown := fun x hx => ?_
    asked := ?_ }
  · -- the offset before was on the same side
    obtain ⟨before, hbefore, hside⟩ : ∃ before, reads.getLast? = some before ∧
        threshold.lt before = threshold.lt y := by
      by_contra hnone
      rw [if_neg fun heq => hnone (Option.map_eq_some_iff.mp heq)] at hupdate
      cases hupdate
    rw [List.getLast?_concat] at hx
    rw [← Option.some.inj hx, ← hside]
    exact h0.shown before hbefore
  · rw [hwords, Option.toList_none, List.append_nil]
    exact h0.asked

/-- The gate is fed an offset on the other side, and has the button shown or hidden. -/
theorem Fed.speaks {visible : Bool}
    (hword : ((ScrollGate.feed { threshold } reads).update y).1 = some visible) :
    Fed button threshold heard g (reads ++ [y])
      (((h.withGate g.gates.length (.feed { threshold } (reads ++ [y]))).noted
        (.mark button visibleClass visible)).edit button
          fun n => n.putClass visibleClass visible) := by
  obtain ⟨hupdate, -⟩ := (ScrollGate.update_feed threshold reads).1 y
  have hwords := ScrollGate.words_concat { threshold } reads y
  rw [hword] at hupdate hwords
  have hside : visible = threshold.lt y := by
    split at hupdate <;> cases hupdate
    rfl
  have hasks : (Call.mark button visibleClass visible).asks button = true := by
    rw [Call.asks_mark]
    simp
  refine { h0 with
    toAlone := (h0.toAlone.withGate _ _).marked _
    gate := h0.gate_withGate _
    shown := fun x hx => ?_
    asked := ?_ }
  · rw [List.getLast?_concat] at hx
    rw [nodeAt_edit_self (h := (h.withGate _ _).noted _) h0.here,
      Node.hasClass_putClass HostM.isToken_visibleClass, if_pos rfl, hside, Option.some.inj hx]
  · show (h.trace ++ [Call.mark button visibleClass visible]).countP _ = _
    rw [List.countP_append, List.countP_singleton, hasks, h0.asked, hwords, List.length_append]
    rfl

end Reading

theorem Fed.setFailure (h0 : Fed button threshold heard g reads h) {c : Failable}
    (hc : c ≠ .classList) (t : Option Thrown) :
    Fed button threshold heard (g.setFailure c t) reads (h.setFailure c t) := by
  refine { h0 with works := ?_, failures := ?_ }
  · show (if .classList = c then t else h.failures .classList) = none
    rw [if_neg (Ne.symm hc)]
    exact h0.works
  · show (fun d => if d = c then t else h.failures d) = fun d => if d = c then t else g.failures d
    rw [h0.failures]

/-- Scroll events are listened to from now on. -/
theorem Fed.follow (h0 : Fed button threshold false g reads h) :
    Fed button threshold true g reads { h.noted (.listen .window "scroll") with
      listeners := h.listeners ++ [⟨.window, "scroll", .follow g.gates.length⟩] } := by
  refine { h0 with listeners := ?_, hears := ?_, asked := ?_ }
  · intro l hl
    rcases List.mem_append.mp hl with hl | hl
    · exact h0.listeners l hl
    · rw [List.mem_singleton.mp hl]
      exact Handler.noConfusion
  · intro target type
    rw [List.count_append, h0.hears, List.count_singleton]
    refine (Nat.zero_add _).trans (if_congr ?_ rfl rfl)
    rw [Bool.true_and, isScrollEvent, decide_eq_true_iff, beq_iff_eq, Listener.mk.injEq]
    exact ⟨fun hsame => ⟨hsame.1.symm, hsame.2.1.symm⟩,
      fun hsame => ⟨hsame.1.symm, hsame.2.symm, rfl⟩⟩
  · show (h.trace ++ [_]).countP _ = _
    rw [List.countP_append, h0.asked]
    rfl

end Host

namespace HostM

open Host

variable {button : NodeId} {threshold : Binary64} {heard : Bool} {g h : Host}
  {reads : List Binary64}

/-- What spares the button spares the gate as well. -/
theorem keeps_fed {α : Type} {act : HostM α}
    (hact : ∀ k, Keeps (Spared g.gates.length button k) act) :
    Keeps (Fed button threshold heard g reads) act := fun h h0 =>
  h0.spared (hact h h h0.toAlone.spared)

section Sync

variable {i : Nat} {b : ButtonGate}

/-- The gate has nothing to say. -/
theorem syncGate_silent (hb : h.gates[i]? = some b)
    (hsilent : (b.gate.update h.offsetRead).1 = none) :
    (syncGate i h).2 = h.withGate i (b.gate.update h.offsetRead).2 := by
  obtain ⟨answer, hoffset, hread⟩ := scrollOffset_eq h
  unfold syncGate
  rw [bind_apply, hoffset, bind_apply, get_apply]
  dsimp only
  rw [hb, hread]
  dsimp only
  rw [hsilent]
  rfl

/-- The gate has the button shown or hidden. -/
theorem syncGate_speaks (hworks : h.failures .classList = none) (hb : h.gates[i]? = some b)
    {visible : Bool} (hspeaks : (b.gate.update h.offsetRead).1 = some visible) :
    (syncGate i h).2 = ((h.withGate i (b.gate.update h.offsetRead).2).noted
      (.mark b.button visibleClass visible)).edit b.button
        fun n => n.putClass visibleClass visible := by
  obtain ⟨answer, hoffset, hread⟩ := scrollOffset_eq h
  have hmoved : (h.withGate i (b.gate.update h.offsetRead).2).failures .classList = none := hworks
  unfold syncGate
  rw [bind_apply, hoffset, bind_apply, get_apply]
  dsimp only
  rw [hb, hread]
  dsimp only
  rw [hspeaks]
  exact congrArg Prod.snd (markClass_of_classList hmoved isToken_visibleClass visible)

end Sync

/-- Feeding the gate. -/
theorem syncGate_fed (h0 : Fed button threshold heard g reads h) :
    Fed button threshold heard g (reads ++ [g.offsetRead]) (syncGate g.gates.length h).2 := by
  have hread : h.offsetRead = g.offsetRead := by
    rw [offsetRead, h0.failures, h0.scrollY, offsetRead]
  cases hword : ((ScrollGate.feed { threshold } reads).update g.offsetRead).1 with
  | none =>
    rw [syncGate_silent h0.gate (hread ▸ hword), hread, ← ScrollGate.feed_concat]
    exact h0.silent hword
  | some visible =>
    rw [syncGate_speaks h0.works h0.gate (hread ▸ hword), hread, ← ScrollGate.feed_concat]
    exact h0.speaks hword

/-! ### Events -/

/-- Whatever a listener does. -/
theorem react_fed (h0 : Fed button threshold heard g reads h) (e : PageEvent) {handler : Handler}
    (hhandler : handler ≠ .enhance) :
    Fed button threshold heard g
      (reads ++ if handler = .follow g.gates.length then [g.offsetRead] else [])
      (react e handler h).2 := by
  by_cases hfollow : handler = .follow g.gates.length
  · rw [if_pos hfollow, hfollow]
    exact syncGate_fed h0
  · rw [if_neg hfollow, List.append_nil]
    exact keeps_fed (fun k => keeps_spared_react e hhandler hfollow) h h0

/-- One listener after the other. -/
theorem mapM_react_fed (e : PageEvent) {l : List Handler} (hl : ∀ handler ∈ l, handler ≠ .enhance)
    (h0 : Fed button threshold heard g reads h) :
    Fed button threshold heard g
      (reads ++ List.replicate (l.count (.follow g.gates.length)) g.offsetRead)
      (l.mapM (react e) h).2 := by
  induction l generalizing h reads with
  | nil => exact (List.append_nil reads).symm ▸ h0
  | cons handler rest ih =>
    have hrest := ih (fun u hu => hl u (List.mem_cons_of_mem handler hu))
      (react_fed h0 e (hl handler List.mem_cons_self))
    rw [mapM_cons_apply]
    rw [List.append_assoc] at hrest
    by_cases hfollow : handler = .follow g.gates.length
    · rw [if_pos hfollow] at hrest
      rw [hfollow, List.count_cons_self, List.replicate_succ]
      rw [hfollow] at hrest
      exact hrest
    · rw [if_neg hfollow] at hrest
      rw [List.count_cons_of_ne hfollow]
      exact hrest

/-- A handler is called as often as it is attached. -/
theorem count_handlers (h : Host) (target : Target) (type : String) (handler : Handler) :
    (h.handlers target type).count handler = h.listeners.count ⟨target, type, handler⟩ := by
  unfold handlers
  rw [List.count, List.countP_map, List.countP_filter, List.count]
  refine List.countP_congr fun l _ => ?_
  show (l.handler == handler && decide (l.target = target ∧ l.type = type)) = true ↔
    (l == ⟨target, type, handler⟩) = true
  rw [Bool.and_eq_true, beq_iff_eq, decide_eq_true_iff, beq_iff_eq]
  cases l
  rw [Listener.mk.injEq]
  exact and_comm.trans and_assoc

/-- An event feeds the gate if it is a scroll event of the window. -/
theorem dispatch_fed (h0 : Fed button threshold heard g reads h) (target : Target) (type : String)
    (hevent : ¬ (target = .document ∧ type = "DOMContentLoaded")) (e : PageEvent) :
    Fed button threshold heard g
      (reads ++ if heard && isScrollEvent target type then [g.offsetRead] else [])
      (dispatch target type e h).2 := by
  have hall : ∀ handler ∈ h.handlers target type, handler ≠ .enhance := by
    intro handler hhandler henhance
    obtain ⟨l, hl, rfl⟩ := List.mem_map.mp hhandler
    obtain ⟨hmem, hheard⟩ := List.mem_filter.mp hl
    obtain ⟨rfl, rfl⟩ := of_decide_eq_true hheard
    exact hevent (h0.listeners l hmem henhance)
  have hfed := mapM_react_fed e hall h0
  rw [count_handlers, h0.hears] at hfed
  unfold dispatch
  rw [bind_apply, handlersFor_eq]
  split <;> rename_i hscroll
  · rw [if_pos hscroll] at hfed
    exact hfed
  · rw [if_neg hscroll] at hfed
    exact hfed

/-! ### Setting up -/

/-- The button is wired: its gate is fed once, and from then on by scroll events unless they
    cannot be listened to. -/
theorem wireBackToTop_fed {b : BackToTopSettings} (h0 : Spared g.gates.length button g h)
    (hbutton : h.byId? b.elementId = some button)
    (hunheard : ∀ l ∈ g.listeners, l.handler ≠ .follow g.gates.length) :
    Fed button b.threshold (g.failures (.listen "scroll")).isNone g [g.offsetRead]
      (wireBackToTop b h).2 := by
  -- the gate is there, and was not fed
  have hmade : Fed button b.threshold false g []
      { h with gates := h.gates ++ [⟨{ threshold := b.threshold }, button⟩] } := by
    refine { h0 with gates := ?_, gate := ?_, hears := ?_, shown := nofun, asked := h0.asked }
    · intro j b' hb' hsame
      rcases Nat.lt_or_ge j h.gates.length with hlt | hge
      · rw [List.getElem?_append_left hlt] at hb'
        exact h0.gates j b' hb' hsame
      · have hlast := (List.getElem?_eq_some_iff.mp hb').1
        rw [List.length_append, List.length_singleton] at hlast
        rw [← h0.count]
        omega
    · show (h.gates ++ [_])[_]? = _
      rw [← h0.count, List.getElem?_concat_length]
      rfl
    · intro target type
      rw [h0.heard]
      exact List.count_eq_zero.mpr fun hmem => hunheard _ hmem rfl
  have hclick : Keeps (Fed button b.threshold (g.failures (.listen "scroll")).isNone g
      [g.offsetRead]) (listen (.node button) "click" .scrollUp) := keeps_fed fun _ =>
    Spared.disregards.keeps_listen fun h0 => h0.withListener Handler.noConfusion Handler.noConfusion
  have hsynced := syncGate_fed hmade
  unfold wireBackToTop
  rw [bind_apply, get_apply, hbutton]
  dsimp only
  rw [bind_apply, get_apply, bind_apply, modify_apply, bind_apply, h0.count, bind_apply]
  refine hclick _ ?_
  cases hfails : g.failures (.listen "scroll") with
  | some t =>
    rw [listen_of_fails (by rw [hsynced.failures, hfails])]
    exact keeps_fed (fun _ => Spared.disregards.keeps_say _ _) _ hsynced
  | none =>
    rw [listen_of_works (by rw [hsynced.failures, hfails])]
    exact hsynced.follow

/-- Enhancing a page wires the button, and leaves it alone before and after. -/
theorem enhancePage_fed {b : BackToTopSettings} (h0 : Alone g.gates.length button g)
    (hsettings : (readSettings g).1.1.backToTop = b) (hbutton : g.byId? b.elementId = some button)
    (hunheard : ∀ l ∈ g.listeners, l.handler ≠ .follow g.gates.length) :
    Fed button b.threshold (g.failures (.listen "scroll")).isNone g [g.offsetRead]
      (enhancePage g).2 := by
  have hnames : (readSettings g).1.1.StandardNames := (readSettings_names g).2
  have hquiet : Unshowing button (readSettings g).1.1.theme := by
    rw [Unshowing, hnames.darkClass]
    exact fun _ => ⟨by decide, by decide⟩
  have hspared : ∀ k, Disregards _ _ _ [] (Spared g.gates.length button k) := fun _ =>
    Spared.disregards
  have hfound : ∀ {k h j sel}, Spared g.gates.length button k h →
      Selector.ofText? (readSettings g).1.1.reveal.selector = some sel → j ∈ h.select sel →
      Feature.reveal = .reveal → j ≠ button := by
    rintro k h j sel hk hsel hj - rfl
    have hplain := hasClass_of_select (mem_select_standard hnames hsel hj)
    rw [hk.plain] at hplain
    cases hplain
  refine leads_enhancePage Spared.unthemed hquiet (hspared g).keeps_limitLog
    (hspared g).keeps_wantsReducedMotion (fun h hh => ?_) h0.spared
  have hothers : ∀ k, Keeps (Spared g.gates.length button k) (do
      wireReveal (readSettings g).1.1.reveal (wantsReducedMotion g).1
      wireTyping (readSettings g).1.1.typing (wantsReducedMotion g).1
      wireCommits (readSettings g).1.1.commits) := fun k =>
    ((hspared k).keeps_wireReveal rfl hfound _).bind fun _ =>
      ((hspared k).keeps_wireTyping rfl (fun _ _ => nofun) _).bind fun _ =>
      (hspared k).keeps_wireCommits rfl fun _ _ => nofun
  rw [hsettings]
  exact keeps_fed hothers _ (wireBackToTop_fed hh (hh.byId _ hbutton) hunheard)

end HostM

namespace Session

open Host HostM

variable {button : NodeId} {threshold : Binary64} {heard : Bool} {g h : Host}
  {reads : List Binary64} {s : Session}

/-! ### A visit -/

/-- A step of a visit, in which the document does not become ready again; or some call fails from
    now on or works again, but not the one that changes classes. -/
def Step.isRoughVisit : Step → Bool
  | .event target type _ => ¬ (target = .document ∧ type = "DOMContentLoaded")
  | .putFailure c _ => c ≠ .classList
  | t => t.isVisit

/-- A scroll event comes to the window. -/
def Step.isScroll : Step → Bool
  | .scroll _ => true
  | .event target type _ => isScrollEvent target type
  | _ => false

/-- A page after a step, as far as it matters to the reading of offsets. -/
def Step.scrolled (h : Host) : Step → Host
  | .scroll offset => { h with scrollY := offset }
  | .putFailure c t => h.setFailure c t
  | _ => h

/-- The offsets that are read at the scroll events of a visit. -/
def offsetsRead : Host → List Step → List Binary64
  | _, [] => []
  | h, t :: rest =>
    (if t.isScroll then [(t.scrolled h).offsetRead] else []) ++ offsetsRead (t.scrolled h) rest

/-- What a step of a visit does before the tasks run: the gate is fed if a scroll event is
    heard. -/
theorem act_fed (held : Option Nat) (h0 : Fed button threshold heard g reads h) {t : Step}
    (ht : t.isRoughVisit = true) :
    Fed button threshold heard (t.scrolled g)
      (reads ++ if heard && t.isScroll then [(t.scrolled g).offsetRead] else [])
      (act held t h).2 := by
  have hspared : ∀ k, Disregards _ _ _ [] (Spared g.gates.length button k) := fun _ =>
    Spared.disregards
  have hnone : ∀ y, reads ++ (if heard && false then [y] else []) = reads := by
    intro y
    rw [Bool.and_false]
    exact List.append_nil reads
  have hquiet : ∀ {α : Type} {act : HostM α},
      (∀ k, Keeps (Spared g.gates.length button k) act) →
      Fed button threshold heard g (reads ++ if heard && false then [g.offsetRead] else [])
        (act h).2 := by
    intro α act hact
    rw [hnone]
    exact keeps_fed hact h h0
  cases t with
  | event target type e => exact dispatch_fed h0 target type (of_decide_eq_true ht) e
  | scroll offset =>
    have hmoved : Fed button threshold heard { g with scrollY := offset } reads
        { h with scrollY := offset } := { h0 with scrollY := rfl }
    exact dispatch_fed hmoved .window "scroll" (by decide) {}
  | sight o batch =>
    exact hquiet fun k => ((hspared k).keeps_sight rfl o batch).bind fun _ => keeps_pure _
  | elapse ms =>
    exact hquiet fun k => ((hspared k).keeps_elapse nofun rfl ms).bind fun _ => keeps_pure _
  | respond d => exact hquiet fun k => ((hspared k).keeps_respond rfl d).bind fun _ => keeps_pure _
  | putFailure c t =>
    show Fed button threshold heard (g.setFailure c t)
      (reads ++ if heard && false then [(g.setFailure c t).offsetRead] else []) (h.setFailure c t)
    rw [hnone]
    exact h0.setFailure (of_decide_eq_true ht) t
  | _ => cases ht

/-- A visit: the gate is fed the offsets that are read at the scroll events, if these are
    heard. -/
theorem run_fed (h0 : Fed button threshold heard g reads s.host) {steps : List Step}
    (hsteps : ∀ t ∈ steps, t.isRoughVisit = true) :
    ∃ g', Fed button threshold heard g' (reads ++ if heard then offsetsRead g steps else [])
        (s.run steps).host ∧ g'.trace = g.trace := by
  induction steps generalizing s g reads with
  | nil =>
    refine ⟨g, ?_, rfl⟩
    rw [offsetsRead, ite_self, List.append_nil]
    exact h0
  | cons t rest ih =>
    have hstep : Fed button threshold heard (t.scrolled g)
        (reads ++ if heard && t.isScroll then [(t.scrolled g).offsetRead] else [])
        (s.step t).2.host := by
      rw [host_step]
      exact keeps_fed (fun _ => Spared.disregards.keeps_runTasks nofun) _
        (act_fed s.held h0 (hsteps t List.mem_cons_self))
    obtain ⟨g', hrun, htrace⟩ := ih hstep fun u hu => hsteps u (List.mem_cons_of_mem t hu)
    refine ⟨g', ?_, htrace.trans ?_⟩
    · rw [List.append_assoc] at hrun
      cases heard with
      | false => exact hrun
      | true => exact hrun
    · cases t <;> rfl

/-! ### From the wiring on -/

/-- The step enhances the page. -/
def Step.Enhances (h : Host) : Step → Prop
  | .enhance => h.hasWindow = true ∧ h.hasDocument = true
  | .start => h.hasWindow = true ∧ h.hasDocument = true ∧ h.readyState ≠ "loading"
  | .ready => h.hasWindow = true ∧ h.hasDocument = true ∧
    h.handlers .document "DOMContentLoaded" = [.enhance]
  | _ => False

/-- The step wires the back-to-top button by these settings, alone or with the rest of the page. -/
def Step.Wires (b : BackToTopSettings) (h : Host) (t : Step) : Prop :=
  t = .wireBackToTop b ∨ t.Enhances h ∧ (readSettings h).1.1.backToTop = b

theorem act_enhances (held : Option Nat) {t : Step} (ht : t.Enhances h) :
    ∃ readyState, (act held t h).2 = (enhancePage { h with readyState }).2 := by
  cases t with
  | enhance => exact ⟨h.readyState, congrArg Prod.snd (enhance_eq ht.1 ht.2)⟩
  | start =>
    obtain ⟨hwindow, hdocument, hready⟩ := ht
    have hstart : start h = enhance h := by
      unfold start
      rw [bind_apply, get_apply, hwindow, hdocument]
      dsimp only
      rw [Bool.and_self, if_pos rfl, if_neg hready]
    exact ⟨h.readyState, congrArg Prod.snd (hstart.trans (enhance_eq hwindow hdocument))⟩
  | ready =>
    obtain ⟨hwindow, hdocument, hone⟩ := ht
    refine ⟨"interactive", ?_⟩
    have hhandlers : ({ h with readyState := "interactive" } : Host).handlers .document
        "DOMContentLoaded" = [.enhance] := hone
    have henhance := enhance_eq (h := { h with readyState := "interactive" }) hwindow hdocument
    show (dispatch .document "DOMContentLoaded" {} { h with readyState := "interactive" }).2 = _
    rw [dispatch_of_single hhandlers, ← henhance]
    rfl
  | _ => cases ht

theorem wires_fed {b : BackToTopSettings} (h0 : Alone s.host.gates.length button s.host)
    (hbutton : s.host.byId? b.elementId = some button)
    (hunheard : ∀ l ∈ s.host.listeners, l.handler ≠ .follow s.host.gates.length) {wiring : Step}
    (hwiring : wiring.Wires b s.host) :
    Fed button b.threshold (s.host.failures (.listen "scroll")).isNone s.host
      [s.host.offsetRead] (s.step wiring).2.host := by
  have hacted : Fed button b.threshold (s.host.failures (.listen "scroll")).isNone s.host
      [s.host.offsetRead] (act s.held wiring s.host).2 := by
    rcases hwiring with rfl | ⟨henhances, hsettings⟩
    · exact wireBackToTop_fed h0.spared hbutton hunheard
    · obtain ⟨readyState, hact⟩ := act_enhances s.held henhances
      have halone : Alone s.host.gates.length button { s.host with readyState } := { h0 with }
      have hsame : (readSettings { s.host with readyState }).1 = (readSettings s.host).1 :=
        readSettings_congr rfl rfl
      have hfed := enhancePage_fed (g := { s.host with readyState }) halone (hsame ▸ hsettings)
        hbutton hunheard
      rw [hact]
      exact { hfed with }
  rw [host_step]
  exact keeps_fed (fun _ => Spared.disregards.keeps_runTasks nofun) _ hacted

/-- **A back-to-top button follows the offset, and is touched on change only.**

    Whatever offsets the gate of a button was fed, it answers the next one with its side of the
    threshold, unless the offset before was on the same side, and then stands for that side; what
    it says never repeats itself.

    Now let the button of a page be wired, by itself or with the rest of the page, such that no
    class change fails, nothing else shows or hides the button and it is not to be revealed.  Let
    the visit go on in any way that does not enhance the page again, whatever other calls fail by
    then.  At the wiring and at every scroll event that is heard an offset is read, an unreadable
    one as zero.  After the visit the button shows if and only if the last offset read is past the
    threshold, whatever class it had; and the class changes asked of it are one and as many more as
    that comparison has flipped. -/
theorem button_run (b : BackToTopSettings) :
    (∀ offsets : List Binary64,
      (∀ y, let gate := ScrollGate.feed { threshold := b.threshold } offsets
        (gate.update y).1 = (if offsets.getLast?.map b.threshold.lt = some (b.threshold.lt y)
          then none else some (b.threshold.lt y)) ∧
        (gate.update y).2.visible = b.threshold.lt y) ∧
      (ScrollGate.words { threshold := b.threshold } offsets).IsChain (· ≠ ·)) ∧
    ∀ (s : Session) (button : NodeId) (wiring : Step) (steps : List Step),
      s.host.byId? b.elementId = some button →
      Alone s.host.gates.length button s.host →
      (∀ l ∈ s.host.listeners, l.handler ≠ .follow s.host.gates.length) →
      wiring.Wires b s.host →
      (∀ t ∈ steps, t.isRoughVisit = true) →
      let heard := (s.host.failures (.listen "scroll")).isNone
      let reads := s.host.offsetRead :: if heard then offsetsRead s.host steps else []
      let later := (s.run (wiring :: steps)).host
      (later.nodeAt button).hasClass visibleClass =
        b.threshold.lt (reads.getLast (List.cons_ne_nil _ _)) ∧
      later.trace.countP (Call.asks button) = s.host.trace.countP (Call.asks button) +
        (1 + changes (reads.map b.threshold.lt)) := by
  refine ⟨fun offsets => ?_, ?_⟩
  · obtain ⟨hupdate, hchain, -⟩ := ScrollGate.update_feed b.threshold offsets
    exact ⟨hupdate, hchain⟩
  · intro s button wiring steps hbutton halone hunheard hwiring hsteps heard reads later
    obtain ⟨g', hfed, htrace⟩ := run_fed (wires_fed halone hbutton hunheard hwiring) hsteps
    obtain ⟨-, -, hlength⟩ := ScrollGate.update_feed b.threshold reads
    have hlast : reads.getLast? = some (reads.getLast (List.cons_ne_nil _ _)) :=
      List.getLast?_eq_some_getLast _
    refine ⟨hfed.shown _ hlast, ?_⟩
    rw [← hlength (List.cons_ne_nil _ _), ← htrace]
    exact hfed.asked

/-- A button that is marked as shown is wired at the top of its page.  The page is scrolled down,
    and then a scroll event comes while the offset is refused. -/
theorem button_run_refused :
    let nodes : List Node := [{ tag := "body" },
      { tag := "a", attributes := .ofList [("id", "back-to-top"), ("class", "visible")] }]
    let s : Session := { host := { nodes } }
    let steps : List Step := [.scroll (.ofInt 400), .putFailure .scrollY (some (.text "refused")),
      .event .window "scroll" {}]
    let later := (s.run (.enhance :: steps)).host
    s.host.byId? "back-to-top" = some 1 ∧ Alone s.host.gates.length 1 s.host ∧
      (∀ l ∈ s.host.listeners, l.handler ≠ .follow s.host.gates.length) ∧
      Step.Wires {} s.host .enhance ∧ (∀ t ∈ steps, t.isRoughVisit = true) ∧
      (later.nodeAt 1).hasClass visibleClass = false ∧
      later.trace.countP (Call.asks 1) = 3 := by
  intro nodes s steps later
  have hbutton : s.host.byId? "back-to-top" = some 1 := by decide +kernel
  have halone : Alone s.host.gates.length 1 s.host :=
    ⟨rfl, by decide, by decide +kernel, nofun, nofun, nofun, nofun⟩
  have hunheard : ∀ l ∈ s.host.listeners, l.handler ≠ .follow s.host.gates.length := nofun
  have hwiring : Step.Wires {} s.host .enhance := .inr ⟨⟨rfl, rfl⟩, by decide +kernel⟩
  have hsteps : ∀ t ∈ steps, t.isRoughVisit = true := by decide
  obtain ⟨hshown, hasked⟩ := (button_run {}).2 s 1 .enhance steps hbutton halone hunheard hwiring
    hsteps
  refine ⟨hbutton, halone, hunheard, hwiring, hsteps, hshown.trans ?_, hasked.trans ?_⟩
  · decide +kernel
  · decide +kernel

end Session

end Enhance
