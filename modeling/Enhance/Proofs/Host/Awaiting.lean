/-
  Enhance/Proofs/Host/Awaiting.lean
  =================================
  **A page that awaits its document, and all that does not notice.**

  A start while the document is loading leaves a listener behind and nothing
  else.  No action but another start and the event itself looks at that listener,
  at the state of the document or at the effects listed so far: it has the same
  answer on the page that awaits its document as on the one that does not, and
  the two pages go on to differ in nothing else (`Unaware`).
-/
import Enhance.Host.Session
import Enhance.Proofs.Action
import Enhance.Proofs.Theme.View

namespace Enhance

/-- The page as it is when its document is awaited: the listener of the start comes before
    all others, and these effects before all that were listed. -/
def Host.awaiting (h : Host) (ready : String) (called : List Call) : Host :=
  { h with
    readyState := ready
    listeners := ⟨.document, "DOMContentLoaded", .enhance⟩ :: h.listeners
    trace := called ++ h.trace }

namespace HostM

open Host

variable {ready : String} {called : List Call} {α β : Type} {i o : Nat}

/-- The action does not notice that the document is awaited. -/
def Unaware (ready : String) (called : List Call) (act : HostM α) : Prop :=
  Matches Eq (fun h k => k = h.awaiting ready called) act act

/-! ### Sequences -/

theorem unaware_pure (a : α) : Unaware ready called (pure a) := matches_pure rfl

theorem Unaware.bind {x : HostM α} {f : α → HostM β} (hx : Unaware ready called x)
    (hf : ∀ a, Unaware ready called (f a)) : Unaware ready called (x >>= f) := Matches.then hx hf

/-- What is looked at is the same on both pages. -/
theorem unaware_get {f : Host → HostM α} (hsame : ∀ h : Host, f (h.awaiting ready called) = f h)
    (hf : ∀ h, Unaware ready called (f h)) : Unaware ready called (get >>= f) := by
  rintro h _ rfl
  rw [bind_apply, get_apply, bind_apply, get_apply, hsame]
  exact hf h h _ rfl

theorem unaware_modify {f : Host → Host}
    (hf : ∀ h : Host, f (h.awaiting ready called) = (f h).awaiting ready called) :
    Unaware ready called (modify f) := by
  refine matches_modify ?_
  rintro h _ rfl
  exact hf h

theorem Unaware.forM {l : List α} {f : α → HostM Unit} (hf : ∀ a, Unaware ready called (f a)) :
    Unaware ready called (l.forM f) := Matches.forM_same fun a _ => hf a

theorem Unaware.mapM {l : List α} {f : α → HostM β} (hf : ∀ a, Unaware ready called (f a)) :
    Unaware ready called (l.mapM f) := Matches.mapM_same fun a _ => hf a

/-! ### Effects -/

theorem unaware_record (call : Call) : Unaware ready called (record call) := by
  refine unaware_modify fun h => ?_
  simp [awaiting]

theorem unaware_say (level : Log.Level) (text : String) :
    Unaware ready called (say level text) := by
  refine unaware_modify fun h => ?_
  show (if (h.logLimit.map level.within).getD true then _ else _) = _
  split <;> rfl

theorem Unaware.attempt {act : HostM (Except Thrown α)} (hact : Unaware ready called act)
    (c : Failable) : Unaware ready called (attempt c act) := by
  refine unaware_get (fun _ => rfl) fun h => ?_
  cases h.failures c with
  | some t => exact unaware_pure _
  | none => exact hact

theorem unaware_node (i : NodeId) : Unaware ready called (node i) :=
  unaware_get (fun _ => rfl) fun _ => unaware_pure _

theorem unaware_editNode (i : NodeId) (f : Node → Node) : Unaware ready called (editNode i f) :=
  unaware_modify fun _ => rfl

theorem unaware_setMarkup (i : NodeId) (html : String) :
    Unaware ready called (setMarkup i html) :=
  (unaware_record _).bind fun _ => unaware_editNode _ _

theorem unaware_setText (i : NodeId) (text : String) : Unaware ready called (setText i text) :=
  (unaware_record _).bind fun _ => unaware_editNode _ _

theorem unaware_setStyle (i : NodeId) (property value : String) :
    Unaware ready called (setStyle i property value) :=
  (unaware_record _).bind fun _ => unaware_editNode _ _

theorem unaware_setId (i : NodeId) (id : String) : Unaware ready called (setId i id) :=
  (unaware_record _).bind fun _ => unaware_editNode _ _

theorem unaware_setAttribute (i : NodeId) (name value : String) :
    Unaware ready called (setAttribute i name value) :=
  .attempt ((unaware_record _).bind fun _ => (unaware_editNode _ _).bind fun _ => unaware_pure _) _

theorem unaware_tryAttribute (i : NodeId) (name value : String) :
    Unaware ready called (tryAttribute i name value) :=
  (unaware_setAttribute _ _ _).bind fun _ => unaware_pure _

theorem unaware_markClass (i : NodeId) (name : String) (present : Bool) :
    Unaware ready called (markClass i name present) := by
  have hput : Unaware ready called (putClass i name present) := by
    refine .attempt ?_ _
    cases classFault? name with
    | some t => exact unaware_pure _
    | none => exact (unaware_record _).bind fun _ => (unaware_editNode _ _).bind fun _ =>
        unaware_pure _
  refine hput.bind fun outcome => ?_
  cases outcome with
  | ok u => exact unaware_pure _
  | error t => exact unaware_say _ _

theorem unaware_createElement (tag : String) : Unaware ready called (createElement tag) :=
  .attempt (unaware_get (fun _ => rfl) fun _ => (unaware_record _).bind fun _ =>
    (unaware_modify fun _ => rfl).bind fun _ => unaware_pure _) _

theorem unaware_appendChild (parent child : NodeId) :
    Unaware ready called (appendChild parent child) :=
  .attempt ((unaware_record _).bind fun _ => (unaware_editNode _ _).bind fun _ => unaware_pure _) _

theorem unaware_querySelectorAll (selector : String) :
    Unaware ready called (querySelectorAll selector) := by
  refine .attempt ?_ _
  cases Selector.ofText? selector with
  | some s => exact unaware_get (fun _ => rfl) fun _ => unaware_pure _
  | none => exact unaware_pure _

/-- A listener that is added comes last on both pages. -/
theorem unaware_listen (target : Target) (type : String) (handler : Handler) :
    Unaware ready called (listen target type handler) := by
  have hadd : Unaware ready called (addListener target type handler) :=
    .attempt ((unaware_record _).bind fun _ => (unaware_modify fun _ => rfl).bind fun _ =>
      unaware_pure _) _
  refine hadd.bind fun outcome => ?_
  cases outcome with
  | ok u => exact unaware_pure _
  | error t => exact unaware_say _ _

theorem unaware_scrollOffset : Unaware ready called scrollOffset :=
  .attempt (unaware_get (fun _ => rfl) fun _ => unaware_pure _) _

theorem unaware_wantsReducedMotion : Unaware ready called wantsReducedMotion := by
  refine (unaware_record _).bind fun _ => unaware_get (fun _ => rfl) fun h => ?_
  cases h.failures .matchMedia <;> exact unaware_pure _

theorem unaware_findStore : Unaware ready called findStore := by
  refine unaware_get (fun _ => rfl) fun h => ?_
  cases h.failures .localStorage <;> exact unaware_pure _

theorem unaware_getItem (key : String) : Unaware ready called (getItem key) :=
  (unaware_record _).bind fun _ =>
    .attempt (unaware_get (fun _ => rfl) fun _ => unaware_pure _) _

theorem unaware_setItem (key value : String) : Unaware ready called (setItem key value) :=
  (unaware_record _).bind fun _ =>
    .attempt ((unaware_modify fun _ => rfl).bind fun _ => unaware_pure _) _

theorem unaware_makeObserver (threshold : Binary64) (step cap : UInt32) :
    Unaware ready called (makeObserver threshold step cap) :=
  .attempt ((unaware_record _).bind fun _ => unaware_get (fun _ => rfl) fun _ =>
    (unaware_modify fun _ => rfl).bind fun _ => unaware_pure _) _

theorem unaware_observe (o : Nat) (i : NodeId) : Unaware ready called (observe o i) :=
  (unaware_record _).bind fun _ => unaware_modify fun _ => rfl

theorem unaware_unobserve (o : Nat) (i : NodeId) : Unaware ready called (unobserve o i) :=
  (unaware_record _).bind fun _ => unaware_modify fun _ => rfl

theorem unaware_spawn (t : Task) : Unaware ready called (spawn t) := unaware_modify fun _ => rfl

theorem unaware_makeTimer (delay : UInt32) : Unaware ready called (makeTimer delay) := by
  refine (unaware_record _).bind fun _ => ?_
  rintro h _ rfl
  exact ⟨rfl, rfl⟩

/-! ### The theme -/

theorem unaware_switch (i : Nat) : Unaware ready called (switch i) :=
  unaware_get (fun _ => rfl) fun _ => unaware_pure _

theorem unaware_createControl (id : String) : Unaware ready called (createControl id) := by
  refine (unaware_createElement _).bind fun made => ?_
  cases made with
  | error t => exact unaware_pure _
  | ok button =>
    refine (unaware_setId _ _).bind fun _ => (unaware_setAttribute _ _ _).bind fun typed => ?_
    cases typed with
    | error t => exact unaware_pure _
    | ok u =>
      refine (unaware_appendChild _ _).bind fun appended => ?_
      cases appended <;> exact unaware_pure _

theorem unaware_setControl (i : Nat) (control : NodeId) :
    Unaware ready called (setControl i control) := unaware_modify fun _ => rfl

theorem unaware_ensureControl (i : Nat) : Unaware ready called (ensureControl i) := by
  refine (unaware_switch i).bind fun s => ?_
  split
  · exact unaware_pure _
  · refine unaware_get (fun _ => rfl) fun h => ?_
    cases h.byId? s.settings.toggleId with
    | some found => exact (unaware_setControl _ _).bind fun _ => unaware_pure _
    | none =>
      refine (unaware_createControl _).bind fun made => ?_
      cases made with
      | ok button => exact (unaware_setControl _ _).bind fun _ => unaware_pure _
      | error t => exact (unaware_say _ _).bind fun _ => unaware_pure _

theorem unaware_renderControl (i : Nat) (offer : Offer) :
    Unaware ready called (renderControl i offer) := by
  refine (unaware_switch i).bind fun s => ?_
  cases s.control with
  | none => exact unaware_pure _
  | some control =>
    exact (unaware_setMarkup _ _).bind fun _ => (unaware_tryAttribute _ _ _).bind fun _ =>
      unaware_tryAttribute _ _ _

/-- A switch shows the same on both pages. -/
theorem twin_awaiting (i : Nat) :
    (surface i).Twin (surface i) fun h k => k = h.awaiting ready called where
  read key := by
    refine Matches.then (unaware_switch i) fun s => ?_
    split
    · exact (unaware_getItem key).bind fun _ => unaware_pure _
    · exact unaware_pure _
  write key value := by
    refine Matches.then (unaware_switch i) fun s => ?_
    split
    · exact (unaware_setItem key value).bind fun _ => unaware_pure _
    · exact unaware_pure _
  isDark := (unaware_switch i).bind fun _ => (unaware_node 0).bind fun _ => unaware_pure _
  setDark dark := (unaware_switch i).bind fun _ => unaware_markClass _ _ _
  ensureControl := unaware_ensureControl i
  renderControl := unaware_renderControl i
  say := unaware_say

theorem unaware_operate_start (i : Nat) : Unaware ready called (operate Surface.start i) :=
  (unaware_switch i).bind fun s => (twin_awaiting i).start s.settings

theorem unaware_flipTheme (i : Nat) : Unaware ready called (flipTheme i) :=
  (unaware_switch i).bind fun s => (twin_awaiting i).flip s.settings

theorem unaware_makeSwitch (settings : ThemeSettings) :
    Unaware ready called (makeSwitch settings) := by
  have hadd : ∀ hasStore : Bool, Unaware ready called (modifyGet fun h : Host =>
      (h.switches.length, { h with switches := h.switches ++ [⟨settings, hasStore, none⟩] })) := by
    rintro hasStore h _ rfl
    exact ⟨rfl, rfl⟩
  refine unaware_findStore.bind fun hasStore => ?_
  split
  · exact (unaware_say _ _).bind fun _ => hadd _
  · exact hadd _

theorem unaware_bindControl (i : Nat) : Unaware ready called (bindControl i) := by
  refine (unaware_switch i).bind fun s => ?_
  cases s.control with
  | none => exact unaware_pure _
  | some control =>
    refine (unaware_node control).bind fun n => ?_
    split
    · exact unaware_pure _
    · exact (unaware_tryAttribute _ _ _).bind fun _ => unaware_listen _ _ _

theorem unaware_wireTheme (settings : ThemeSettings) :
    Unaware ready called (wireTheme settings) := by
  refine unaware_get (fun _ => rfl) fun h => ?_
  cases h.body? with
  | none => exact (unaware_say _ _).bind fun _ => unaware_pure _
  | some body =>
    exact (unaware_makeSwitch _).bind fun i => (unaware_operate_start i).bind fun _ =>
      (unaware_bindControl i).bind fun _ => unaware_pure _

/-! ### The other features -/

theorem unaware_syncGate (i : Nat) : Unaware ready called (syncGate i) := by
  refine unaware_scrollOffset.bind fun offset => unaware_get (fun _ => rfl) fun h => ?_
  cases h.gates[i]? with
  | none => exact unaware_pure _
  | some g =>
    refine (unaware_modify fun _ => rfl).bind fun _ => ?_
    split
    · exact unaware_markClass _ _ _
    · exact unaware_pure _

theorem unaware_wireBackToTop (settings : BackToTopSettings) :
    Unaware ready called (wireBackToTop settings) := by
  refine unaware_get (fun _ => rfl) fun h => ?_
  cases h.byId? settings.elementId with
  | none => exact unaware_say _ _
  | some button =>
    exact unaware_get (fun _ => rfl) fun _ => (unaware_modify fun _ => rfl).bind fun _ =>
      (unaware_syncGate _).bind fun _ => (unaware_listen _ _ _).bind fun _ => unaware_listen _ _ _

theorem unaware_revealAll (l : List NodeId) : Unaware ready called (revealAll l) :=
  .forM fun _ => unaware_markClass _ _ _

theorem unaware_wireReveal (settings : RevealSettings) (reducedMotion : Bool) :
    Unaware ready called (wireReveal settings reducedMotion) := by
  refine (unaware_querySelectorAll _).bind fun found => ?_
  split
  · exact unaware_say _ _
  · exact unaware_say _ _
  · split
    · exact unaware_revealAll _
    · refine (unaware_makeObserver _ _ _).bind fun made => ?_
      cases made with
      | error t => exact (unaware_say _ _).bind fun _ => unaware_revealAll _
      | ok o => exact .forM fun _ => unaware_observe _ _

theorem unaware_wireTyping (settings : TypingSettings) (reducedMotion : Bool) :
    Unaware ready called (wireTyping settings reducedMotion) := by
  refine unaware_get (fun _ => rfl) fun h => ?_
  cases h.byId? settings.elementId with
  | none => exact unaware_say _ _
  | some i =>
    refine (unaware_node i).bind fun n => ?_
    dsimp only
    split
    · exact unaware_pure _
    · exact (unaware_setText _ _).bind fun _ => unaware_spawn _

theorem unaware_wireCommits (settings : CommitSettings) :
    Unaware ready called (wireCommits settings) := by
  refine unaware_get (fun _ => rfl) fun h => ?_
  dsimp only
  cases lastUpdatedUrl settings (h.byId? settings.elementId).isSome with
  | error skip => exact unaware_say _ _
  | ok url =>
    cases h.byId? settings.elementId with
    | none => exact unaware_pure _
    | some i => exact unaware_get (fun _ => rfl) fun _ => unaware_spawn _

theorem unaware_readSettings : Unaware ready called readSettings := by
  refine unaware_get (fun _ => rfl) fun h => ?_
  cases h.body? with
  | none => exact unaware_pure _
  | some i => exact (unaware_node i).bind fun _ => unaware_pure _

theorem unaware_enhancePage : Unaware ready called enhancePage := by
  refine unaware_readSettings.bind fun asked => ?_
  obtain ⟨s, rejected⟩ := asked
  have hfeatures : ∀ reducedMotion, Unaware ready called (do
      wireBackToTop s.backToTop
      wireReveal s.reveal reducedMotion
      wireTyping s.typing reducedMotion
      wireCommits s.commits) := fun reducedMotion =>
    (unaware_wireBackToTop _).bind fun _ => (unaware_wireReveal _ _).bind fun _ =>
      (unaware_wireTyping _ _).bind fun _ => unaware_wireCommits _
  refine (unaware_modify fun _ => rfl).bind fun _ => ?_
  refine Unaware.bind (.forM fun _ => unaware_say _ _) fun _ => ?_
  refine unaware_wantsReducedMotion.bind fun reducedMotion => ?_
  refine (unaware_wireTheme _).bind fun made => ?_
  cases made with
  | none => exact hfeatures reducedMotion
  | some i => exact (unaware_listen _ _ _).bind fun _ => hfeatures reducedMotion

theorem unaware_enhance : Unaware ready called enhance := by
  refine unaware_get (fun _ => rfl) fun h => ?_
  split
  · exact unaware_enhancePage
  · exact unaware_pure _

/-! ### Events -/

theorem unaware_keystroke (e : PageEvent) : Unaware ready called (keystroke e) := by
  unfold keystroke
  cases e.source with
  | none => exact (unaware_pure _).bind fun _ => unaware_pure _
  | some i => exact ((unaware_node i).bind fun _ => unaware_pure _).bind fun _ => unaware_pure _

theorem unaware_react (e : PageEvent) (handler : Handler) :
    Unaware ready called (react e handler) := by
  cases handler with
  | enhance => exact unaware_enhance.bind fun _ => unaware_pure _
  | flip i => exact (unaware_flipTheme i).bind fun _ => unaware_pure _
  | follow i => exact (unaware_syncGate i).bind fun _ => unaware_pure _
  | scrollUp => exact (unaware_record _).bind fun _ => unaware_pure _
  | shortcut chord i =>
    rw [react]
    split
    · exact unaware_pure _
    · refine (unaware_keystroke e).bind fun pressed => ?_
      split
      · exact (unaware_flipTheme i).bind fun _ => (unaware_say _ _).bind fun _ => unaware_pure _
      · exact unaware_pure _

/-- The listener of the start is called for its event only. -/
theorem unaware_dispatch {target : Target} {type : String}
    (hother : ¬ (target = .document ∧ type = "DOMContentLoaded")) (e : PageEvent) :
    Unaware ready called (dispatch target type e) := by
  have hhandlers : Unaware ready called (handlersFor target type) := by
    refine unaware_get (fun h => ?_) fun _ => unaware_pure _
    have hskipped : ¬ (Target.document = target ∧ "DOMContentLoaded" = type) :=
      fun h => hother ⟨h.1.symm, h.2.symm⟩
    simp [awaiting, hskipped]
  exact hhandlers.bind fun _ => (Unaware.mapM (unaware_react e)).bind fun _ => unaware_pure _

theorem unaware_revealBatch (o : Nat) (step cap : UInt32) (k : Nat) (batch : List Sighting) :
    Unaware ready called (revealBatch o step cap k batch) := by
  induction batch generalizing k with
  | nil => exact unaware_pure _
  | cons s rest ih =>
    cases s with
    | other => exact ih k
    | entry i inView =>
      cases inView with
      | false => exact ih k
      | true =>
        have hshow : Unaware ready called (do
            markClass i visibleClass true
            unobserve o i
            revealBatch o step cap (k + 1) rest) :=
          (unaware_markClass _ _ _).bind fun _ => (unaware_unobserve _ _).bind fun _ => ih (k + 1)
        rw [revealBatch]
        refine (unaware_node i).bind fun n => ?_
        split
        · exact (unaware_setStyle _ _ _).bind fun _ => hshow
        · exact hshow

theorem unaware_sight (o : Nat) (batch : List Sighting) : Unaware ready called (sight o batch) := by
  refine unaware_get (fun _ => rfl) fun h => ?_
  cases h.observers[o]? with
  | none => exact unaware_pure _
  | some observer => exact (unaware_revealBatch _ _ _ _ _).bind fun _ => unaware_pure _

/-! ### Tasks -/

theorem unaware_awaitKey (i : NodeId) (delay : UInt32) (writer : Typewriter) :
    Unaware ready called (awaitKey i delay writer) := by
  unfold awaitKey
  cases writer.left with
  | nil => exact unaware_pure _
  | cons c rest => exact (unaware_makeTimer _).bind fun _ => unaware_pure _

theorem unaware_receive (d : Delivery) : Unaware ready called (receive d) := by
  cases d with
  | failure reason => exact unaware_pure _
  | reply status body =>
    rw [receive]
    split
    · exact (unaware_record _).bind fun _ => unaware_pure _
    · exact unaware_pure _
  | brokenBody status reason =>
    rw [receive]
    split
    · exact (unaware_record _).bind fun _ => unaware_pure _
    · exact unaware_pure _

theorem unaware_refresh (i : NodeId) (brought : Except FetchFault Reply) (url : String)
    (offset : Int) : Unaware ready called ((commitPort i brought).refresh url offset) := by
  refine (unaware_pure brought).bind fun answer => ?_
  unfold CommitPort.conclude
  dsimp only
  refine Unaware.bind (.forM fun _ => unaware_say _ _) fun _ => ?_
  cases (classify answer).1.render offset with
  | error overrun => exact unaware_pure _
  | ok text => exact (unaware_setText _ _).bind fun _ => unaware_pure _

theorem unaware_runTask (t : Task) : Unaware ready called (runTask t) := by
  cases t with
  | typing i delay writer phase =>
    cases phase with
    | ready => exact (unaware_awaitKey _ _ _).bind fun _ => unaware_pure _
    | waiting deadline age => exact unaware_pure _
    | woken =>
      rw [runTask]
      split
      · exact unaware_pure _
      · exact (unaware_setText _ _).bind fun _ => (unaware_awaitKey _ _ _).bind fun _ =>
          unaware_pure _
  | commit i url offset phase =>
    cases phase with
    | ready => exact (unaware_record _).bind fun _ => unaware_pure _
    | waiting => exact unaware_pure _
    | answered d =>
      refine (unaware_receive d).bind fun brought => (unaware_refresh _ _ _ _).bind ?_
      intro outcome
      cases outcome with
      | error overrun => exact unaware_pure _
      | ok status => exact (unaware_say _ _).bind fun _ => unaware_pure _

theorem unaware_runTasks : Unaware ready called runTasks :=
  unaware_get (fun _ => rfl) fun _ => (Unaware.mapM unaware_runTask).bind fun _ =>
    (unaware_modify fun _ => rfl).bind fun _ => unaware_pure _

theorem unaware_fireDue (limit keys : Nat) : Unaware ready called (fireDue limit keys) := by
  induction keys with
  | zero => exact unaware_pure _
  | succ keys ih =>
    refine unaware_get (fun _ => rfl) fun h => ?_
    cases h.firstTimer? with
    | none => exact unaware_pure _
    | some timer =>
      dsimp only
      split
      · exact unaware_pure _
      · refine ((unaware_modify fun _ => rfl).bind fun _ => unaware_runTasks).bind fun broken => ?_
        cases broken with
        | some overrun => exact unaware_pure _
        | none => exact ih

theorem unaware_elapse (ms : Nat) : Unaware ready called (elapse ms) :=
  unaware_get (fun _ => rfl) fun _ => (unaware_fireDue _ _).bind fun _ =>
    (unaware_modify fun _ => rfl).bind fun _ => unaware_pure _

theorem unaware_respond (d : Delivery) : Unaware ready called (respond d) := by
  refine unaware_get (fun _ => rfl) fun h => ?_
  cases answerFirst d h.tasks with
  | none => exact unaware_pure _
  | some tasks => exact (unaware_modify fun _ => rfl).bind fun _ => unaware_pure _

end HostM

end Enhance
