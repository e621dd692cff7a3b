/-
  Enhance/Proofs/Host/Footprint.lean
  ==================================
  **The features of a page do not get in each other's way.**

  Whatever happens on a page that was set up is the business of one feature: a
  click or a key of the theme, scrolling of back-to-top, coming into view of
  reveal, time of typing, a reply of last-update.  Each of these is confined to
  the cells of its feature, so that two of different features have the same
  outcome in either order.
-/
import Enhance.Proofs.Host.Region

namespace Enhance

/-! ### Changes of one part of a node -/

namespace Node

/-- The change is of one part of a node, and depends on that part only. -/
structure Writes (k : Spot) (act : Node → Node) : Prop where
  frame : ∀ n, ∀ k' ≠ k, (act n).see k' = n.see k'
  own : ∀ {n n' : Node}, n.see k = n'.see k → (act n).see k = (act n').see k

theorem writes_setText (text : String) : Writes .content fun n => n.setText text where
  frame := by
    intro n k hk
    cases k with
    | content => exact absurd rfl hk
    | _ => rfl
  own _ := rfl

theorem writes_setMarkup (html : String) : Writes .content fun n => n.setMarkup html where
  frame := by
    intro n k hk
    cases k with
    | content => exact absurd rfl hk
    | _ => rfl
  own _ := rfl

theorem writes_setStyle (property value : String) :
    Writes .style fun n => n.setStyle property value where
  frame := by
    intro n k hk
    cases k with
    | style => exact absurd rfl hk
    | _ => rfl
  own {n n'} hsame := by
    have hstyle : n.style = n'.style := hsame
    show n.style.insert property value = n'.style.insert property value
    rw [hstyle]

theorem writes_setAttribute {name : String} (hname : name ≠ "class") (value : String) :
    Writes (.named name) fun n => n.setAttribute name value where
  frame := by
    intro n k hk
    cases k with
    | named other =>
      have hother : other ≠ name := fun heq => hk (by rw [heq])
      show (if other = "class" then none else _) = if other = "class" then none else _
      rw [get?_setAttribute, if_neg hother]
    | className c => exact hasClass_congr (Table.get?_insert_of_ne _ (Ne.symm hname) _)
    | _ => rfl
  own {n n'} _ := by
    show (if name = "class" then none else _) = if name = "class" then none else _
    rw [get?_setAttribute, get?_setAttribute, if_pos rfl, if_pos rfl]

theorem writes_putClass {name : String} (hname : IsToken name) (present : Bool) :
    Writes (.className name) fun n => n.putClass name present where
  frame := by
    intro n k hk
    cases k with
    | className other =>
      have hother : other ≠ name := fun heq => hk (by rw [heq])
      show (n.putClass name present).hasClass other = n.hasClass other
      rw [hasClass_putClass hname, if_neg hother]
    | named other =>
      show (if other = "class" then none else _) = if other = "class" then none else _
      by_cases hother : other = "class"
      · rw [if_pos hother, if_pos hother]
      · rw [get?_putClass_of_ne hother]
    | _ =>
      -- the rest of the node is not in the attribute that lists the classes
      rcases n.putClass_eq_or name present with hsame | ⟨value, hset⟩
      · rw [hsame]
      · rw [hset]
        rfl
  own {n n'} _ := by
    show (n.putClass name present).hasClass name = (n'.putClass name present).hasClass name
    rw [hasClass_putClass hname, hasClass_putClass hname, if_pos rfl, if_pos rfl]

end Node

namespace Host

open HostM

variable {g h h' : Host} {f : Feature} {i : NodeId} {k : Spot} {act : Node → Node}

theorem nodeAt_edit (h : Host) (i : NodeId) (act : Node → Node) :
    (h.edit i act).nodeAt i = if i < h.nodes.length then act (h.nodeAt i) else h.nodeAt i := by
  by_cases hi : i < h.nodes.length
  · rw [if_pos hi, nodeAt_edit_self hi]
  · rw [if_neg hi, nodeAt, getElem?_edit_self,
      List.getElem?_eq_none (Nat.le_of_not_lt hi), nodeAt,
      List.getElem?_eq_none (Nat.le_of_not_lt hi)]
    rfl

theorem look_edit (hact : Node.Writes k act) (h : Host) :
    ∀ c ≠ Cell.node i k, (h.edit i act).look c = h.look c := by
  intro c hc
  cases c with
  | size => exact length_edit h i act
  | node j k' =>
    show ((h.edit i act).nodeAt j).see k' = (h.nodeAt j).see k'
    by_cases hij : i = j
    · subst hij
      rw [nodeAt_edit]
      split
      · exact hact.frame _ k' fun heq => hc (by rw [heq])
      · rfl
    · rw [nodeAt_edit_of_ne hij]
  | _ => rfl

theorem Quiet.congr (h0 : Quiet g f h) (harranged : Arranged g h') (htasks : h'.tasks = h.tasks) :
    Quiet g f h' :=
  ⟨harranged, htasks ▸ h0.idle⟩

namespace SameFor

theorem listeners (hsame : SameFor g f h h') : h.listeners = h'.listeners :=
  congrArg Prod.fst (hsame .setup (.inl rfl))

theorem switches (hsame : SameFor g f h h') : h.switches = h'.switches :=
  congrArg Prod.snd (hsame .setup (.inl rfl))

theorem kind (hsame : SameFor g f h h') (i : NodeId) :
    (h.nodeAt i).see .kind = (h'.nodeAt i).see .kind :=
  hsame (.node i .kind) (.inl rfl)

end SameFor

/-! ### Actions that touch one cell or none -/

namespace Confined

/-- Only the log and the list of effects are changed. -/
theorem unseen {α : Type} {act : HostM α} (a : α)
    (hact : ∀ h, Quiet g f h → ∃ log trace, act h = (a, { h with log, trace })) :
    Confined g f act where
  keeps := by
    intro h h0
    obtain ⟨log, trace, heq⟩ := hact h h0
    rw [heq]
    exact h0.congr (h0.toArranged.congr rfl rfl rfl rfl rfl rfl rfl) rfl
  frame := by
    intro h h0 c hc
    obtain ⟨log, trace, heq⟩ := hact h h0
    rw [heq]
    cases c <;> rfl
  answer := by
    intro h h' h0 h0' _
    obtain ⟨log, trace, heq⟩ := hact h h0
    obtain ⟨log', trace', heq'⟩ := hact h' h0'
    rw [heq, heq']
  own := by
    intro h h' h0 h0' hsame c hc
    obtain ⟨log, trace, heq⟩ := hact h h0
    obtain ⟨log', trace', heq'⟩ := hact h' h0'
    have hcell := hsame c (.inr hc)
    rw [heq, heq']
    cases c <;> exact hcell

theorem record (call : Call) : Confined g f (HostM.record call) :=
  unseen () fun h _ => ⟨h.log, h.trace ++ [call], rfl⟩

theorem say (level : Log.Level) (text : String) : Confined g f (HostM.say level text) := by
  refine unseen () fun h _ => ?_
  obtain ⟨log, hlog⟩ := say_eq (h := h) level text
  exact ⟨log, h.trace, hlog⟩

theorem editNode (hk : k.owner? g i = some f) (hact : Node.Writes k act)
    (halike : ∀ n, Node.Alike "fade-in" n (act n)) : Confined g f (HostM.editNode i act) := by
  refine cell (k := .node i k) hk ?_ (look_edit hact) ?_
  · intro h h0
    exact h0.congr (h0.toArranged.edit halike) rfl
  · intro h h' hsame
    have hsize : h.nodes.length = h'.nodes.length := hsame .size (.inl rfl)
    have hspot : (h.nodeAt i).see k = (h'.nodeAt i).see k := hsame (.node i k) (.inr hk)
    show ((h.edit i act).nodeAt i).see k = ((h'.edit i act).nodeAt i).see k
    rw [nodeAt_edit, nodeAt_edit, hsize]
    split
    · exact hact.own hspot
    · exact hspot

theorem setText (hk : Spot.content.owner? g i = some f) (text : String) :
    Confined g f (HostM.setText i text) :=
  (record _).bind fun _ => editNode hk (Node.writes_setText text) fun _ => ⟨⟨rfl, rfl⟩, rfl⟩

theorem setMarkup (hk : Spot.content.owner? g i = some f) (html : String) :
    Confined g f (HostM.setMarkup i html) :=
  (record _).bind fun _ => editNode hk (Node.writes_setMarkup html) fun _ => ⟨⟨rfl, rfl⟩, rfl⟩

theorem setStyle (hk : Spot.style.owner? g i = some f) (property value : String) :
    Confined g f (HostM.setStyle i property value) :=
  (record _).bind fun _ => editNode hk (Node.writes_setStyle property value) fun _ =>
    ⟨⟨rfl, rfl⟩, rfl⟩

theorem tryAttribute {name : String} (hk : (Spot.named name).owner? g i = some f)
    (hclass : name ≠ "class") (hid : name ≠ "id") (value : String) :
    Confined g f (HostM.tryAttribute i name value) := by
  have hedit : Confined g f (do
      HostM.record (.setAttribute i name value)
      HostM.editNode i fun n => n.setAttribute name value) :=
    (record _).bind fun _ => editNode hk (Node.writes_setAttribute hclass value) fun n =>
      n.alike_setAttribute name value hid hclass
  exact hedit.congr fun h h0 => tryAttribute_eq h0.sound name value

theorem markClass {name : String} (hk : (Spot.className name).owner? g i = some f)
    (hname : Node.IsToken name) (hne : "fade-in" ≠ name) (present : Bool) :
    Confined g f (HostM.markClass i name present) := by
  have hedit : Confined g f (do
      HostM.record (if present then .addClass i name else .removeClass i name)
      HostM.editNode i fun n => n.putClass name present) :=
    (record _).bind fun _ => editNode hk (Node.writes_putClass hname present) fun n =>
      n.alike_putClass hname hne
  exact hedit.congr fun h h0 => markClass_eq h0.sound hname present

/-! ### The theme -/

theorem owner?_content_of_owns (hi : g.Owns .theme i) : Spot.content.owner? g i = some .theme := by
  have htagline : (g.nodeAt i).id? ≠ some "tagline" := fun hid => absurd (hi _ hid) (by decide)
  have hupdated : (g.nodeAt i).id? ≠ some "last-updated" :=
    fun hid => absurd (hi _ hid) (by decide)
  rw [Spot.owner?, if_neg htagline, if_neg hupdated]

section Theme

variable {n : Nat}

/-- What a switch does, for each state that it may be in. -/
theorem withSwitch {α : Type} {act : BodySwitch → HostM α}
    (hact : ∀ b : BodySwitch, b.settings.darkClass = "dark-mode" →
      (∀ c, b.control = some c → g.Owns .theme c) → Confined g f (act b)) :
    Confined g f (switch n >>= act) := by
  refine reading (fun h => (switch n h).1) ?_ ?_
  · intro h h' _ _ hsame
    rw [switch_apply, switch_apply, hsame.switches]
  · intro k hk
    obtain ⟨⟨hdark, -⟩, hcontrol⟩ := Arranged.unthemed.known_switch hk.toArranged n
    refine ⟨act (switch n k).1, hact _ hdark hcontrol, ?_⟩
    intro h _ heq
    rw [bind_apply, heq]
    rfl

theorem isDark : Confined g .theme (surface n).isDark := by
  refine withSwitch fun b hdark _ => ?_
  rw [hdark]
  refine reading (fun h => (h.nodeAt 0).hasClass "dark-mode") ?_ ?_
  · intro h h' _ _ hsame
    exact hsame (.node 0 (.className "dark-mode")) (.inr rfl)
  · intro k _
    refine ⟨_, pure ((k.nodeAt 0).hasClass "dark-mode"), ?_⟩
    intro h _ heq
    exact Prod.ext heq rfl

theorem setDark (dark : Bool) : Confined g .theme ((surface n).setDark dark) := by
  refine withSwitch fun b hdark _ => ?_
  rw [hdark]
  exact markClass rfl isToken_darkMode (by decide) dark

theorem renderControl (o : Offer) : Confined g .theme ((surface n).renderControl o) := by
  refine withSwitch fun b _ hcontrol => ?_
  cases hb : b.control with
  | none => exact pure _
  | some c =>
    have howner := owner?_content_of_owns (hcontrol c hb)
    exact (setMarkup howner _).bind fun _ =>
      (tryAttribute rfl (by decide) (by decide) _).bind fun _ =>
        tryAttribute rfl (by decide) (by decide) _

theorem write (key value : String) : Confined g .theme ((surface n).write key value) := by
  have hset : Confined g .theme (setItem key value) := by
    have hmodify : Confined g .theme (modify fun h : Host =>
        { h with storage := h.storage.map fun t => t.insert key value } : HostM Unit) := by
      refine cell (k := .storage) rfl ?_ ?_ ?_
      · intro h h0
        exact h0.congr (h0.toArranged.congr rfl rfl rfl rfl rfl rfl rfl) rfl
      · intro h c hc
        cases c with
        | storage => exact absurd rfl hc
        | _ => rfl
      · intro h h' hsame
        have hstorage : h.storage = h'.storage := hsame .storage (.inr rfl)
        show h.storage.map _ = h'.storage.map _
        rw [hstorage]
    have hwrite : Confined g .theme (do
        HostM.record (.setItem key value)
        modify fun h : Host => { h with storage := h.storage.map fun t => t.insert key value }
        return .ok () : HostM (Except Thrown Unit)) :=
      (record _).bind fun _ => hmodify.bind fun _ => pure _
    exact hwrite.congr fun h h0 => setItem_eq h0.sound key value
  refine withSwitch fun b _ _ => ?_
  split
  · exact hset.bind fun _ => pure _
  · exact pure _

theorem flipTheme (n : Nat) : Confined g .theme (HostM.flipTheme n) := by
  refine withSwitch fun b _ _ => ?_
  have hsave : ∀ t, Confined g .theme ((surface n).save b.settings t) := by
    intro t
    refine (write _ _).bind fun answer => ?_
    split
    · exact pure _
    · exact say _ _
  refine (isDark.bind fun _ => pure _).bind fun shown => ?_
  exact (setDark _).bind fun _ => (renderControl _).bind fun _ => (hsave _).bind fun _ => pure _

end Theme

/-! ### Events -/

theorem keystroke (e : PageEvent) : Confined g f (HostM.keystroke e) := by
  refine reading (fun h => (HostM.keystroke e h).1) ?_ ?_
  · intro h h' _ _ hsame
    cases hsource : e.source with
    | none => simp only [HostM.keystroke, hsource, bind_apply, pure_apply]
    | some i =>
      have hfield : (h.nodeAt i).isField = (h'.nodeAt i).isField := by
        obtain ⟨htag, hhtml, heditable, -⟩ : (h.nodeAt i).tag = (h'.nodeAt i).tag ∧
            (h.nodeAt i).isHtml = (h'.nodeAt i).isHtml ∧
            (h.nodeAt i).isEditable = (h'.nodeAt i).isEditable ∧
            (h.nodeAt i).attached = (h'.nodeAt i).attached := by
          simpa only [Prod.mk.injEq] using Prod.mk.inj (hsame.kind i) |>.imp id Prod.mk.inj
        unfold Node.isField Node.tagName
        rw [htag, hhtml, heditable]
      simp only [HostM.keystroke, hsource, bind_apply, pure_apply, node_apply, hfield]
  · intro k _
    refine ⟨_, pure (HostM.keystroke e k).1, ?_⟩
    intro h _ heq
    exact Prod.ext heq (keystroke_snd e _)

/-- An event is handed to handlers for its type only. -/
theorem dispatch {type : String} (e : PageEvent)
    (hreact : ∀ handler : Handler, type = handler.eventType → Confined g f (react e handler))
    (target : Target) : Confined g f (HostM.dispatch target type e) := by
  refine reading (fun h => h.handlers target type) ?_ ?_
  · intro h h' _ _ hsame
    rw [handlers, handlers, hsame.listeners]
  · intro k hk
    refine ⟨do
      let prevented ← (k.handlers target type).mapM (react e)
      return ⟨(k.handlers target type).length, prevented.any id⟩, ?_, ?_⟩
    · refine (mapM fun handler hhandler => hreact handler ?_).bind fun _ => pure _
      obtain ⟨l, hl, rfl⟩ := List.mem_map.mp hhandler
      obtain ⟨hmem, hsent⟩ := List.mem_filter.mp hl
      obtain ⟨-, htype⟩ : l.target = target ∧ l.type = type := by simpa using hsent
      rw [← hk.listeners l hmem, htype]
    · intro h _ heq
      unfold HostM.dispatch
      rw [bind_apply, handlersFor_eq, heq]

theorem react_theme (e : PageEvent) {handler : Handler}
    (htype : handler.eventType = "click" ∨ handler.eventType = "keydown") :
    Confined g .theme (react e handler) := by
  cases handler with
  | flip n => exact (flipTheme n).bind fun _ => pure _
  | shortcut chord n =>
    rw [react]
    split
    · exact pure _
    · refine (keystroke e).bind fun stroke => ?_
      split
      · exact (flipTheme n).bind fun _ => (say _ _).bind fun _ => pure _
      · exact pure _
  | scrollUp => exact (record _).bind fun _ => pure _
  | enhance => exact absurd htype (by decide)
  | follow n => exact absurd htype (by simp [Handler.eventType])

/-! ### Back to top -/

/-- The gate's button does not fade in as well. -/
theorem owner?_visible_button (hbutton : (g.nodeAt i).hasClass "fade-in" = false) :
    (Spot.className visibleClass).owner? g i = some .backToTop := by
  have hne : visibleClass ≠ "dark-mode" := by decide
  rw [Spot.owner?, if_neg hne, if_pos rfl, hbutton]
  rfl

theorem syncGate
    (hbutton : ∀ b, g.byId? "back-to-top" = some b → (g.nodeAt b).hasClass "fade-in" = false)
    (n : Nat) : Confined g .backToTop (HostM.syncGate n) := by
  have hoffset : Confined g .backToTop scrollOffset := by
    refine reading Host.scrollY (fun _ _ hsame => hsame .scroll (.inr rfl)) ?_
    intro k _
    refine ⟨_, pure (.ok k.scrollY), ?_⟩
    intro h h0 heq
    unfold scrollOffset
    rw [attempt_eq h0.sound, bind_apply, get_apply, heq]
  have hmove : ∀ gate : ScrollGate, Confined g .backToTop (modify fun h : Host =>
      { h with gates := h.gates.modify n fun b => { b with gate } } : HostM Unit) := by
    intro gate
    refine cell (k := .gates) rfl ?_ ?_ ?_
    · intro h h0
      exact h0.congr (Follows.unmoved.moved h0.toArranged.follows).toArranged rfl
    · intro h c hc
      cases c with
      | gates => exact absurd rfl hc
      | _ => rfl
    · intro h h' hsame
      have hgates : h.gates = h'.gates := hsame .gates (.inr rfl)
      show h.gates.modify n _ = h'.gates.modify n _
      rw [hgates]
  refine hoffset.bind fun offset => ?_
  refine reading (fun h => h.gates[n]?) ?_ ?_
  · intro h h' _ _ hsame
    have hgates : h.gates = h'.gates := hsame .gates (.inr rfl)
    rw [hgates]
  · intro k hk
    cases hgate : k.gates[n]? with
    | none =>
      refine ⟨_, pure (), ?_⟩
      intro h _ heq
      rw [bind_apply, get_apply, heq]
    | some b =>
      have howner : (Spot.className visibleClass).owner? g b.button = some .backToTop :=
        owner?_visible_button (hbutton _ (hk.gates b (List.mem_of_getElem? hgate)))
      refine ⟨do
        let moved := b.gate.update (offset.toOption.getD (.zero false))
        modify fun h : Host =>
          { h with gates := h.gates.modify n fun b => { b with gate := moved.2 } }
        moved.1.elim (return ()) (HostM.markClass b.button visibleClass), ?_, ?_⟩
      · refine (hmove _).bind fun _ => ?_
        cases (b.gate.update (offset.toOption.getD (.zero false))).1 with
        | some visible => exact markClass howner isToken_visibleClass (by decide) _
        | none => exact pure _
      · intro h _ heq
        rw [bind_apply, get_apply, heq]
        dsimp only
        rw [bind_apply, bind_apply]
        cases (b.gate.update (offset.toOption.getD (.zero false))).1 <;> rfl

/-! ### Coming into view -/

theorem revealBatch {batch : List Sighting}
    (howns : ∀ i inView, .entry i inView ∈ batch → g.Owns .reveal i) (o : Nat)
    (step cap : UInt32) (n : Nat) :
    Confined g .reveal (HostM.revealBatch o step cap n batch) := by
  induction batch generalizing n with
  | nil => exact pure _
  | cons sighting rest ih =>
    have hrest := ih fun i inView hi => howns i inView (List.mem_cons_of_mem sighting hi)
    cases sighting with
    | other => exact hrest n
    | entry i inView =>
      cases inView with
      | false => exact hrest n
      | true =>
        have hi : (g.nodeAt i).hasClass "fade-in" = true := howns i true List.mem_cons_self
        have hvisible : (Spot.className visibleClass).owner? g i = some .reveal := by
          have hne : visibleClass ≠ "dark-mode" := by decide
          rw [Spot.owner?, if_neg hne, if_pos rfl, hi]
          rfl
        have hunobserve : Confined g .reveal (unobserve o i) := by
          refine (record _).bind fun _ => cell (k := .observers) rfl ?_ ?_ ?_
          · intro h h0
            exact h0.congr (Follows.unmoved.watched
              (fun _ hl j hj => hl j (List.mem_filter.mp hj).1) h0.toArranged.follows).toArranged rfl
          · intro h c hc
            cases c with
            | observers => exact absurd rfl hc
            | _ => rfl
          · intro h h' hsame
            have hobservers : h.observers = h'.observers := hsame .observers (.inr rfl)
            show h.observers.modify o _ = h'.observers.modify o _
            rw [hobservers]
        have hshow : Confined g .reveal (do
            HostM.markClass i visibleClass true
            unobserve o i
            HostM.revealBatch o step cap (n + 1) rest) :=
          (markClass hvisible isToken_visibleClass (by decide) true).bind fun _ =>
            hunobserve.bind fun _ => hrest (n + 1)
        rw [HostM.revealBatch]
        refine reading (fun h => (h.nodeAt i).isHtml) ?_ ?_
        · intro h h' _ _ hsame
          exact congrArg (fun k : String × Bool × Bool × Bool => k.2.1) (hsame.kind i)
        · intro k _
          refine ⟨if (k.nodeAt i).isHtml = true then do
              HostM.setStyle i "transition-delay" (Reveal.delayText (Reveal.delay n step cap))
              HostM.markClass i visibleClass true
              unobserve o i
              HostM.revealBatch o step cap (n + 1) rest
            else do
              HostM.markClass i visibleClass true
              unobserve o i
              HostM.revealBatch o step cap (n + 1) rest, ?_, ?_⟩
          · split
            · exact (setStyle rfl _ _).bind fun _ => hshow
            · exact hshow
          · intro h _ heq
            rw [bind_apply, node_apply]
            dsimp only
            rw [heq]

theorem sight (o : Nat) (batch : List Sighting) : Confined g .reveal (HostM.sight o batch) := by
  refine reading (fun h => h.observers[o]?) ?_ ?_
  · intro h h' _ _ hsame
    have hobservers : h.observers = h'.observers := hsame .observers (.inr rfl)
    rw [hobservers]
  · intro k hk
    cases hobserver : k.observers[o]? with
    | none =>
      refine ⟨_, pure 0, ?_⟩
      intro h _ heq
      unfold HostM.sight
      rw [bind_apply, get_apply, heq]
    | some observer =>
      refine ⟨do
        HostM.revealBatch o observer.step observer.cap 0 (batch.filter (Sighting.reaches observer))
        return (batch.filter (Sighting.reaches observer)).length, ?_, ?_⟩
      · refine (revealBatch ?_ _ _ _ _).bind fun _ => pure _
        intro i inView hi
        -- an observer is told of nothing but what it watches
        have hreaches := (List.mem_filter.mp hi).2
        exact hk.observers observer (List.mem_of_getElem? hobserver) i
          (List.contains_iff_mem.mp hreaches)
      · intro h _ heq
        unfold HostM.sight
        rw [bind_apply, get_apply, heq]

/-! ### Tasks -/

theorem owner?_content_typing (hi : g.Owns .typing i) : Spot.content.owner? g i = some .typing := by
  rw [Spot.owner?, if_pos (nodeAt_of_byId? hi).2]

theorem owner?_content_commits (hi : g.Owns .commits i) :
    Spot.content.owner? g i = some .commits := by
  have hid : (g.nodeAt i).id? = some "last-updated" := (nodeAt_of_byId? hi).2
  have htagline : (g.nodeAt i).id? ≠ some "tagline" := by
    rw [hid]
    decide
  rw [Spot.owner?, if_neg htagline, if_pos hid]

theorem awaitKey (i : NodeId) (delay : UInt32) (writer : Typewriter) :
    Confined g .typing (HostM.awaitKey i delay writer) := by
  have hcount : Confined g .typing (modify fun h : Host =>
      { h with timersMade := h.timersMade + 1 } : HostM Unit) := by
    refine cell (k := .clock) rfl ?_ ?_ ?_
    · intro h h0
      exact h0.congr (h0.toArranged.congr rfl rfl rfl rfl rfl rfl rfl) rfl
    · intro h c hc
      cases c with
      | clock => exact absurd rfl hc
      | _ => rfl
    · intro h h' hsame
      have hclock : (h.now, h.timersMade) = (h'.now, h'.timersMade) := hsame .clock (.inr rfl)
      obtain ⟨hnow, htimers⟩ := Prod.mk.inj hclock
      show (h.now, h.timersMade + 1) = (h'.now, h'.timersMade + 1)
      rw [hnow, htimers]
  have htimer : Confined g .typing (makeTimer delay) := by
    refine (record _).bind fun _ => ?_
    refine reading (fun h => (h.now, h.timersMade)) (fun _ _ hsame => hsame .clock (.inr rfl)) ?_
    intro k _
    refine ⟨do
      modify fun h : Host => { h with timersMade := h.timersMade + 1 }
      return (k.now + delay.toNat, k.timersMade), hcount.bind fun _ => pure _, ?_⟩
    intro h _ heq
    obtain ⟨hnow, htimers⟩ := Prod.mk.inj heq
    rw [modifyGet_apply, ← hnow, ← htimers]
    rfl
  unfold HostM.awaitKey
  split
  · exact pure _
  · exact htimer.bind fun _ => pure _

theorem receive (d : Delivery) : Confined g f (HostM.receive d) := by
  cases d with
  | failure reason => exact pure _
  | reply status body =>
    rw [HostM.receive]
    split
    · exact (record _).bind fun _ => pure _
    · exact pure _
  | brokenBody status reason =>
    rw [HostM.receive]
    split
    · exact (record _).bind fun _ => pure _
    · exact pure _

theorem refresh (hi : g.Owns .commits i) (brought : Except FetchFault Reply) (url : String)
    (offset : Int) : Confined g .commits ((commitPort i brought).refresh url offset) := by
  refine (pure brought).bind ?_
  intro answer
  refine (forM fun e _ => say e.level e.text).bind fun _ => ?_
  split
  · exact pure _
  · exact (setText (owner?_content_commits hi) _).bind fun _ => pure _

/-- A task is the business of its feature. -/
theorem runTask {t : Task} (ht : g.Owns t.feature t.node) :
    Confined g t.feature (HostM.runTask t) := by
  cases t with
  | typing i delay writer phase =>
    cases phase with
    | ready => exact (awaitKey _ _ _).bind fun _ => pure _
    | waiting deadline age => exact pure _
    | woken =>
      rw [HostM.runTask]
      split
      · exact pure _
      · exact (setText (owner?_content_typing ht) _).bind fun _ =>
          (awaitKey _ _ _).bind fun _ => pure _
  | commit i url offset phase =>
    cases phase with
    | ready => exact (record _).bind fun _ => pure _
    | waiting => exact pure _
    | answered d =>
      refine (receive d).bind ?_
      intro brought
      refine (refresh ht _ _ _).bind ?_
      intro outcome
      split
      · exact pure _
      · exact (say _ _).bind fun _ => pure _

end Confined

/-- A pass of a list of tasks does what a pass of the feature's own tasks does, and leaves the
    others as they are. -/
structure PassesFor (f : Feature) (l : List Task) (h : Host) : Prop where
  state : (l.mapM runTask h).2 = ((Task.ofFeature f l).mapM runTask h).2
  own : Task.ofFeature f (leftovers (l.mapM runTask h).1) =
    leftovers ((Task.ofFeature f l).mapM runTask h).1
  others : ∀ f' ≠ f, Task.ofFeature f' (leftovers (l.mapM runTask h).1) = Task.ofFeature f' l
  broken : (l.mapM runTask h).1.findSome? Prod.snd =
    ((Task.ofFeature f l).mapM runTask h).1.findSome? Prod.snd

namespace PassesFor

variable {t : Task} {rest : List Task}

theorem cons_own (ht : t.feature = f) (hrest : PassesFor f rest (runTask t h).2) :
    PassesFor f (t :: rest) h := by
  constructor
  · rw [Task.ofFeature_cons_of_eq ht, mapM_cons_apply, mapM_cons_apply]
    exact hrest.state
  · rw [Task.ofFeature_cons_of_eq ht, leftovers_cons, leftovers_cons, ← hrest.own,
      Task.ofFeature_append, ofFeature_left, if_pos ht]
  · intro f' hf'
    have hother : t.feature ≠ f' := fun heq => hf' (heq.symm.trans ht)
    rw [leftovers_cons, Task.ofFeature_cons_of_ne hother, ← hrest.others f' hf',
      Task.ofFeature_append, ofFeature_left, if_neg hother]
    rfl
  · rw [Task.ofFeature_cons_of_eq ht, overrun_cons, overrun_cons, hrest.broken]

theorem cons_other (ht : t.feature ≠ f) (hidle : t.isIdle = true) (hrest : PassesFor f rest h) :
    PassesFor f (t :: rest) h := by
  -- the task waits for something, and goes on waiting
  have hpass : (t :: rest).mapM runTask h =
      ((some t, none) :: (rest.mapM runTask h).1, (rest.mapM runTask h).2) := by
    rw [List.mapM_cons, bind_apply, runTask_idle hidle]
    rfl
  have hleftovers : leftovers ((some t, none) :: (rest.mapM runTask h).1) =
      t :: leftovers (rest.mapM runTask h).1 := rfl
  constructor
  · rw [Task.ofFeature_cons_of_ne ht, hpass]
    exact hrest.state
  · rw [Task.ofFeature_cons_of_ne ht, hpass, hleftovers, Task.ofFeature_cons_of_ne ht]
    exact hrest.own
  · intro f' hf'
    rw [hpass, hleftovers]
    by_cases hf : t.feature = f'
    · rw [Task.ofFeature_cons_of_eq hf, Task.ofFeature_cons_of_eq hf, hrest.others f' hf']
    · rw [Task.ofFeature_cons_of_ne hf, Task.ofFeature_cons_of_ne hf, hrest.others f' hf']
  · rw [Task.ofFeature_cons_of_ne ht, hpass]
    exact hrest.broken

end PassesFor

/-- Where only one feature has work to do, a pass of all tasks is a pass of its tasks. -/
theorem passesFor (l : List Task) (hidle : ∀ t ∈ l, t.feature ≠ f → t.isIdle = true) :
    PassesFor f l h := by
  induction l generalizing h with
  | nil => exact ⟨rfl, rfl, fun _ _ => rfl, rfl⟩
  | cons t rest ih =>
    have hrest := fun u hu => hidle u (List.mem_cons_of_mem t hu)
    by_cases ht : t.feature = f
    · exact .cons_own ht (ih hrest)
    · exact .cons_other ht (hidle t List.mem_cons_self ht) (ih hrest)

theorem SameFor.tasks (hsame : SameFor g f h h') :
    Task.ofFeature f h.tasks = Task.ofFeature f h'.tasks := by
  have hnone : (∀ t : Task, t.feature ≠ f) → ∀ l, Task.ofFeature f l = [] := fun hne l =>
    List.filter_eq_nil_iff.mpr fun t _ => by simpa using hne t
  cases f with
  | typing => exact hsame .typings (.inr rfl)
  | commits => exact hsame .requests (.inr rfl)
  | _ =>
    -- the other features have no tasks
    rw [hnone (fun t => by cases t <;> exact Feature.noConfusion),
      hnone (fun t => by cases t <;> exact Feature.noConfusion)]

namespace Confined

/-- A pass of the tasks is the business of the feature that has work to do. -/
theorem runTasks : Confined g f HostM.runTasks := by
  have hpass : ∀ {k : Host}, Quiet g f k →
      Confined g f ((Task.ofFeature f k.tasks).mapM HostM.runTask) := by
    intro k hk
    refine mapM fun t ht => ?_
    obtain ⟨hmem, rfl⟩ := Task.mem_ofFeature.mp ht
    exact runTask (hk.tasks t hmem)
  refine ⟨?_, ?_, ?_, ?_⟩
  · intro k hk
    exact ⟨keeps_arranged (fun _ => Follows.unmoved.disregards.keeps_runTasks nofun) k hk.toArranged,
      fun t ht _ => isIdle_runTasks t ht⟩
  · intro k hk c hc
    have hown : PassesFor f k.tasks k := passesFor k.tasks hk.idle
    have hframe := (hpass hk).frame hk c hc
    rw [← hown.state] at hframe
    cases c with
    | typings => exact hown.others .typing fun heq => hc (congrArg some heq)
    | requests => exact hown.others .commits fun heq => hc (congrArg some heq)
    | _ => exact hframe
  · intro k k' hk hk' hsame
    have hown : PassesFor f k.tasks k := passesFor k.tasks hk.idle
    have hown' : PassesFor f k'.tasks k' := passesFor k'.tasks hk'.idle
    refine hown.broken.trans (Eq.trans ?_ hown'.broken.symm)
    rw [hsame.tasks, (hpass hk').answer hk hk' hsame]
  · intro k k' hk hk' hsame c hc
    have hown : PassesFor f k.tasks k := passesFor k.tasks hk.idle
    have hown' : PassesFor f k'.tasks k' := passesFor k'.tasks hk'.idle
    have hcell := (hpass hk').own hk hk' hsame c hc
    have hleft : Task.ofFeature f (leftovers (k.tasks.mapM HostM.runTask k).1) =
        Task.ofFeature f (leftovers (k'.tasks.mapM HostM.runTask k').1) := by
      rw [hown.own, hown'.own, hsame.tasks, (hpass hk').answer hk hk' hsame]
    rw [← hown'.state, ← hsame.tasks, ← hown.state] at hcell
    cases c with
    | typings =>
      obtain rfl : .typing = f := Option.some.inj hc
      exact hleft
    | requests =>
      obtain rfl : .commits = f := Option.some.inj hc
      exact hleft
    | _ => exact hcell

end Confined

end Host

end Enhance
