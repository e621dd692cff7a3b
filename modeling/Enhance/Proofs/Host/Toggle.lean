/-
  Enhance/Proofs/Host/Toggle.lean
  ===============================
  **The switch of a page shows what a switch is meant to show.**

  The view of a page is read off the body, the node with the toggle's id, the
  trace and the store.  As long as no call fails, the operations of a switch
  follow the view (`surface_realizes`): before the control was looked for, the
  number that it will have is known already, and from then on the switch knows
  the node that the page finds under the id.
-/
import Enhance.Proofs.Host.Effect
import Enhance.Proofs.Theme.View

namespace Enhance

/-- An element is made. -/
def Call.isCreation : Call → Bool
  | .createElement .. => true
  | _ => false

/-! ### Changes of a node that a switch does not see -/

namespace Node

/-- Two states of a node in the same place, marked by a class or not. -/
structure Alike (marker : String) (n m : Node) : Prop extends SamePlace n m where
  marked : m.hasClass marker = n.hasClass marker

/-- Two states of a node that show the same control. -/
structure SameFace (n m : Node) : Prop where
  html : m.markup = n.markup
  label : m.attributes.get? "aria-label" = n.attributes.get? "aria-label"
  title : m.attributes.get? "title" = n.attributes.get? "title"

variable {marker : String} (n : Node)

theorem samePlace_putClass {name : String} {present : Bool} :
    SamePlace n (n.putClass name present) where
  attached := attached_putClass
  id := by
    unfold id?
    rw [get?_putClass_of_ne (by decide)]

theorem alike_putClass {name : String} {present : Bool} (hname : IsToken name)
    (hmarker : marker ≠ name) : Alike marker n (n.putClass name present) where
  toSamePlace := samePlace_putClass n
  marked := by rw [hasClass_putClass hname, if_neg hmarker]

theorem alike_setAttribute (name value : String) (hid : name ≠ "id") (hclass : name ≠ "class") :
    Alike marker n (n.setAttribute name value) where
  attached := rfl
  id := by
    unfold id? setAttribute
    rw [Table.get?_insert_of_ne _ (Ne.symm hid)]
  marked := hasClass_congr (Table.get?_insert_of_ne _ (Ne.symm hclass) _)

theorem sameFace_putClass {name : String} {present : Bool} :
    SameFace n (n.putClass name present) where
  html := markup_putClass
  label := get?_putClass_of_ne (by decide)
  title := get?_putClass_of_ne (by decide)

end Node

/-! ### The view of a page -/

namespace Host

variable {s : ThemeSettings} {h h' : Host} {i j c : NodeId} {v : ThemeView} {f : Node → Node}

/-- What can be seen of the switch of a page. -/
def themeView (s : ThemeSettings) (h : Host) : ThemeView :=
  let control := (h.byId? s.toggleId).map h.nodeAt
  { dark := (h.nodeAt 0).hasClass s.darkClass
    hasControl := control.isSome
    created := h.trace.countP Call.isCreation
    html := control.bind fun n => n.markup
    label := control.bind fun n => n.attributes.get? "aria-label"
    title := control.bind fun n => n.attributes.get? "title"
    stored := h.storage.bind fun t => t.get? s.storageKey }

theorem themeView_of_control (hc : h.byId? s.toggleId = some c) :
    h.themeView s =
      { dark := (h.nodeAt 0).hasClass s.darkClass
        hasControl := true
        created := h.trace.countP Call.isCreation
        html := (h.nodeAt c).markup
        label := (h.nodeAt c).attributes.get? "aria-label"
        title := (h.nodeAt c).attributes.get? "title"
        stored := h.storage.bind fun t => t.get? s.storageKey } := by
  unfold themeView
  rw [hc]
  rfl

theorem themeView_of_no_control (hc : h.byId? s.toggleId = none) :
    h.themeView s =
      { dark := (h.nodeAt 0).hasClass s.darkClass
        hasControl := false
        created := h.trace.countP Call.isCreation
        html := none
        label := none
        title := none
        stored := h.storage.bind fun t => t.get? s.storageKey } := by
  unfold themeView
  rw [hc]
  rfl

/-- What the view is read off. -/
theorem themeView_congr (hnodes : h'.nodes = h.nodes) (hstorage : h'.storage = h.storage)
    (htrace : h'.trace.countP Call.isCreation = h.trace.countP Call.isCreation) :
    h'.themeView s = h.themeView s := by
  have hbyId : h'.byId? s.toggleId = h.byId? s.toggleId := by simp only [byId?, hnodes]
  have hnodeAt : h'.nodeAt = h.nodeAt := funext fun i => by simp only [nodeAt, hnodes]
  simp only [themeView, hbyId, hnodeAt, hstorage, htrace]

theorem hasClass_edit_of_alike (hf : ∀ n, Node.Alike s.darkClass n (f n)) :
    ((h.edit i f).nodeAt j).hasClass s.darkClass = (h.nodeAt j).hasClass s.darkClass :=
  nodeAt_edit_induction (P := fun m => m.hasClass s.darkClass = (h.nodeAt j).hasClass s.darkClass)
    rfl fun _ => (hf _).marked

theorem sameFace_edit (hf : i = c → ∀ n, Node.SameFace n (f n)) :
    Node.SameFace (h.nodeAt c) ((h.edit i f).nodeAt c) :=
  nodeAt_edit_induction ⟨rfl, rfl, rfl⟩ fun hic => hf hic _

/-- On a page without failing calls and with a store there is a switch of this
    number, which knows this control or none, and it is seen like this. -/
structure BearsSwitch (s : ThemeSettings) (i : Nat) (known : Option NodeId) (v : ThemeView)
    (h : Host) : Prop where
  sound : h.Sound
  body : 0 < h.nodes.length
  store : h.storage.isSome = true
  held : h.switches[i]? = some ⟨s, true, known⟩
  view : h.themeView s = v

/-- The switch has not looked for its control yet, which is or will be `c`. -/
structure OpensTheme (s : ThemeSettings) (i c : Nat) (v : ThemeView) (h : Host) : Prop
    extends BearsSwitch s i none v h where
  control : (h.byId? s.toggleId).getD h.nodes.length = c

/-- The switch knows its control `c`. -/
structure ShowsTheme (s : ThemeSettings) (i c : Nat) (v : ThemeView) (h : Host) : Prop
    extends BearsSwitch s i (some c) v h where
  control : h.byId? s.toggleId = some c

/-- Two hosts that are the same to a switch. -/
structure SameSwitch (h h' : Host) : Prop where
  failures : h'.failures = h.failures
  nodes : h'.nodes = h.nodes
  storage : h'.storage = h.storage
  switches : h'.switches = h.switches
  created : h'.trace.countP Call.isCreation = h.trace.countP Call.isCreation

theorem sameSwitch_noted {call : Call} (hcall : call.isCreation = false) :
    SameSwitch h (h.noted call) where
  failures := rfl
  nodes := rfl
  storage := rfl
  switches := rfl
  created := by simp [Host.noted, hcall]

theorem BearsSwitch.congr {known : Option NodeId} (h0 : h.BearsSwitch s i known v)
    (hsame : SameSwitch h h') : h'.BearsSwitch s i known v where
  sound := by
    rw [Sound, hsame.failures]
    exact h0.sound
  body := by
    rw [hsame.nodes]
    exact h0.body
  store := by
    rw [hsame.storage]
    exact h0.store
  held := by
    rw [hsame.switches]
    exact h0.held
  view := by
    rw [themeView_congr hsame.nodes hsame.storage hsame.created]
    exact h0.view

theorem OpensTheme.congr (h0 : h.OpensTheme s i c v) (hsame : SameSwitch h h') :
    h'.OpensTheme s i c v where
  toBearsSwitch := h0.toBearsSwitch.congr hsame
  control := by
    rw [byId?, hsame.nodes]
    exact h0.control

namespace ShowsTheme

theorem congr (h0 : h.ShowsTheme s i c v) (hsame : SameSwitch h h') : h'.ShowsTheme s i c v where
  toBearsSwitch := h0.toBearsSwitch.congr hsame
  control := by
    rw [byId?, hsame.nodes]
    exact h0.control

theorem noted (h0 : h.ShowsTheme s i c v) (call : Call) (hcall : call.isCreation = false) :
    (h.noted call).ShowsTheme s i c v :=
  h0.congr (sameSwitch_noted hcall)

theorem view_eq (h0 : h.ShowsTheme s i c v) :
    v =
      { v with
        dark := (h.nodeAt 0).hasClass s.darkClass
        html := (h.nodeAt c).markup
        label := (h.nodeAt c).attributes.get? "aria-label"
        title := (h.nodeAt c).attributes.get? "title" } := by
  rw [← h0.view, themeView_of_control h0.control]

theorem dark_eq (h0 : h.ShowsTheme s i c v) : (h.nodeAt 0).hasClass s.darkClass = v.dark :=
  (congrArg ThemeView.dark h0.view_eq).symm

theorem html_eq (h0 : h.ShowsTheme s i c v) : (h.nodeAt c).markup = v.html :=
  (congrArg ThemeView.html h0.view_eq).symm

theorem label_eq (h0 : h.ShowsTheme s i c v) :
    (h.nodeAt c).attributes.get? "aria-label" = v.label :=
  (congrArg ThemeView.label h0.view_eq).symm

theorem title_eq (h0 : h.ShowsTheme s i c v) : (h.nodeAt c).attributes.get? "title" = v.title :=
  (congrArg ThemeView.title h0.view_eq).symm

/-- A change of a node in its place, as far as it is seen. -/
theorem edit_eq (h0 : h.ShowsTheme s i c v) (hf : ∀ n, Node.SamePlace n (f n)) :
    (h.edit j f).ShowsTheme s i c
      { v with
        dark := ((h.edit j f).nodeAt 0).hasClass s.darkClass
        html := ((h.edit j f).nodeAt c).markup
        label := ((h.edit j f).nodeAt c).attributes.get? "aria-label"
        title := ((h.edit j f).nodeAt c).attributes.get? "title" } where
  sound := h0.sound
  body := by
    rw [length_edit]
    exact h0.body
  store := h0.store
  held := h0.held
  control := by
    rw [byId?_edit hf]
    exact h0.control
  view := by
    have hcontrol : (h.edit j f).byId? s.toggleId = some c := by
      rw [byId?_edit hf]
      exact h0.control
    rw [← h0.view, themeView_of_control hcontrol, themeView_of_control h0.control]
    rfl

/-- A change that is not seen. -/
theorem edit (h0 : h.ShowsTheme s i c v) (hf : ∀ n, Node.Alike s.darkClass n (f n))
    (hface : j = c → ∀ n, Node.SameFace n (f n)) : (h.edit j f).ShowsTheme s i c v := by
  obtain ⟨hhtml, hlabel, htitle⟩ : Node.SameFace (h.nodeAt c) ((h.edit j f).nodeAt c) :=
    sameFace_edit hface
  have hedit := h0.edit_eq (j := j) fun n => (hf n).toSamePlace
  rw [hasClass_edit_of_alike hf, hhtml, hlabel, htitle, ← h0.view_eq] at hedit
  exact hedit

/-- A change of the control. -/
theorem editControl (h0 : h.ShowsTheme s i c v) (hf : ∀ n, Node.Alike s.darkClass n (f n)) :
    (h.edit c f).ShowsTheme s i c
      { v with
        html := (f (h.nodeAt c)).markup
        label := (f (h.nodeAt c)).attributes.get? "aria-label"
        title := (f (h.nodeAt c)).attributes.get? "title" } := by
  have hedit := h0.edit_eq (j := c) fun n => (hf n).toSamePlace
  rw [hasClass_edit_of_alike hf, h0.dark_eq, nodeAt_edit_self (lt_of_byId? h0.control)] at hedit
  exact hedit

/-- A change of the marker. -/
theorem mark (h0 : h.ShowsTheme s i c v) (hdark : Node.IsToken s.darkClass) (dark : Bool) :
    (h.edit 0 fun n => n.putClass s.darkClass dark).ShowsTheme s i c { v with dark } := by
  obtain ⟨hhtml, hlabel, htitle⟩ := sameFace_edit (h := h) (i := 0) (c := c)
    (f := fun n => n.putClass s.darkClass dark) fun _ n => n.sameFace_putClass
  have hmarked : ((h.edit 0 fun n => n.putClass s.darkClass dark).nodeAt 0).hasClass s.darkClass =
      dark := by
    rw [nodeAt_edit_self h0.body, Node.hasClass_putClass hdark, if_pos rfl]
  have hedit := h0.edit_eq (j := 0) (f := fun n => n.putClass s.darkClass dark)
    fun n => n.samePlace_putClass
  rw [hhtml, hlabel, htitle, hmarked] at hedit
  rw [h0.view_eq]
  exact hedit

end ShowsTheme

end Host

/-! ### The operations of a switch -/

namespace HostM

open Host

variable {s : ThemeSettings} {h : Host} {i c : Nat} {v : ThemeView}

theorem switch_apply (i : Nat) (h : Host) :
    switch i h = ((h.switches[i]?).getD ⟨{}, false, none⟩, h) := rfl

theorem switch_eq {b : BodySwitch} (hi : h.switches[i]? = some b) : switch i h = (b, h) := by
  unfold switch
  rw [bind_apply, get_apply, hi]
  rfl

theorem say_eq (level : Log.Level) (text : String) :
    ∃ log, say level text h = ((), { h with log }) := by
  unfold say
  rw [modify_apply]
  split
  · exact ⟨_, rfl⟩
  · exact ⟨h.log, rfl⟩

theorem say_showsTheme (h0 : h.ShowsTheme s i c v) (level : Log.Level) (text : String) :
    (say level text h).2.ShowsTheme s i c v := by
  obtain ⟨log, hlog⟩ := say_eq (h := h) level text
  rw [hlog]
  exact h0.congr ⟨rfl, rfl, rfl, rfl, rfl⟩

theorem read_eq {b : BodySwitch} (hs : h.Sound) (hi : h.switches[i]? = some b)
    (hstore : b.hasStore = true) (key : String) :
    (surface i).read key h =
      (.ok (h.storage.bind fun t => t.get? key), h.noted (.getItem key)) := by
  show (do if (← switch i).hasStore then _ else _ : HostM _) h = _
  rw [bind_apply, switch_eq hi, if_pos hstore, bind_apply, getItem_eq hs]
  rfl

/-- A switch that found a store asks it to keep an entry. -/
theorem write_of_store {b : BodySwitch} (hi : h.switches[i]? = some b)
    (hstore : b.hasStore = true) (key value : String) :
    (surface i).write key value h =
      (refusal .write key (setItem key value h).1, (setItem key value h).2) := by
  show (do if (← switch i).hasStore then _ else _ : HostM _) h = _
  rw [bind_apply, switch_eq hi, if_pos hstore]
  rfl

theorem write_eq {b : BodySwitch} (hs : h.Sound) (hi : h.switches[i]? = some b)
    (hstore : b.hasStore = true) (key value : String) :
    (surface i).write key value h =
      (.ok (), { h.noted (.setItem key value) with
        storage := h.storage.map fun t => t.insert key value }) := by
  rw [write_of_store hi hstore, setItem_eq hs]
  rfl

/-- A switch that found no store asks for nothing. -/
theorem read_unavailable {b : BodySwitch} (hi : h.switches[i]? = some b)
    (hstore : b.hasStore = false) (key : String) :
    (surface i).read key h = (.error .unavailable, h) := by
  show (do if (← switch i).hasStore then _ else _ : HostM _) h = _
  rw [bind_apply, switch_eq hi, hstore]
  rfl

theorem write_unavailable {b : BodySwitch} (hi : h.switches[i]? = some b)
    (hstore : b.hasStore = false) (key value : String) :
    (surface i).write key value h = (.error .unavailable, h) := by
  show (do if (← switch i).hasStore then _ else _ : HostM _) h = _
  rw [bind_apply, switch_eq hi, hstore]
  rfl

theorem isDark_eq (h0 : h.ShowsTheme s i c v) : (surface i).isDark h = (v.dark, h) := by
  show (do bodyHasClass (← switch i).settings.darkClass : HostM Bool) h = _
  rw [bind_apply, switch_eq h0.held, ← h0.dark_eq]
  rfl

theorem setDark_showsTheme (hdark : Node.IsToken s.darkClass) (h0 : h.ShowsTheme s i c v)
    (dark : Bool) : ((surface i).setDark dark h).2.ShowsTheme s i c { v with dark } := by
  show ((do markClass 0 (← switch i).settings.darkClass dark : HostM Unit) h).2.ShowsTheme _ _ _ _
  rw [bind_apply, switch_eq h0.held, markClass_eq h0.sound hdark]
  refine (h0.noted _ ?_).mark hdark dark
  cases dark <;> rfl

theorem setMarkup_showsTheme (h0 : h.ShowsTheme s i c v) (html : String) :
    (setMarkup c html h).2.ShowsTheme s i c { v with html := some html } := by
  have hnoted := h0.noted (.setMarkup c html) rfl
  have hedit := hnoted.editControl (f := fun n => n.setMarkup html) fun _ => ⟨⟨rfl, rfl⟩, rfl⟩
  simp only [Node.setMarkup, hnoted.label_eq, hnoted.title_eq] at hedit
  exact hedit

theorem tryAttribute_showsTheme (h0 : h.ShowsTheme s i c v) (name value : String)
    (hid : name ≠ "id") (hclass : name ≠ "class") :
    (tryAttribute c name value h).2.ShowsTheme s i c
      { v with
        label := if "aria-label" = name then some value else v.label
        title := if "title" = name then some value else v.title } := by
  have hnoted := h0.noted (.setAttribute c name value) rfl
  have hedit := hnoted.editControl fun n => n.alike_setAttribute name value hid hclass
  simp only [Node.get?_setAttribute, hnoted.label_eq, hnoted.title_eq] at hedit
  rw [← hnoted.html_eq, tryAttribute_eq h0.sound]
  exact hedit

theorem renderControl_showsTheme (h0 : h.ShowsTheme s i c v) (o : Offer) :
    ((surface i).renderControl o h).2.ShowsTheme s i c (v.draw o) := by
  have hmarkup := setMarkup_showsTheme h0 o.html
  have hlabel := tryAttribute_showsTheme hmarkup "aria-label" o.label (by decide) (by decide)
  have htitle := tryAttribute_showsTheme hlabel "title" o.label (by decide) (by decide)
  show (renderControl i o h).2.ShowsTheme _ _ _ _
  unfold renderControl
  rw [bind_apply, switch_eq h0.held]
  exact htitle

theorem write_showsTheme (h0 : h.ShowsTheme s i c v) (value : String) :
    ((surface i).write s.storageKey value h).1 = .ok () ∧
      ((surface i).write s.storageKey value h).2.ShowsTheme s i c
        { v with stored := some value } := by
  obtain ⟨t, ht⟩ := Option.isSome_iff_exists.mp h0.store
  have hnoted := h0.noted (.setItem s.storageKey value) rfl
  rw [write_eq h0.sound h0.held rfl, ht, Option.map_some]
  refine ⟨rfl, ⟨hnoted.sound, hnoted.body, rfl, hnoted.held, ?_⟩, hnoted.control⟩
  -- the view has no other part that is read off the store
  have hview : ∀ (g : Host) (storage : Option (Table String)),
      ({ g with storage } : Host).themeView s =
        { g.themeView s with stored := storage.bind fun t => t.get? s.storageKey } :=
    fun _ _ => rfl
  refine (hview _ _).trans ?_
  rw [hnoted.view, Option.bind_some, Table.get?_insert_self]

/-! ### Looking for the control -/

/-- One of the three calls fails that make a control. -/
def denies (failures : Failable → Option Thrown) : Bool :=
  [Failable.createElement, .setAttribute, .appendChild].any fun c => (failures c).isSome

/-- The button that a switch makes. -/
def newControl (id : String) : Node where
  tag := "button"
  attributes := (Table.empty.insert "id" id).insert "type" "button"

theorem not_denies_iff {failures : Failable → Option Thrown} :
    denies failures = false ↔ failures .createElement = none ∧ failures .setAttribute = none ∧
      failures .appendChild = none := by
  simp [denies]

theorem createControl_of_granted (hgranted : denies h.failures = false) (id : String) :
    createControl id h =
      (.ok h.nodes.length,
        { h with
          nodes := h.nodes ++ [newControl id]
          trace := h.trace ++ [.createElement h.nodes.length "button",
            .setAttribute h.nodes.length "id" id,
            .setAttribute h.nodes.length "type" "button", .appendChild 0 h.nodes.length] }) := by
  obtain ⟨hcreates, hsets, happends⟩ := not_denies_iff.mp hgranted
  -- one host after each call, so that the next one is seen to succeed
  obtain ⟨h1, hcreate, hh1⟩ : ∃ h1, createElement "button" h = (.ok h.nodes.length, h1) ∧
      h1 = { h.noted (.createElement h.nodes.length "button") with
        nodes := h.nodes ++ [{ tag := "button", attached := false }] } :=
    ⟨_, attempt_of_works hcreates _, rfl⟩
  obtain ⟨h2, hnamed, hh2⟩ : ∃ h2, setId h.nodes.length id h1 = ((), h2) ∧
      h2 = (h1.noted (.setAttribute h.nodes.length "id" id)).edit h.nodes.length
        fun n => n.setAttribute "id" id := ⟨_, rfl, rfl⟩
  have hfailures2 : h2.failures = h.failures := by
    rw [hh2, hh1]
    rfl
  obtain ⟨h3, htype, hh3⟩ : ∃ h3,
      setAttribute h.nodes.length "type" "button" h2 = (.ok (), h3) ∧
      h3 = (h2.noted (.setAttribute h.nodes.length "type" "button")).edit h.nodes.length
        fun n => n.setAttribute "type" "button" :=
    ⟨_, attempt_of_works (by rw [hfailures2, hsets]) _, rfl⟩
  have happend : appendChild 0 h.nodes.length h3 =
      (.ok (), (h3.noted (.appendChild 0 h.nodes.length)).edit h.nodes.length
        fun n => { n with attached := true }) := by
    refine attempt_of_works ?_ _
    rw [hh3, ← happends, ← hfailures2]
    rfl
  unfold createControl
  simp only [bind_apply, hcreate, hnamed, htype, happend, pure_apply]
  simp [hh3, hh2, hh1, Host.edit, Host.noted, modify_concat, newControl, Node.setAttribute]

theorem createControl_eq (hs : h.Sound) (id : String) :
    createControl id h =
      (.ok h.nodes.length,
        { h with
          nodes := h.nodes ++ [newControl id]
          trace := h.trace ++ [.createElement h.nodes.length "button",
            .setAttribute h.nodes.length "id" id,
            .setAttribute h.nodes.length "type" "button", .appendChild 0 h.nodes.length] }) :=
  createControl_of_granted (not_denies_iff.mpr ⟨hs _, hs _, hs _⟩) id

theorem countP_isCreation_createControl (trace : List Call) (n : NodeId) (id : String) :
    (trace ++ [Call.createElement n "button", Call.setAttribute n "id" id,
      Call.setAttribute n "type" "button", Call.appendChild 0 n]).countP Call.isCreation =
      trace.countP Call.isCreation + 1 := by
  rw [List.countP_append]
  rfl

theorem setControl_held {b : BodySwitch} (hi : h.switches[i]? = some b) :
    (setControl i c h).2.switches[i]? = some { b with control := some c } := by
  show (h.switches.modify i _)[i]? = _
  rw [List.getElem?_modify_eq, hi]
  rfl

theorem id?_newControl {id : String} (hid : id ≠ "") : (newControl id).id? = some id := by
  have hget : (newControl id).attributes.get? "id" = some id := by
    rw [newControl, Table.get?_insert_of_ne _ (by decide), Table.get?_insert_self]
  rw [Node.id?, hget, Option.filter_some, if_pos (by simpa using hid)]

theorem ensureControl_showsTheme (hid : s.toggleId ≠ "") (h0 : h.OpensTheme s i c v) :
    ((surface i).ensureControl h).1 = !v.hasControl ∧
      ((surface i).ensureControl h).2.ShowsTheme s i c v.provide := by
  obtain ⟨⟨hsound, hbody, hstore, hheld, rfl⟩, hcontrol⟩ := h0
  show (ensureControl i h).1 = _ ∧ (ensureControl i h).2.ShowsTheme _ _ _ _
  unfold ensureControl
  rw [bind_apply, switch_eq hheld]
  cases hfound : h.byId? s.toggleId with
  | some found =>
    obtain rfl : found = c := by
      rw [hfound] at hcontrol
      exact hcontrol
    simp only [Option.isSome_none, Bool.false_eq_true, if_false, bind_apply, get_apply, hfound]
    refine ⟨?_, ⟨hsound, hbody, hstore, setControl_held hheld, ?_⟩, hfound⟩
    · rw [themeView_of_control hfound]
      rfl
    · show h.themeView s = _
      rw [themeView_of_control hfound]
      rfl
  | none =>
    obtain rfl : h.nodes.length = c := by
      rw [hfound] at hcontrol
      exact hcontrol
    simp only [Option.isSome_none, Bool.false_eq_true, if_false, bind_apply, get_apply, hfound,
      createControl_eq hsound]
    refine ⟨?_, ⟨hsound, ?_, hstore, setControl_held hheld, ?_⟩, ?_⟩
    · rw [themeView_of_no_control hfound]
      rfl
    · show 0 < (h.nodes ++ [newControl s.toggleId]).length
      simp
    · rw [themeView_of_control (byId?_append rfl hid hfound rfl (id?_newControl hid)),
        nodeAt_append_self rfl, nodeAt_append_of_lt rfl hbody, themeView_of_no_control hfound]
      exact congrArg (fun created => (⟨(h.nodeAt 0).hasClass s.darkClass, true, created, none, none,
        none, h.storage.bind fun t => t.get? s.storageKey⟩ : ThemeView))
        (countP_isCreation_createControl h.trace h.nodes.length s.toggleId)
    · exact byId?_append rfl hid hfound rfl (id?_newControl hid)

theorem read_opensTheme (h0 : h.OpensTheme s i c v) :
    ((surface i).read s.storageKey h).1 = .ok v.stored ∧
      ((surface i).read s.storageKey h).2.OpensTheme s i c v := by
  rw [read_eq h0.sound h0.held rfl]
  refine ⟨?_, h0.congr (sameSwitch_noted rfl)⟩
  rw [← h0.view]
  rfl

/-- As long as no call fails, a switch shows what it is meant to show. -/
theorem surface_realizes (hdark : Node.IsToken s.darkClass) (hid : s.toggleId ≠ "") :
    (surface i).Realizes s.storageKey (Host.OpensTheme s i c) (Host.ShowsTheme s i c) where
  read := read_opensTheme
  remark level text h0 := by
    obtain ⟨log, hlog⟩ := say_eq level text
    show (say level text _).2.OpensTheme _ _ _ _
    rw [hlog]
    exact h0.congr ⟨rfl, rfl, rfl, rfl, rfl⟩
  provide := ensureControl_showsTheme hid
  isDark h0 := by
    rw [isDark_eq h0]
    exact ⟨rfl, h0⟩
  setDark dark h0 := setDark_showsTheme hdark h0 dark
  draw o h0 := renderControl_showsTheme h0 o
  write value h0 := write_showsTheme h0 value
  say level text h0 := say_showsTheme h0 level text

end HostM

end Enhance
