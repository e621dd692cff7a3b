/-
  Enhance/Proofs/Host/Alongside.lean
  ==================================
  **What happens on a page with some elements and on the same page without them.**

  The theme and the features that have their elements do the same on both pages,
  node for node.  The feature whose elements are missing goes its way on the one
  page and at most leaves a remark on the other.
-/
import Enhance.Proofs.Host.Standing
import Enhance.Proofs.Host.Without

namespace Enhance

/-- A change of an entry before or after all entries are renumbered. -/
theorem map_modify_of_mem {α β : Type} {l : List α} {m : α → β} {F : α → α} {G : β → β}
    (h : ∀ a ∈ l, G (m a) = m (F a)) (i : Nat) : (l.map m).modify i G = (l.modify i F).map m := by
  apply List.ext_getElem?
  intro j
  rw [List.getElem?_modify, List.getElem?_map, List.getElem?_map, List.getElem?_modify]
  cases ha : l[j]? with
  | none => rfl
  | some a =>
    by_cases hij : i = j
    · simp [hij, h a (List.mem_of_getElem? ha)]
    · simp [hij]

namespace HostM

open Host

variable {f f' : Feature} {gone : NodeId → Bool} {h h' : Host} {i j : NodeId} {F : Node → Node}

/-! ### Effects -/

theorem matches_record (call call' : Call) :
    Matches Eq (Without f gone) (record call) (record call') :=
  fun _ _ h0 => ⟨rfl, h0.noted call call'⟩

theorem matches_say (level : Log.Level) (text : String) :
    Matches Eq (Without f gone) (say level text) (say level text) := by
  intro h h' h0
  obtain ⟨log, hlog⟩ := say_eq (h := h) level text
  obtain ⟨log', hlog'⟩ := say_eq (h := h') level text
  rw [hlog, hlog']
  exact ⟨rfl, { h0 with }⟩

/-- A remark on the one page only. -/
theorem without_say (h0 : Without f gone h h') (level : Log.Level) (text : String) :
    Without f gone h (say level text h').2 := by
  obtain ⟨log, hlog⟩ := say_eq (h := h') level text
  rw [hlog]
  exact { h0 with }

theorem matches_attempt {α : Type} {R : Except Thrown α → Except Thrown α → Prop}
    {x y : HostM (Except Thrown α)} (hxy : Matches R (Without f gone) x y) (c : Failable) :
    Matches R (Without f gone) (attempt c x) (attempt c y) := by
  intro h h' h0
  rw [attempt_eq h0.sound, attempt_eq h0.sound']
  exact hxy h h' h0

theorem matches_node (hi : gone i = false) :
    Matches Eq (Without f gone) (node i) (node (rank gone i)) :=
  fun _ _ h0 => ⟨(h0.nodeAt hi).symm, h0⟩

theorem matches_editNode (hi : gone i = false) (hF : ∀ n, Node.Alike "fade-in" n (F n)) :
    Matches Eq (Without f gone) (editNode i F) (editNode (rank gone i) F) :=
  fun _ _ h0 => ⟨rfl, h0.editAlike hi hF⟩

theorem matches_setMarkup (hi : gone i = false) (html : String) :
    Matches Eq (Without f gone) (setMarkup i html) (setMarkup (rank gone i) html) :=
  (matches_record _ _).then fun _ => matches_editNode hi fun _ => ⟨⟨rfl, rfl⟩, rfl⟩

theorem matches_setText (hi : gone i = false) (text : String) :
    Matches Eq (Without f gone) (setText i text) (setText (rank gone i) text) :=
  (matches_record _ _).then fun _ => matches_editNode hi fun _ => ⟨⟨rfl, rfl⟩, rfl⟩

theorem matches_setStyle (hi : gone i = false) (property value : String) :
    Matches Eq (Without f gone) (setStyle i property value)
      (setStyle (rank gone i) property value) :=
  (matches_record _ _).then fun _ => matches_editNode hi fun _ => ⟨⟨rfl, rfl⟩, rfl⟩

theorem matches_tryAttribute (hi : gone i = false) {name : String} (hid : name ≠ "id")
    (hclass : name ≠ "class") (value : String) :
    Matches Eq (Without f gone) (tryAttribute i name value)
      (tryAttribute (rank gone i) name value) := by
  have hset : Matches Eq (Without f gone) (setAttribute i name value)
      (setAttribute (rank gone i) name value) :=
    matches_attempt ((matches_record _ _).then fun _ =>
      (matches_editNode hi fun n => n.alike_setAttribute _ _ hid hclass).then fun _ =>
        matches_pure rfl) _
  exact hset.then fun _ => matches_pure rfl

theorem matches_markClass (hi : gone i = false) {name : String} (hname : Node.IsToken name)
    (hfade : name ≠ "fade-in") (present : Bool) :
    Matches Eq (Without f gone) (markClass i name present)
      (markClass (rank gone i) name present) := by
  intro h h' h0
  rw [markClass_eq h0.sound hname, markClass_eq h0.sound' hname]
  exact ⟨rfl, (h0.noted _ _).editAlike hi fun n => n.alike_putClass hname (Ne.symm hfade)⟩

theorem matches_listen {target : Target} (htarget : target.IsKept gone) {type : String}
    {handler : Handler} (hhandler : handler.isOf f = false) (htype : type = handler.eventType) :
    Matches Eq (Without f gone) (listen target type handler)
      (listen (target.renumber gone) type handler) := by
  intro h h' h0
  rw [listen_eq h0.sound, listen_eq h0.sound', htype]
  exact ⟨rfl, (h0.noted _ _).withListener htarget hhandler⟩

theorem matches_getItem (key : String) :
    Matches Eq (Without f gone) (getItem key) (getItem key) := by
  refine (matches_record _ _).then fun _ => matches_attempt (fun h h' h0 => ?_) _
  exact ⟨congrArg (fun storage : Option (Table String) =>
    (Except.ok (storage.bind fun t => t.get? key) : Except Thrown _)) h0.storage.symm, h0⟩

theorem matches_setItem (key value : String) :
    Matches Eq (Without f gone) (setItem key value) (setItem key value) := by
  refine (matches_record _ _).then fun _ => matches_attempt ?_ _
  refine (matches_modify fun h h' h0 => ?_).then fun _ => matches_pure rfl
  exact { h0 with storage := congrArg (Option.map fun t => t.insert key value) h0.storage }

/-! ### The theme -/

/-- What a switch does, for each state that it may be in. -/
theorem matches_withSwitch {α : Type} {act act' : BodySwitch → HostM α}
    (hact : ∀ b : BodySwitch, b.settings.darkClass = "dark-mode" →
      b.settings.toggleId = "dark-mode-toggle" → (∀ c, b.control = some c → gone c = false) →
      Matches Eq (Without f gone) (act b) (act' (b.renumber gone))) (i : Nat) :
    Matches Eq (Without f gone) (switch i >>= act) (switch i >>= act') := by
  intro h h' h0
  have hswitch : h'.switches[i]? = (h.switches[i]?).map (BodySwitch.renumber gone) := by
    rw [h0.switches, List.getElem?_map]
  rw [bind_apply, bind_apply, switch_apply, switch_apply, hswitch]
  cases hb : h.switches[i]? with
  | none => exact hact ⟨{}, false, none⟩ rfl rfl (fun c hc => nomatch hc) h h' h0
  | some b =>
    obtain ⟨hdark, htoggle, hcontrol⟩ := h0.switched b (List.mem_of_getElem? hb)
    exact hact b hdark htoggle hcontrol h h' h0

theorem matches_setControl {c : NodeId} (hc : gone c = false) (i : Nat) :
    Matches Eq (Without f gone) (setControl i c) (setControl i (rank gone c)) := by
  intro h h' h0
  have hmodify : (h.switches.map (BodySwitch.renumber gone)).modify i
      (fun b => { b with control := some (rank gone c) }) =
        (h.switches.modify i fun b => { b with control := some c }).map (BodySwitch.renumber gone) :=
    map_modify_of_mem (by intro b _; rfl) i
  refine ⟨rfl, { h0 with switches := ?_, switched := ?_ }⟩
  · show h'.switches.modify i _ = _
    rw [h0.switches]
    exact hmodify
  · intro b hb
    rcases mem_modify hb with hb | ⟨b', hb', rfl⟩
    · exact h0.switched b hb
    · obtain ⟨hdark, htoggle, -⟩ := h0.switched b' hb'
      refine ⟨hdark, htoggle, ?_⟩
      rintro c' ⟨⟩
      exact hc

/-- A new control is for the theme. -/
theorem seeks_newControl (hf : f ≠ .theme) : f.seeks (newControl "dark-mode-toggle") = false := by
  cases f with
  | theme => exact absurd rfl hf
  | _ => decide +kernel

theorem matches_ensureControl (i : Nat) :
    Matches Eq (Without f gone) (ensureControl i) (ensureControl i) := by
  refine matches_withSwitch (fun b _ htoggle _ => ?_) i
  have hsome : (b.renumber gone).control.isSome = b.control.isSome := Option.isSome_map
  have htoggle' : (b.renumber gone).settings.toggleId = "dark-mode-toggle" := htoggle
  rw [hsome, htoggle, htoggle']
  split
  · exact matches_pure rfl
  · intro h h' h0
    rw [bind_apply, get_apply, bind_apply, get_apply]
    dsimp only
    rw [h0.byId? .theme (Ne.symm h0.peripheral) fun _ => rfl]
    cases hfound : h.byId? "dark-mode-toggle" with
    | some c =>
      have hc : gone c = false :=
        (h0.splits_of_byId? .theme (fun _ => rfl) hfound).kept (Ne.symm h0.peripheral)
      exact ((matches_setControl hc i).then fun _ => matches_pure rfl) h h' h0
    | none =>
      have hnew := h0.append (n := newControl "dark-mode-toggle") fun _ =>
        seeks_newControl h0.peripheral
      rw [Option.map_none]
      dsimp only
      rw [bind_apply, bind_apply, createControl_eq h0.sound, createControl_eq h0.sound', h0.length]
      exact ((matches_setControl h0.kept_length i).then fun _ => matches_pure rfl) _ _ { hnew with }

theorem matches_renderControl (i : Nat) (o : Offer) :
    Matches Eq (Without f gone) (renderControl i o) (renderControl i o) := by
  refine matches_withSwitch (fun b _ _ hcontrol => ?_) i
  show Matches Eq (Without f gone) _ (match b.control.map (rank gone) with
    | none => pure ()
    | some control => do
      setMarkup control o.html
      tryAttribute control "aria-label" o.label
      tryAttribute control "title" o.label)
  cases hc : b.control with
  | none => exact matches_pure rfl
  | some c =>
    have hkept := hcontrol c hc
    exact (matches_setMarkup hkept _).then fun _ =>
      (matches_tryAttribute hkept (by decide) (by decide) _).then fun _ =>
      matches_tryAttribute hkept (by decide) (by decide) _

/-- Using a switch shows the same on both pages. -/
theorem twin_surface (i : Nat) : (surface i).Twin (surface i) (Without f gone) where
  read key := by
    refine matches_withSwitch (fun b _ _ _ => ?_) i
    show Matches Eq _ _ (if b.hasStore then _ else _)
    split
    · exact (matches_getItem key).then fun _ => matches_pure rfl
    · exact matches_pure rfl
  write key value := by
    refine matches_withSwitch (fun b _ _ _ => ?_) i
    show Matches Eq _ _ (if b.hasStore then _ else _)
    split
    · exact (matches_setItem key value).then fun _ => matches_pure rfl
    · exact matches_pure rfl
  isDark := by
    refine matches_withSwitch (fun b _ _ _ => ?_) i
    intro h h' h0
    exact ((matches_node h0.body).then fun _ => matches_pure rfl) h h' h0
  setDark dark := by
    refine matches_withSwitch (fun b hdark _ _ => ?_) i
    intro h h' h0
    show (markClass 0 b.settings.darkClass dark h).1 = (markClass 0 b.settings.darkClass dark h').1 ∧
      Without f gone (markClass 0 b.settings.darkClass dark h).2
        (markClass 0 b.settings.darkClass dark h').2
    rw [hdark]
    exact matches_markClass h0.body isToken_darkMode (by decide) dark h h' h0
  ensureControl := matches_ensureControl i
  renderControl := matches_renderControl i
  say := matches_say

theorem matches_flipTheme (i : Nat) :
    Matches Eq (Without f gone) (flipTheme i) (flipTheme i) :=
  matches_withSwitch (fun b _ _ _ => (twin_surface i).flip b.settings) i

theorem matches_makeSwitch {s : ThemeSettings} (hdark : s.darkClass = "dark-mode")
    (htoggle : s.toggleId = "dark-mode-toggle") :
    Matches Eq (Without f gone) (makeSwitch s) (makeSwitch s) := by
  have hfind : Matches Eq (Without f gone) findStore findStore := by
    intro h h' h0
    rw [findStore_eq h0.sound, findStore_eq h0.sound', h0.window, h0.storage]
    exact ⟨rfl, h0⟩
  have hadd : ∀ hasStore : Bool, Matches Eq (Without f gone)
      (modifyGet fun h : Host =>
        (h.switches.length, { h with switches := h.switches ++ [⟨s, hasStore, none⟩] }))
      (modifyGet fun h : Host =>
        (h.switches.length, { h with switches := h.switches ++ [⟨s, hasStore, none⟩] })) := by
    intro hasStore h h' h0
    refine ⟨?_, { h0 with switches := ?_, switched := ?_ }⟩
    · show h.switches.length = h'.switches.length
      rw [h0.switches, List.length_map]
    · show h'.switches ++ _ = (h.switches ++ _).map _
      rw [h0.switches, List.map_append]
      rfl
    · intro b hb
      rcases List.mem_append.mp hb with hb | hb
      · exact h0.switched b hb
      · rw [List.mem_singleton.mp hb]
        exact ⟨hdark, htoggle, fun c hc => nomatch hc⟩
  refine hfind.then fun hasStore => ?_
  split
  · exact (matches_say _ _).then fun _ => hadd _
  · exact hadd _

theorem matches_bindControl (i : Nat) :
    Matches Eq (Without f gone) (bindControl i) (bindControl i) := by
  refine matches_withSwitch (fun b _ _ hcontrol => ?_) i
  show Matches Eq (Without f gone) _ (match b.control.map (rank gone) with
    | none => pure ()
    | some control => do
      if (← node control).attributes.contains boundAttribute then return ()
      else
        tryAttribute control boundAttribute ""
        listen (.node control) "click" (.flip i))
  cases hc : b.control with
  | none => exact matches_pure rfl
  | some c =>
    have hkept := hcontrol c hc
    refine (matches_node hkept).then fun n => ?_
    split
    · exact matches_pure rfl
    · exact (matches_tryAttribute hkept (by decide) (by decide) _).then fun _ =>
        matches_listen (Target.isKept_node hkept) rfl rfl

theorem matches_wireTheme {s : ThemeSettings} (hdark : s.darkClass = "dark-mode")
    (htoggle : s.toggleId = "dark-mode-toggle") :
    Matches Eq (Without f gone) (wireTheme s) (wireTheme s) := by
  intro h h' h0
  unfold wireTheme
  rw [bind_apply, get_apply, bind_apply, get_apply, h0.body?]
  cases h.body? with
  | none => exact ((matches_say _ _).then fun _ => matches_pure rfl) h h' h0
  | some body =>
    have hstart : ∀ i, Matches Eq (Without f gone) (operate Surface.start i)
        (operate Surface.start i) := fun i =>
      matches_withSwitch (fun b _ _ _ => (twin_surface i).start b.settings) i
    exact ((matches_makeSwitch hdark htoggle).then fun i => (hstart i).then fun _ =>
      (matches_bindControl i).then fun _ => matches_pure rfl) h h' h0

theorem matches_wireShortcut (chord : Chord) (i : Nat) :
    Matches Eq (Without f gone) (wireShortcut chord i) (wireShortcut chord i) :=
  matches_listen Target.isKept_document rfl rfl

end HostM

end Enhance
