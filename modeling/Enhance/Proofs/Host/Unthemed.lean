/-
  Enhance/Proofs/Host/Unthemed.lean
  =================================
  **What the theme leaves as it is,** whether its calls fail or not.

  A switch has few ways of touching a page: the dark class of the body, what is
  drawn on its control, a button that it makes, the stored entries, the switches
  and the log.  A property that none of them disturbs is kept by all that is done
  with a switch (`Unflipped`).  Making a switch leaves a note on its control and
  listeners besides, and a property may stand that as well (`Unthemed`).
-/
import Enhance.Proofs.Host.Tasks
import Enhance.Proofs.Host.Toggle

namespace Enhance

/-! ### Calls -/

/-- The one feature that makes such a call, if there is only one. -/
def Call.feature? : Call → Option Feature
  | makeTimer _ => some .typing
  | fetch .. => some .commits
  | readBody => some .commits
  | _ => none

/-- A call that any feature beside the theme may make, and that sets no text. -/
def Call.isShared : Call → Bool
  | createElement .. => false
  | setText .. => false
  | call => call.feature?.isNone

/-- A class is added or taken away. -/
def Call.isMark : Call → Bool
  | addClass .. => true
  | removeClass .. => true
  | _ => false

/-- The call that adds a class or takes it away. -/
def Call.mark (node : NodeId) (name : String) (present : Bool) : Call :=
  if present then .addClass node name else .removeClass node name

/-! ### A new control -/

namespace Host

/-- A page on which new nodes come last, which have no attribute but an id and a type, and on which
    other calls are listed, which mark nothing. -/
def Adds (h h' : Host) : Prop :=
  ∃ made trace, h' = { h with nodes := h.nodes ++ made, trace := h.trace ++ trace } ∧
    (∀ n ∈ made, ∀ name, name ∉ ["id", "type"] → n.attributes.get? name = none) ∧
    ∀ call ∈ trace, call.isMark = false

variable {h h' : Host}

theorem Adds.noted (h0 : Adds h h') {call : Call} (hcall : call.isMark = false) :
    Adds h (h'.noted call) := by
  obtain ⟨made, trace, rfl, hmade, htrace⟩ := h0
  refine ⟨made, trace ++ [call], by simp [Host.noted], hmade, ?_⟩
  intro c hc
  rcases List.mem_append.mp hc with hc | hc
  · exact htrace c hc
  · rw [List.mem_singleton.mp hc]
    exact hcall

theorem Adds.edit (h0 : Adds h h') {f : Node → Node}
    (hf : ∀ n name, name ∉ ["id", "type"] → (f n).attributes.get? name = n.attributes.get? name) :
    Adds h (h'.edit h.nodes.length f) := by
  obtain ⟨made, trace, rfl, hmade, htrace⟩ := h0
  refine ⟨made.modify 0 f, trace, ?_, ?_, htrace⟩
  · have hlast : (h.nodes ++ made).modify h.nodes.length f = h.nodes ++ made.modify 0 f :=
      List.modifyTailIdx_add _ 0 h.nodes made
    rw [← hlast]
    rfl
  · intro n hn name hname
    rcases mem_modify hn with hn | ⟨m, hm, rfl⟩
    · exact hmade n hn name hname
    · rw [hf m name hname]
      exact hmade m hm name hname

end Host

namespace HostM

open Host

/-- Whatever its calls throw, a switch adds nothing to a page but the button that it makes. -/
theorem createControl_adds (id : String) (h : Host) : Adds h (createControl id h).2 := by
  have hname : ∀ {name value}, name ∈ ["id", "type"] → ∀ (n : Node) other,
      other ∉ ["id", "type"] →
      (n.setAttribute name value).attributes.get? other = n.attributes.get? other :=
    fun hname n other hother =>
      Table.get?_insert_of_ne _ (fun heq => hother (by rw [heq]; exact hname)) _
  have hid : Keeps (Adds h) (setId h.nodes.length id) := fun _ h0 =>
    (h0.noted rfl).edit (hname (by simp))
  have htype : Keeps (Adds h) (setAttribute h.nodes.length "type" "button") :=
    Keeps.attempt fun _ h0 => (h0.noted rfl).edit (hname (by simp))
  have happend : Keeps (Adds h) (appendChild 0 h.nodes.length) :=
    Keeps.attempt fun _ h0 => (h0.noted rfl).edit fun _ _ _ => rfl
  have hmade : Adds h { h.noted (.createElement h.nodes.length "button") with
      nodes := h.nodes ++ [{ tag := "button", attached := false }] } := by
    refine ⟨[{ tag := "button", attached := false }], _, rfl, ?_, ?_⟩
    · intro n hn name _
      rw [List.mem_singleton.mp hn]
      rfl
    · intro c hc
      rw [List.mem_singleton.mp hc]
      rfl
  unfold createControl
  rw [bind_apply]
  rcases attempt_cases .createElement _ h with ⟨t, hcreate⟩ | hcreate
  · rw [createElement, hcreate]
    exact ⟨[], [], by simp, nofun, nofun⟩
  · rw [createElement, hcreate]
    refine (hid.bind fun _ => htype.bind fun answer => ?_) _ hmade
    split
    · exact keeps_pure _
    · refine happend.bind fun answer => ?_
      split <;> exact keeps_pure _

end HostM

/-! ### Properties -/

/-- The type of event that a handler is for. -/
def Handler.eventType : Handler → String
  | .enhance => "DOMContentLoaded"
  | .flip _ => "click"
  | .shortcut .. => "keydown"
  | .follow _ => "scroll"
  | .scrollUp => "click"

namespace Host

open HostM

/-- A property that nothing done with a switch disturbs, as long as every switch goes by settings
    that are `known` and has a control that `owns` allows. -/
structure Unflipped (known : ThemeSettings → Prop) (owns : NodeId → Prop) (P : Host → Prop) :
    Prop where
  standard : known {}
  held : ∀ {h}, P h → ∀ b ∈ h.switches, known b.settings ∧ ∀ c, b.control = some c → owns c
  found : ∀ {h s c}, known s → P h → h.byId? s.toggleId = some c → owns c
  log : ∀ {h log}, P h → P { h with log }
  noted : ∀ {h call}, call.isShared = true → call.isMark = false → P h → P (h.noted call)
  stored : ∀ {h storage}, P h → P { h with storage }
  dark : ∀ {h s present}, known s → Node.IsToken s.darkClass → P h →
    P ((h.noted (.mark 0 s.darkClass present)).edit 0 fun n => n.putClass s.darkClass present)
  drawn : ∀ {h c html}, owns c → P h → P (h.edit c fun n => n.setMarkup html)
  labelled : ∀ {h c name value}, owns c → name ∉ ["id", "class", boundAttribute] → P h →
    P (h.edit c fun n => n.setAttribute name value)
  created : ∀ {h s}, known s → P h → P (createControl s.toggleId h).2 ∧
    ∀ c, (createControl s.toggleId h).1 = .ok c → owns c
  switches : ∀ {h switches},
    (∀ b ∈ switches, known b.settings ∧ ∀ c, b.control = some c → owns c) → P h →
    P { h with switches }

/-- A property that the making of a switch does not disturb either. -/
structure Unthemed (known : ThemeSettings → Prop) (owns : NodeId → Prop) (P : Host → Prop) : Prop
    extends Unflipped known owns P where
  bound : ∀ {h c}, owns c → P h → P (h.edit c fun n => n.setAttribute boundAttribute "")
  listens : ∀ {h target handler}, handler.isAside = false → handler ≠ .enhance → P h →
    P { h with listeners := h.listeners ++ [⟨target, handler.eventType, handler⟩] }

end Host

namespace HostM

theorem keystroke_snd (e : PageEvent) (h : Host) : (keystroke e h).2 = h := by
  unfold keystroke
  cases e.source <;> rfl

end HostM

/-! ### Using a switch -/

namespace Host.Unflipped

open HostM

variable {known : ThemeSettings → Prop} {owns : NodeId → Prop} {P : Host → Prop}
  (hp : Unflipped known owns P)

include hp

theorem keeps_record {call : Call} (hcall : call.isShared = true) (hmark : call.isMark = false) :
    Keeps P (record call) := fun _ h0 => hp.noted hcall hmark h0

theorem keeps_say (level : Log.Level) (text : String) : Keeps P (say level text) := by
  intro h h0
  obtain ⟨log, hlog⟩ := say_eq (h := h) level text
  rw [hlog]
  exact hp.log h0

theorem keeps_markDark {s : ThemeSettings} (hs : known s) (present : Bool) :
    Keeps P (markClass 0 s.darkClass present) := by
  have hput : Keeps P (putClass 0 s.darkClass present) := by
    refine Keeps.attempt ?_
    split
    · exact keeps_pure _
    · rename_i hname
      exact fun _ h0 => hp.dark hs (isToken_of_classFault? hname) h0
  refine hput.bind fun answer => ?_
  split
  · exact keeps_pure _
  · exact hp.keeps_say _ _

theorem keeps_label {c : NodeId} (hc : owns c) {name : String}
    (hname : name ∉ ["id", "class", boundAttribute]) (value : String) :
    Keeps P (tryAttribute c name value) := by
  have hset : Keeps P (setAttribute c name value) := Keeps.attempt
    ((hp.keeps_record rfl rfl).bind fun _ =>
      Keeps.bind (fun _ h0 => hp.labelled hc hname h0) fun _ => keeps_pure _)
  exact hset.bind fun _ => keeps_pure _

theorem keeps_setControl {c : NodeId} (hc : owns c) (i : Nat) : Keeps P (setControl i c) := by
  intro h h0
  refine hp.switches ?_ h0
  intro b hb
  rcases mem_modify hb with hb | ⟨b', hb', rfl⟩
  · exact hp.held h0 b hb
  · refine ⟨(hp.held h0 b' hb').1, ?_⟩
    rintro c' ⟨⟩
    exact hc

/-- What is known of a switch, even if there is none of this number. -/
theorem known_switch {h : Host} (h0 : P h) (i : Nat) :
    known (switch i h).1.settings ∧ ∀ c, (switch i h).1.control = some c → owns c := by
  rw [switch_apply]
  cases hswitch : h.switches[i]? with
  | none => exact ⟨hp.standard, fun c hc => nomatch hc⟩
  | some b => exact hp.held h0 b (List.mem_of_getElem? hswitch)

/-- What a switch does, for each state that it may be in. -/
theorem keeps_withSwitch {α : Type} {act : BodySwitch → HostM α}
    (hact : ∀ b : BodySwitch, known b.settings → (∀ c, b.control = some c → owns c) →
      Keeps P (act b)) (i : Nat) : Keeps P (switch i >>= act) := by
  intro h h0
  obtain ⟨hknown, hcontrol⟩ := hp.known_switch h0 i
  exact hact _ hknown hcontrol h h0

theorem keeps_ensureControl (i : Nat) : Keeps P (ensureControl i) := by
  refine hp.keeps_withSwitch (fun b hknown _ => ?_) i
  split
  · exact keeps_pure _
  · intro h h0
    rw [bind_apply, get_apply]
    dsimp only
    cases hfound : h.byId? b.settings.toggleId with
    | some found =>
      exact hp.keeps_setControl (hp.found hknown h0 hfound) i h h0
    | none =>
      obtain ⟨hcreated, hmade⟩ := hp.created hknown h0
      dsimp only
      rw [bind_apply]
      cases hanswer : (createControl b.settings.toggleId h).1 with
      | ok c => exact hp.keeps_setControl (hmade c hanswer) i _ hcreated
      | error t => exact hp.keeps_say _ _ _ hcreated

theorem keeps_renderControl (i : Nat) (o : Offer) : Keeps P (renderControl i o) := by
  refine hp.keeps_withSwitch (fun b _ hcontrol => ?_) i
  split
  · exact keeps_pure _
  · rename_i c hc
    have howns := hcontrol c hc
    have hmarkup : Keeps P (setMarkup c o.html) :=
      (hp.keeps_record rfl rfl).bind fun _ _ h0 => hp.drawn howns h0
    exact hmarkup.bind fun _ => (hp.keeps_label howns (by decide) _).bind fun _ =>
      hp.keeps_label howns (by decide) _

/-- Whatever its calls throw, using a switch does not disturb the property. -/
theorem surface (i : Nat) : (surface i).Safe P where
  read key := by
    refine hp.keeps_withSwitch (fun b _ _ => ?_) i
    split
    · have hget : Keeps P (getItem key) := (hp.keeps_record rfl rfl).bind fun _ =>
        Keeps.attempt (keeps_get.bind fun _ => keeps_pure _)
      exact hget.bind fun _ => keeps_pure _
    · exact keeps_pure _
  write key value := by
    refine hp.keeps_withSwitch (fun b _ _ => ?_) i
    split
    · have hset : Keeps P (setItem key value) := (hp.keeps_record rfl rfl).bind fun _ =>
        Keeps.attempt (Keeps.bind (keeps_modify fun _ h0 => hp.stored h0) fun _ => keeps_pure _)
      exact hset.bind fun _ => keeps_pure _
    · exact keeps_pure _
  isDark := fun _ h0 => h0
  setDark dark := hp.keeps_withSwitch (fun b hknown _ => hp.keeps_markDark hknown dark) i
  ensureControl := hp.keeps_ensureControl i
  renderControl := hp.keeps_renderControl i
  say := hp.keeps_say

theorem keeps_flipTheme (i : Nat) : Keeps P (flipTheme i) :=
  Keeps.bind (fun _ h0 => h0) fun b => (hp.surface i).flip b.settings

theorem keeps_startTheme (i : Nat) : Keeps P (operate Surface.start i) :=
  Keeps.bind (fun _ h0 => h0) fun b => (hp.surface i).start b.settings

/-- A click on a control or a key. -/
theorem keeps_react (e : PageEvent) {handler : Handler} (htheme : handler.isAside = false)
    (henhance : handler ≠ .enhance) : Keeps P (react e handler) := by
  cases handler with
  | flip i => exact (hp.keeps_flipTheme i).bind fun _ => keeps_pure _
  | shortcut chord i =>
    rw [react]
    split
    · exact keeps_pure _
    · have hkeystroke : Keeps P (keystroke e) := by
        intro h h0
        rw [keystroke_snd]
        exact h0
      refine hkeystroke.bind ?_
      intro stroke
      split
      · exact (hp.keeps_flipTheme i).bind fun _ => (hp.keeps_say _ _).bind fun _ => keeps_pure _
      · exact keeps_pure _
  | enhance => exact absurd rfl henhance
  | follow i => cases htheme
  | scrollUp => cases htheme

end Host.Unflipped

/-! ### Making a switch -/

namespace Host.Unthemed

open HostM

variable {known : ThemeSettings → Prop} {owns : NodeId → Prop} {P : Host → Prop}
  (hp : Unthemed known owns P)

include hp

theorem keeps_listen (target : Target) {type : String} {handler : Handler}
    (htheme : handler.isAside = false) (henhance : handler ≠ .enhance)
    (htype : type = handler.eventType) : Keeps P (listen target type handler) := by
  have hattach : Keeps P (addListener target type handler) := by
    rw [htype]
    exact Keeps.attempt ((hp.keeps_record rfl rfl).bind fun _ =>
      Keeps.bind (keeps_modify fun _ h0 => hp.listens htheme henhance h0) fun _ => keeps_pure _)
  refine hattach.bind fun answer => ?_
  split
  · exact keeps_pure _
  · exact hp.keeps_say _ _

theorem keeps_makeSwitch {s : ThemeSettings} (hs : known s) : Keeps P (makeSwitch s) := by
  have hfind : Keeps P findStore := by
    refine keeps_get.bind fun h => ?_
    split <;> exact keeps_pure _
  have hadd : ∀ hasStore, Keeps P (modifyGet fun h : Host =>
      (h.switches.length, { h with switches := h.switches ++ [⟨s, hasStore, none⟩] }) :
        HostM Nat) := by
    intro hasStore h h0
    refine hp.switches ?_ h0
    intro b hb
    rcases List.mem_append.mp hb with hb | hb
    · exact hp.held h0 b hb
    · rw [List.mem_singleton.mp hb]
      exact ⟨hs, fun c hc => nomatch hc⟩
  refine hfind.bind fun hasStore => ?_
  split
  · exact (hp.keeps_say _ _).bind fun _ => hadd _
  · exact hadd _

theorem keeps_bindControl (i : Nat) : Keeps P (bindControl i) := by
  refine hp.keeps_withSwitch (fun b _ hcontrol => ?_) i
  split
  · exact keeps_pure _
  · rename_i c hc
    have hnote : Keeps P (tryAttribute c boundAttribute "") := by
      refine Keeps.bind (Keeps.attempt ?_) fun _ => keeps_pure _
      exact (hp.keeps_record rfl rfl).bind fun _ =>
        Keeps.bind (fun _ h0 => hp.bound (hcontrol c hc) h0) fun _ => keeps_pure _
    refine Keeps.bind (fun _ h0 => h0) fun n => ?_
    split
    · exact keeps_pure _
    · exact hnote.bind fun _ => hp.keeps_listen _ rfl Handler.noConfusion rfl

theorem keeps_wireTheme {s : ThemeSettings} (hs : known s) : Keeps P (wireTheme s) := by
  refine keeps_get.bind ?_
  intro h
  split
  · exact (hp.keeps_say _ _).bind fun _ => keeps_pure _
  · refine (hp.keeps_makeSwitch hs).bind fun i => ?_
    refine (hp.keeps_startTheme i).bind fun _ => ?_
    exact (hp.keeps_bindControl i).bind fun _ => keeps_pure _

theorem keeps_wireShortcut (chord : Chord) (i : Nat) : Keeps P (wireShortcut chord i) :=
  hp.keeps_listen _ rfl Handler.noConfusion rfl

end Host.Unthemed

end Enhance
