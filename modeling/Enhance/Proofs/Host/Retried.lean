/-
  Enhance/Proofs/Host/Retried.lean
  ================================
  **A control that could not be made leaves nothing behind,** and is made the
  next time.

  Three calls make a control, and each of them may fail.  Whichever does, the
  button that was begun stays out of the page, so that the page holds what it
  held (`createControl_of_denied`) and a later request finds it as it was.  As
  long as every request is denied the page is `Lacking`; the first one that is
  granted makes it `Supplied`, and then every switch finds the one control.

  A switch that got no control goes on without one: it is `Bare` from then on,
  and a flip of a bare switch still turns the marker and stores the theme.
-/
import Enhance.Proofs.Host.Account

namespace Enhance

/-- A switch is asked to get itself a control while some calls fail. -/
structure ControlRequest where
  switch : Nat
  failures : Failable → Option Thrown

namespace Host

/-- What is on the page, in order. -/
def elements (h : Host) : List Node := h.nodes.filter Node.attached

/-- The control that a switch knows. -/
def controlOf (h : Host) (i : Nat) : Option NodeId := h.switches[i]?.bind BodySwitch.control

/-- Whether the request made a control, and the host then. -/
def request (h : Host) (r : ControlRequest) : Bool × Host :=
  HostM.ensureControl r.switch { h with failures := r.failures }

def requests (h : Host) (rs : List ControlRequest) : Host :=
  rs.foldl (fun h r => (h.request r).2) h

/-- There is a switch of this number that goes by this id and knows no control. -/
def Seeks (h : Host) (id : String) (i : Nat) : Prop :=
  ∃ b, h.switches[i]? = some b ∧ b.settings.toggleId = id ∧ b.control = none

variable {h h' : Host} {id : String} {i : Nat}

theorem elements_append {l : List Node} (hnodes : h'.nodes = h.nodes ++ l) :
    h'.elements = h.elements ++ l.filter Node.attached := by
  simp [elements, hnodes]

/-- An id is on the page or not, whatever has been begun besides. -/
theorem byId?_eq_none_iff (hid : id ≠ "") :
    h.byId? id = none ↔ ∀ n ∈ h.elements, n.id? ≠ some id := by
  unfold byId? elements
  rw [if_neg hid, List.findIdx?_eq_none_iff]
  simp only [List.mem_filter, Bool.and_eq_false_iff, beq_eq_false_iff_ne]
  constructor
  · intro hnone n hn
    rcases hnone n hn.1 with hn' | hn'
    · exact absurd hn.2 (by simp [hn'])
    · exact hn'
  · intro hnone n hn
    by_cases hattached : n.attached = true
    · exact .inr (hnone n ⟨hn, hattached⟩)
    · exact .inl (by simpa using hattached)

theorem byId?_none_congr (helements : h'.elements = h.elements) (hnone : h.byId? id = none) :
    h'.byId? id = none := by
  by_cases hid : id = ""
  · simp [byId?, hid]
  · rw [byId?_eq_none_iff hid, helements]
    exact (byId?_eq_none_iff hid).mp hnone

end Host

namespace HostM

open Host

variable {h : Host} {i : Nat} {b : BodySwitch}

/-! ### Making a control in vain -/

/-- Besides the page of the one host, the other has nodes that are not on it. -/
def Begins (h h' : Host) : Prop :=
  ∃ made trace, h' = { h with nodes := h.nodes ++ made, trace } ∧ ∀ n ∈ made, n.attached = false

namespace Begins

variable {h' : Host}

theorem refl (h : Host) : Begins h h := ⟨[], h.trace, by simp, nofun⟩

theorem noted (h0 : Begins h h') (call : Call) : Begins h (h'.noted call) := by
  obtain ⟨made, trace, rfl, hmade⟩ := h0
  exact ⟨made, trace ++ [call], rfl, hmade⟩

theorem edit (h0 : Begins h h') {f : Node → Node} (hf : ∀ n, (f n).attached = n.attached) :
    Begins h (h'.edit h.nodes.length f) := by
  obtain ⟨made, trace, rfl, hmade⟩ := h0
  have hlast : (h.nodes ++ made).modify h.nodes.length f = h.nodes ++ made.modify 0 f :=
    List.modifyTailIdx_add _ 0 h.nodes made
  refine ⟨made.modify 0 f, trace, ?_, ?_⟩
  · rw [← hlast]
    rfl
  · intro n hn
    rcases mem_modify hn with hn | ⟨m, hm, rfl⟩
    · exact hmade n hn
    · rw [hf m]
      exact hmade m hm

theorem elements_eq (h0 : Begins h h') : h'.elements = h.elements := by
  obtain ⟨made, trace, rfl, hmade⟩ := h0
  have hnone : made.filter Node.attached = [] := by
    rw [List.filter_eq_nil_iff]
    intro n hn
    simp [hmade n hn]
  rw [elements_append rfl, hnone, List.append_nil]

end Begins

/-- Whichever of its calls fails, the button is not on the page yet. -/
theorem createControl_of_denied (hdenied : denies h.failures = true) (id : String) :
    ∃ t h', createControl id h = (.error t, h') ∧ Begins h h' := by
  cases hcreates : h.failures .createElement with
  | some t =>
    refine ⟨t, h, ?_, .refl h⟩
    unfold createControl createElement
    rw [bind_apply, attempt_of_fails hcreates]
    rfl
  | none =>
    obtain ⟨h1, hcreate, hh1⟩ : ∃ h1, createElement "button" h = (.ok h.nodes.length, h1) ∧
        h1 = { h.noted (.createElement h.nodes.length "button") with
          nodes := h.nodes ++ [{ tag := "button", attached := false }] } :=
      ⟨_, attempt_of_works hcreates _, rfl⟩
    have hbegun1 : Begins h h1 := by
      rw [hh1]
      exact ⟨_, _, rfl, by simp⟩
    obtain ⟨h2, hnamed, hh2⟩ : ∃ h2, setId h.nodes.length id h1 = ((), h2) ∧
        h2 = (h1.noted (.setAttribute h.nodes.length "id" id)).edit h.nodes.length
          fun n => n.setAttribute "id" id := ⟨_, rfl, rfl⟩
    have hbegun2 : Begins h h2 := by
      rw [hh2]
      exact (hbegun1.noted _).edit fun _ => rfl
    have hfailures2 : h2.failures = h.failures := by
      rw [hh2, hh1]
      rfl
    cases hsets : h.failures .setAttribute with
    | some t =>
      have htype : setAttribute h.nodes.length "type" "button" h2 = (.error t, h2) :=
        attempt_of_fails (by rw [hfailures2, hsets]) _
      refine ⟨t, h2, ?_, hbegun2⟩
      unfold createControl
      simp only [bind_apply, hcreate, hnamed, htype, pure_apply]
    | none =>
      obtain ⟨h3, htype, hh3⟩ : ∃ h3,
          setAttribute h.nodes.length "type" "button" h2 = (.ok (), h3) ∧
          h3 = (h2.noted (.setAttribute h.nodes.length "type" "button")).edit h.nodes.length
            fun n => n.setAttribute "type" "button" :=
        ⟨_, attempt_of_works (by rw [hfailures2, hsets]) _, rfl⟩
      have hbegun3 : Begins h h3 := by
        rw [hh3]
        exact (hbegun2.noted _).edit fun _ => rfl
      -- then it is the last call that fails
      obtain ⟨t, happends⟩ : ∃ t, h.failures .appendChild = some t := by
        simpa [denies, hcreates, hsets, Option.isSome_iff_exists] using hdenied
      have happend : appendChild 0 h.nodes.length h3 = (.error t, h3) := by
        refine attempt_of_fails ?_ _
        rw [hh3, ← happends, ← hfailures2]
        rfl
      refine ⟨t, h3, ?_, hbegun3⟩
      unfold createControl
      simp only [bind_apply, hcreate, hnamed, htype, happend, pure_apply]

/-! ### One request -/

/-- A denied request answers no, and leaves the page and every switch as they were. -/
theorem ensureControl_of_denied (hdenied : denies h.failures = true)
    (hi : h.switches[i]? = some b) (hnew : b.control = none)
    (hnone : h.byId? b.settings.toggleId = none) :
    ∃ log h', ensureControl i h = (false, { h' with log }) ∧ Begins h h' := by
  obtain ⟨t, h', hcreate, hbegun⟩ := createControl_of_denied hdenied b.settings.toggleId
  obtain ⟨log, hsay⟩ := say_eq (h := h') .warn ("theme toggle not created: " ++ t.reason)
  refine ⟨log, h', ?_, hbegun⟩
  unfold ensureControl
  rw [bind_apply, switch_eq hi]
  simp only [hnew, Option.isSome_none, Bool.false_eq_true, if_false, bind_apply, get_apply, hnone,
    hcreate, hsay, pure_apply]

/-- A switch that has a control is not given another. -/
theorem ensureControl_of_known {c : NodeId} (hi : h.switches[i]? = some b)
    (hknown : b.control = some c) : ensureControl i h = (false, h) := by
  unfold ensureControl
  rw [bind_apply, switch_eq hi]
  simp only [hknown, Option.isSome_some, if_true, pure_apply]

end HostM

/-! ### A run of requests -/

namespace Host

open HostM

variable {origin h : Host} {id : String} {r : ControlRequest} {c : NodeId}

/-- No request has been granted: page and switches are those of the origin. -/
structure Lacking (origin : Host) (id : String) (h : Host) : Prop where
  elements : h.elements = origin.elements
  switches : h.switches = origin.switches
  missing : h.byId? id = none

/-- A request has been granted: the page has gained one control, and a switch knows it or knows
    none. -/
structure Supplied (origin : Host) (id : String) (c : NodeId) (h : Host) : Prop where
  elements : h.elements = origin.elements ++ [newControl id]
  found : h.byId? id = some c
  switches : ∀ i, origin.Seeks id i → ∃ b, h.switches[i]? = some b ∧
    b.settings.toggleId = id ∧ (b.control = none ∨ b.control = some c)

theorem Lacking.denied (h0 : Lacking origin id h) (hr : denies r.failures = true)
    (hseeks : origin.Seeks id r.switch) :
    (h.request r).1 = false ∧ Lacking origin id (h.request r).2 := by
  obtain ⟨b, hi, rfl, hnew⟩ := hseeks
  rw [← h0.switches] at hi
  obtain ⟨log, h', hensure, hbegun⟩ :=
    ensureControl_of_denied (h := { h with failures := r.failures }) hr hi hnew h0.missing
  have helements : h'.elements = h.elements := hbegun.elements_eq
  obtain ⟨made, trace, rfl, hmade⟩ := hbegun
  rw [request, hensure]
  refine ⟨rfl, helements.trans h0.elements, h0.switches, ?_⟩
  exact byId?_none_congr helements h0.missing

theorem Lacking.granted (hid : id ≠ "") (h0 : Lacking origin id h)
    (hr : denies r.failures = false) (hseeks : origin.Seeks id r.switch) :
    (h.request r).1 = true ∧ (h.request r).2.controlOf r.switch = some h.nodes.length ∧
      Supplied origin id h.nodes.length (h.request r).2 := by
  obtain ⟨b, hi, rfl, hnew⟩ := hseeks
  have hi' : h.switches[r.switch]? = some b := by
    rw [h0.switches]
    exact hi
  obtain ⟨trace, hensure⟩ := ensureControl_of_granted (h := { h with failures := r.failures })
    hr hi' hnew h0.missing
  rw [request, hensure]
  refine ⟨rfl, ?_, ?_, ?_, ?_⟩
  · simp [controlOf, hi']
  · rw [← h0.elements]
    exact elements_append (h := h) (l := [newControl b.settings.toggleId]) rfl
  · exact byId?_append rfl hid h0.missing rfl (id?_newControl hid)
  · rintro i ⟨b', hb', hname, hnew'⟩
    rw [← h0.switches] at hb'
    simp only [List.getElem?_modify, hb']
    by_cases hir : r.switch = i
    · exact ⟨_, rfl, by simp [hir, hname], by simp [hir]⟩
    · exact ⟨_, rfl, by simp [hir, hname], by simp [hir, hnew']⟩

theorem Supplied.again (h0 : Supplied origin id c h) (hseeks : origin.Seeks id r.switch) :
    (h.request r).1 = false ∧ (h.request r).2.elements = h.elements ∧
      (h.request r).2.controlOf r.switch = some c ∧ Supplied origin id c (h.request r).2 := by
  obtain ⟨b, hi, hname, hcontrol⟩ := h0.switches r.switch hseeks
  rcases hcontrol with hnew | hknown
  · have hensure := ensureControl_of_found (h := { h with failures := r.failures }) hi hnew
      (by rw [hname]; exact h0.found)
    rw [request, hensure]
    refine ⟨rfl, rfl, by simp [controlOf, hi], h0.elements, h0.found, ?_⟩
    intro i hseeks'
    obtain ⟨b', hb', hname', hcontrol'⟩ := h0.switches i hseeks'
    simp only [List.getElem?_modify, hb']
    by_cases hir : r.switch = i
    · exact ⟨_, rfl, by simp [hir, hname'], by simp [hir]⟩
    · exact ⟨_, rfl, by simp [hir, hname'], by simpa [hir] using hcontrol'⟩
  · have hensure := ensureControl_of_known (h := { h with failures := r.failures }) hi hknown
    rw [request, hensure]
    exact ⟨rfl, rfl, by simp [controlOf, hi, hknown], h0.elements, h0.found, h0.switches⟩

theorem lacking_requests (h0 : Lacking origin id h) {rs : List ControlRequest}
    (hseeks : ∀ r ∈ rs, origin.Seeks id r.switch) (hdenied : ∀ r ∈ rs, denies r.failures = true) :
    Lacking origin id (h.requests rs) := by
  induction rs generalizing h with
  | nil => exact h0
  | cons r rest ih =>
    obtain ⟨hr, hrest⟩ := List.forall_mem_cons.mp hdenied
    obtain ⟨hseek, hseeks'⟩ := List.forall_mem_cons.mp hseeks
    exact ih (h0.denied hr hseek).2 hseeks' hrest

theorem Supplied.requests (h0 : Supplied origin id c h) {rs : List ControlRequest}
    (hseeks : ∀ r ∈ rs, origin.Seeks id r.switch) : Supplied origin id c (h.requests rs) := by
  induction rs generalizing h with
  | nil => exact h0
  | cons r rest ih =>
    obtain ⟨hseek, hseeks'⟩ := List.forall_mem_cons.mp hseeks
    exact ih (h0.again hseek).2.2.2 hseeks'

/-- The first request that is granted supplies every later one. -/
theorem supplied_requests (hid : id ≠ "") (h0 : Lacking origin id h) {rs : List ControlRequest}
    (hseeks : ∀ r ∈ rs, origin.Seeks id r.switch) (hgranted : ∃ r ∈ rs, denies r.failures = false) :
    ∃ c, Supplied origin id c (h.requests rs) := by
  induction rs generalizing h with
  | nil =>
    obtain ⟨r, hr, -⟩ := hgranted
    cases hr
  | cons r rest ih =>
    obtain ⟨hseek, hseeks'⟩ := List.forall_mem_cons.mp hseeks
    by_cases hr : denies r.failures = true
    · have hgranted' : ∃ r ∈ rest, denies r.failures = false := by
        simpa [hr] using hgranted
      exact ih (h0.denied hr hseek).2 hseeks' hgranted'
    · obtain ⟨-, -, hsupplied⟩ := h0.granted hid (by simpa using hr) hseek
      exact ⟨_, hsupplied.requests hseeks'⟩

end Host

/-! ### A switch without a control -/

namespace Host

variable {s : ThemeSettings} {i : Nat} {origin h h' : Host} {f : Node → Node}

/-- The theme that the marker on the body shows. -/
def shownTheme (s : ThemeSettings) (h : Host) : Theme :=
  Theme.ofDark ((h.nodeAt 0).hasClass s.darkClass)

/-- There is a store, and it takes what is to be kept. -/
structure KeepsThemes (h : Host) : Prop where
  window : h.hasWindow = true
  storage : h.storage.isSome = true
  found : h.failures .localStorage = none
  writes : h.failures .setItem = none

/-- The switch of this number was made on a page like the origin and got no control. -/
structure Bare (s : ThemeSettings) (i : Nat) (origin h : Host) : Prop where
  held : h.switches[i]? = some ⟨s, (HostM.findStore origin).1, none⟩
  failures : h.failures = origin.failures
  missing : h.byId? s.toggleId = none
  body : 0 < h.nodes.length
  storage : h.storage.isSome = origin.storage.isSome

namespace Bare

theorem congr (h0 : Bare s i origin h) (hswitches : h'.switches = h.switches)
    (hfailures : h'.failures = h.failures) (hnodes : h'.nodes = h.nodes)
    (hstorage : h'.storage.isSome = h.storage.isSome) : Bare s i origin h' where
  held := by rw [hswitches, h0.held]
  failures := hfailures.trans h0.failures
  missing := by rw [byId?, hnodes]; exact h0.missing
  body := by rw [hnodes]; exact h0.body
  storage := hstorage.trans h0.storage

theorem edit (h0 : Bare s i origin h) {j : NodeId} (hf : ∀ n, Node.SamePlace n (f n)) :
    Bare s i origin (h.edit j f) where
  held := h0.held
  failures := h0.failures
  missing := (byId?_edit hf).trans h0.missing
  body := by rw [length_edit]; exact h0.body
  storage := h0.storage

end Bare

end Host

namespace HostM

open Host

variable {s : ThemeSettings} {i : Nat} {origin h : Host} {b : BodySwitch}

theorem keeps_bare_record (call : Call) : Keeps (Bare s i origin) (record call) :=
  fun _ h0 => h0.congr rfl rfl rfl rfl

theorem keeps_bare_say (level : Log.Level) (text : String) :
    Keeps (Bare s i origin) (say level text) := by
  intro h h0
  obtain ⟨log, hlog⟩ := say_eq (h := h) level text
  rw [hlog]
  exact h0.congr rfl rfl rfl rfl

/-- As long as no control can be made, nothing that a switch does changes that it has none. -/
theorem bare_safe (hdenied : denies origin.failures = true) :
    (surface i).Safe (Bare s i origin) where
  read key := by
    refine Keeps.bind (fun _ h0 => h0) fun b => ?_
    split
    · have hget : Keeps (Bare s i origin) (getItem key) := (keeps_bare_record _).bind fun _ =>
        Keeps.attempt (keeps_get.bind fun _ => keeps_pure _)
      exact hget.bind fun _ => keeps_pure _
    · exact keeps_pure _
  write key value := by
    refine Keeps.bind (fun _ h0 => h0) fun b => ?_
    split
    · have hset : Keeps (Bare s i origin) (setItem key value) := (keeps_bare_record _).bind fun _ =>
        Keeps.attempt (Keeps.bind
          (keeps_modify fun _ h0 => h0.congr rfl rfl rfl Option.isSome_map) fun _ => keeps_pure _)
      exact hset.bind fun _ => keeps_pure _
    · exact keeps_pure _
  isDark := fun _ h0 => h0
  setDark dark := by
    refine Keeps.bind (fun _ h0 => h0) fun b => ?_
    have hput : Keeps (Bare s i origin) (putClass 0 b.settings.darkClass dark) := by
      refine Keeps.attempt ?_
      split
      · exact keeps_pure _
      · exact (keeps_bare_record _).bind fun _ => Keeps.bind
          (fun _ h0 => h0.edit fun n => n.samePlace_putClass) fun _ => keeps_pure _
    refine hput.bind fun answer => ?_
    split
    · exact keeps_pure _
    · exact keeps_bare_say _ _
  ensureControl := by
    intro h h0
    obtain ⟨log, h', hensure, made, trace, rfl, hmade⟩ :=
      ensureControl_of_denied (by rw [h0.failures, hdenied]) h0.held rfl h0.missing
    have hbegun : Begins h { h with nodes := h.nodes ++ made, trace } :=
      ⟨made, trace, rfl, hmade⟩
    show Bare s i origin (ensureControl i h).2
    rw [hensure]
    refine ⟨h0.held, h0.failures, byId?_none_congr hbegun.elements_eq h0.missing, ?_, h0.storage⟩
    exact Nat.lt_of_lt_of_le h0.body (by simp)
  renderControl o := by
    intro h h0
    show Bare s i origin (renderControl i o h).2
    unfold renderControl
    rw [bind_apply, switch_eq h0.held]
    exact h0
  say := keeps_bare_say

theorem makeSwitch_bare (hbody : h.body?.isSome = true) (hnone : h.byId? s.toggleId = none) :
    (makeSwitch s h).1 = h.switches.length ∧
      Bare s h.switches.length h (makeSwitch s h).2 := by
  have hlength : 0 < h.nodes.length := by
    obtain ⟨k, hk⟩ := Option.isSome_iff_exists.mp hbody
    exact length_pos_of_body? hk
  have hfind : findStore h = ((findStore h).1, h) := by
    unfold findStore
    rw [bind_apply, get_apply]
    cases h.failures .localStorage <;> rfl
  have hadd : ∀ log, Bare s h.switches.length h { h with
      log, switches := h.switches ++ [⟨s, (findStore h).1, none⟩] } := fun log =>
    ⟨List.getElem?_concat_length, rfl, hnone, hlength, rfl⟩
  unfold makeSwitch
  rw [bind_apply, hfind]
  dsimp only
  split
  · obtain ⟨log, hlog⟩ := say_eq (h := h) .warn
      "localStorage unavailable; theme changes will not persist"
    rw [bind_apply, hlog]
    exact ⟨rfl, hadd log⟩
  · exact ⟨rfl, hadd h.log⟩

/-- Wiring answers a switch even if no control can be made. -/
theorem wireTheme_bare (hbody : h.body?.isSome = true) (hnone : h.byId? s.toggleId = none)
    (hdenied : denies h.failures = true) :
    (wireTheme s h).1 = some h.switches.length ∧
      Bare s h.switches.length h (wireTheme s h).2 := by
  obtain ⟨hnumber, hmade⟩ := makeSwitch_bare hbody hnone
  have hstarted : Keeps (Bare s h.switches.length h)
      (operate Surface.start h.switches.length) :=
    Keeps.bind (fun _ h0 => h0) fun b => (bare_safe hdenied).start b.settings
  have hbound : ∀ h', Bare s h.switches.length h h' →
      bindControl h.switches.length h' = ((), h') := by
    intro h' h0
    unfold bindControl
    rw [bind_apply, switch_eq h0.held]
    rfl
  obtain ⟨k, hk⟩ := Option.isSome_iff_exists.mp hbody
  unfold wireTheme
  rw [bind_apply, get_apply, hk]
  dsimp only
  rw [bind_apply, hnumber, bind_apply, bind_apply, hbound _ (hstarted _ hmade)]
  exact ⟨rfl, hstarted _ hmade⟩

/-- A theme is kept or not, and the page is as before. -/
theorem exists_save_eq (hi : h.switches[i]? = some b) (t : Theme) :
    ∃ storage trace log, (surface i).save s t h = ((), { h with storage, trace, log }) ∧
      (b.hasStore = true → h.failures .setItem = none →
        storage = h.storage.map fun entries => entries.insert s.storageKey t.text) := by
  unfold Surface.save
  rw [bind_apply]
  cases hstore : b.hasStore with
  | false =>
    obtain ⟨log, hlog⟩ := say_eq (h := h) .warn
      ("theme preference not saved: " ++ StorageFault.unavailable.message)
    refine ⟨h.storage, h.trace, log, ?_, nofun⟩
    rw [write_unavailable hi hstore]
    exact hlog
  | true =>
    rw [write_of_store hi hstore]
    cases hworks : h.failures .setItem with
    | none =>
      rw [setItem_of_works hworks]
      exact ⟨_, _, h.log, rfl, fun _ _ => rfl⟩
    | some thrown =>
      have hset : setItem s.storageKey t.text h =
          (.error thrown, h.noted (.setItem s.storageKey t.text)) :=
        attempt_of_fails (h := h.noted (.setItem s.storageKey t.text)) hworks _
      obtain ⟨log, hlog⟩ := say_eq (h := h.noted (.setItem s.storageKey t.text)) .warn
        ("theme preference not saved: " ++
          (StorageFault.refused .write s.storageKey thrown.reason).message)
      refine ⟨h.storage, h.trace ++ [.setItem s.storageKey t.text], log, ?_, nofun⟩
      rw [hset]
      exact hlog

/-- A flip turns the marker, and the theme is kept if there is a store for it. -/
theorem flipTheme_bare (h0 : Bare s i origin h) (hclass : origin.failures .classList = none)
    (hdark : Node.IsToken s.darkClass) :
    (flipTheme i h).1 = (h.shownTheme s).opposite ∧
      (flipTheme i h).2.shownTheme s = (h.shownTheme s).opposite ∧
      (origin.KeepsThemes → ((flipTheme i h).2.storage.bind fun entries =>
        entries.get? s.storageKey) = some (h.shownTheme s).opposite.text) := by
  obtain ⟨next, hnext⟩ : ∃ next, next = (h.shownTheme s).opposite := ⟨_, rfl⟩
  obtain ⟨h1, hmark, hh1⟩ : ∃ h1, (surface i).setDark next.isDark h = ((), h1) ∧
      h1 = (h.noted (if next.isDark then .addClass 0 s.darkClass
        else .removeClass 0 s.darkClass)).edit 0 fun n => n.putClass s.darkClass next.isDark :=
    ⟨_, setDark_of_classList (by rw [h0.failures, hclass]) h0.held hdark _, rfl⟩
  have hi1 : h1.switches[i]? = some ⟨s, (findStore origin).1, none⟩ := by
    rw [hh1]
    exact h0.held
  have hdraw : (surface i).renderControl next.offer h1 = ((), h1) := by
    show renderControl i next.offer h1 = _
    unfold renderControl
    rw [bind_apply, switch_eq hi1]
    rfl
  obtain ⟨storage, trace, log, hsave, hkept⟩ := exists_save_eq (s := s) hi1 next
  have hflip : flipTheme i h = (next, { h1 with storage, trace, log }) := by
    unfold flipTheme operate
    rw [bind_apply, switch_eq h0.held]
    show Surface.flip (surface i) s h = _
    unfold Surface.flip
    rw [bind_apply, shown_eq h0.held]
    show (do
      (surface i).setDark (h.shownTheme s).opposite.isDark
      (surface i).renderControl (h.shownTheme s).opposite.offer
      (surface i).save s (h.shownTheme s).opposite
      return (h.shownTheme s).opposite : HostM Theme) h = _
    rw [← hnext, bind_apply, hmark, bind_apply, hdraw, bind_apply, hsave]
    rfl
  rw [hflip, ← hnext]
  refine ⟨rfl, ?_, fun hkeeps => ?_⟩
  · have hmarked : (h1.nodeAt 0).hasClass s.darkClass = next.isDark := by
      rw [hh1, nodeAt_edit_self (show 0 < (h.noted _).nodes.length from h0.body),
        Node.hasClass_putClass hdark, if_pos rfl]
    show Theme.ofDark ((h1.nodeAt 0).hasClass s.darkClass) = next
    rw [hmarked, Theme.ofDark_isDark]
  · have hfound : (findStore origin).1 = true := by
      rw [findStore_of_works hkeeps.found, hkeeps.window, hkeeps.storage]
      rfl
    have hwrites : h1.failures .setItem = none := by
      rw [hh1]
      show h.failures .setItem = none
      rw [h0.failures, hkeeps.writes]
    obtain ⟨entries, hentries⟩ : ∃ entries, h1.storage = some entries := by
      rw [← Option.isSome_iff_exists, hh1]
      show h.storage.isSome = true
      rw [h0.storage, hkeeps.storage]
    show (storage.bind fun entries => entries.get? s.storageKey) = _
    rw [hkept hfound hwrites, hentries, Option.map_some, Option.bind_some,
      Table.get?_insert_self]

end HostM

/-! ### The account -/

namespace Host

open HostM

/-- The host after some flips of a switch. -/
def flips (i : Nat) : Nat → Host → Host
  | 0, h => h
  | n + 1, h => (flipTheme i (flips i n h)).2

theorem bare_flips {s : ThemeSettings} {i : Nat} {origin h : Host}
    (hdenied : denies origin.failures = true) (h0 : Bare s i origin h) (n : Nat) :
    Bare s i origin (h.flips i n) := by
  have hflip : Keeps (Bare s i origin) (flipTheme i) :=
    Keeps.bind (fun _ h0 => h0) fun b => (bare_safe hdenied).flip b.settings
  induction n with
  | zero => exact h0
  | succ n ih => exact hflip _ ih

/-- **A control that could not be made leaves nothing behind, and is made the next time.**
    On a page without an element of the toggle's id, let any number of requests for the
    control be made through switches that have none, and let some calls fail during each.
    While all are denied, a denied one answers no, leaves on the page what was there, and its
    switch has no control; the first one that is granted answers yes and adds one button of
    the toggle's id, which its switch knows; and after that every request answers no, adds
    nothing, and finds that button.  And where the control is denied while a page with a body
    is wired, there is a switch all the same: each of its flips turns the marker, and keeps
    the theme if there is a store. -/
theorem request_retried (s : ThemeSettings) (named : s.toggleId ≠ "") (h : Host)
    (missing : h.byId? s.toggleId = none) :
    (∀ (earlier : List ControlRequest) (r : ControlRequest),
      (∀ q ∈ r :: earlier, h.Seeks s.toggleId q.switch) →
      let now := h.requests earlier
      let made := (now.request r).1
      let next := (now.request r).2
      let supplied := h.elements ++ [newControl s.toggleId]
      ((∀ q ∈ earlier, denies q.failures = true) →
        (denies r.failures = true →
          made = false ∧ next.elements = h.elements ∧ next.controlOf r.switch = none) ∧
        (denies r.failures = false → made = true ∧ next.elements = supplied ∧
          ∃ c, next.controlOf r.switch = some c ∧ next.byId? s.toggleId = some c)) ∧
      ((∃ q ∈ earlier, denies q.failures = false) →
        made = false ∧ now.elements = supplied ∧ next.elements = supplied ∧
          ∃ c, next.controlOf r.switch = some c ∧ next.byId? s.toggleId = some c)) ∧
    (h.body?.isSome = true → denies h.failures = true → h.failures .classList = none →
      Node.IsToken s.darkClass →
      ∃ i wired, wireTheme s h = (some i, wired) ∧ wired.controlOf i = none ∧
        ∀ n, let now := wired.flips i n
          (flipTheme i now).1 = (now.shownTheme s).opposite ∧
          (wired.flips i (n + 1)).shownTheme s = (now.shownTheme s).opposite ∧
          (h.KeepsThemes → ((wired.flips i (n + 1)).storage.bind fun entries =>
            entries.get? s.storageKey) = some (now.shownTheme s).opposite.text)) := by
  constructor
  · intro earlier r hseeks
    obtain ⟨hseek, hseeks⟩ := List.forall_mem_cons.mp hseeks
    have horigin : Lacking h s.toggleId h := ⟨rfl, rfl, missing⟩
    refine ⟨fun hdenied => ?_, fun hgranted => ?_⟩
    · have hlacking : Lacking h s.toggleId (h.requests earlier) :=
        lacking_requests horigin hseeks hdenied
      constructor
      · intro hr
        obtain ⟨hmade, hlacking'⟩ := hlacking.denied hr hseek
        obtain ⟨b, hi, -, hnew⟩ := hseek
        refine ⟨hmade, hlacking'.elements, ?_⟩
        rw [controlOf, hlacking'.switches, hi, Option.bind_some, hnew]
      · intro hr
        obtain ⟨hmade, hknown, hsupplied⟩ := hlacking.granted named hr hseek
        exact ⟨hmade, hsupplied.elements, _, hknown, hsupplied.found⟩
    · obtain ⟨c, hsupplied⟩ := supplied_requests named horigin hseeks hgranted
      obtain ⟨hmade, helements, hknown, hsupplied'⟩ := hsupplied.again hseek
      exact ⟨hmade, hsupplied.elements, hsupplied'.elements, c, hknown, hsupplied'.found⟩
  · intro hbody hdenied hclass hdark
    obtain ⟨hnumber, hbare⟩ := wireTheme_bare hbody missing hdenied
    refine ⟨h.switches.length, (wireTheme s h).2, Prod.ext hnumber rfl, ?_, fun n => ?_⟩
    · rw [controlOf, hbare.held]
      rfl
    · exact flipTheme_bare (bare_flips hdenied hbare n) hclass hdark

/-- Two switches over one body: the button is denied to each once, at the first call and at the
    last, and then made; and a third switch is wired while types cannot be set. -/
theorem request_retried_two_switches :
    let fails (call : Failable) : Failable → Option Thrown :=
      fun c => if c = call then some (.text "refused") else none
    let page : Host :=
      { nodes := [{ tag := "body" }], switches := [⟨{}, true, none⟩, ⟨{}, true, none⟩]
        failures := fails .setAttribute }
    let now := page.requests [⟨0, fails .createElement⟩, ⟨1, fails .appendChild⟩]
    let next := (now.request ⟨1, fun _ => none⟩).2
    (page.byId? "dark-mode-toggle" = none ∧ page.Seeks "dark-mode-toggle" 0 ∧
      page.Seeks "dark-mode-toggle" 1 ∧ page.body?.isSome = true ∧ page.KeepsThemes) ∧
      (now.request ⟨1, fun _ => none⟩).1 = true ∧
      next.elements = [{ tag := "body" }, newControl "dark-mode-toggle"] ∧
      ∃ i wired, wireTheme {} page = (some i, wired) ∧
        (wired.flips i 1).shownTheme {} = .dark ∧
        ((wired.flips i 1).storage.bind fun entries => entries.get? "theme") = some "dark" := by
  intro fails page now next
  have hmissing : page.byId? "dark-mode-toggle" = none := by decide +kernel
  have hseeks0 : page.Seeks "dark-mode-toggle" 0 := ⟨_, rfl, rfl, rfl⟩
  have hseeks1 : page.Seeks "dark-mode-toggle" 1 := ⟨_, rfl, rfl, rfl⟩
  have hbody : page.body?.isSome = true := by decide +kernel
  have hkeeps : page.KeepsThemes := ⟨rfl, rfl, rfl, rfl⟩
  have hdark : Node.IsToken ({} : ThemeSettings).darkClass :=
    Node.isToken_of_any (by decide) (by decide)
  obtain ⟨hrequests, hwired⟩ := request_retried {} (by decide) page hmissing
  obtain ⟨hlacking, -⟩ := hrequests [⟨0, fails .createElement⟩, ⟨1, fails .appendChild⟩]
    ⟨1, fun _ => none⟩ (by simpa using ⟨hseeks1, hseeks0, hseeks1⟩)
  obtain ⟨-, hgranted⟩ := hlacking (by decide)
  obtain ⟨hmade, helements, -⟩ := hgranted (by decide)
  obtain ⟨i, wired, hwire, -, hflips⟩ := hwired hbody (by decide) rfl hdark
  obtain ⟨-, hmarked, hstored⟩ := hflips 0
  have hlight : (wired.flips i 0).shownTheme {} = .light := by
    obtain rfl : (wireTheme {} page).2 = wired := congrArg Prod.snd hwire
    have hfirst : (wireTheme {} page).2.shownTheme {} = .light := by decide +kernel
    exact hfirst
  refine ⟨⟨hmissing, hseeks0, hseeks1, hbody, hkeeps⟩, hmade, helements, i, wired, hwire, ?_, ?_⟩
  · rw [hmarked, hlight]
    rfl
  · rw [hstored hkeeps, hlight]
    rfl

end Host

end Enhance
