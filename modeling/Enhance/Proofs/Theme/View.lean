/-
  Enhance/Proofs/Theme/View.lean
  ==============================
  **What can be seen of a switch, and how each use of it changes that.**

  A `ThemeView` is all that a visitor and the store see of a switch.  Starting
  and flipping are functions of it, and every surface whose operations follow
  the view operation by operation follows them (`Realizes.start`,
  `Realizes.flip`).  The bench is such a surface.
-/
import Enhance.Proofs.Theme.Bench

namespace Enhance

/-- The marker, the control and what stands on it, how many controls were made,
    and the stored entry. -/
structure ThemeView where
  dark : Bool
  hasControl : Bool
  created : Nat
  html : Option String
  label : Option String
  title : Option String
  stored : Option String
deriving DecidableEq

namespace ThemeView

/-- The control is there, made now if it was not. -/
def provide (v : ThemeView) : ThemeView :=
  { v with hasControl := true, created := if v.hasControl then v.created else v.created + 1 }

/-- An offer is drawn on the control. -/
def draw (v : ThemeView) (o : Offer) : ThemeView :=
  { v with html := some o.html, label := some o.label, title := some o.label }

/-- The theme that a flip turns to. -/
def turned (v : ThemeView) : Theme := (Theme.ofDark v.dark).opposite

/-- The view after a start. -/
def start (s : ThemeSettings) (v : ThemeView) : ThemeView :=
  let theme := s.settled (.ok v.stored)
  { v.provide.draw theme.offer with dark := theme.isDark }

/-- The view after a flip. -/
def flip (v : ThemeView) : ThemeView :=
  { v.draw v.turned.offer with dark := v.turned.isDark, stored := some v.turned.text }

/-- Nothing drawn before a start is left after it. -/
theorem start_congr {s : ThemeSettings} {v v' : ThemeView} (hcontrol : v.hasControl = v'.hasControl)
    (hcreated : v.created = v'.created) (hstored : v.stored = v'.stored) :
    v.start s = v'.start s := by
  simp only [start, provide, draw, hcontrol, hcreated, hstored]

/-- A second start shows what the first one does. -/
theorem start_start (s : ThemeSettings) (v : ThemeView) : (v.start s).start s = v.start s := rfl

/-- A start after a flip shows what the flip does. -/
theorem start_flip (s : ThemeSettings) {v : ThemeView} (hcontrol : v.hasControl = true) :
    v.flip.start s = v.flip := by
  have hsettled : s.settled (.ok (some v.turned.text)) = v.turned := by
    simp [ThemeSettings.settled]
  simp only [start, flip, provide, draw, hcontrol, hsettled, if_true]

end ThemeView

/-! ### Surfaces that follow the view -/

namespace Surface

variable {ω : Type}

/-- The operations of a surface follow the view: before the control was asked
    for a state `Opens` a view, and after it `Shows` one.  The store answers
    under this key. -/
structure Realizes (s : Surface ω) (key : String) (Opens Shows : ThemeView → ω → Prop) : Prop where
  read : ∀ {v w}, Opens v w → (s.read key w).1 = .ok v.stored ∧ Opens v (s.read key w).2
  remark : ∀ {v w} level text, Opens v w → Opens v (s.say level text w).2
  provide : ∀ {v w}, Opens v w →
    (s.ensureControl w).1 = !v.hasControl ∧ Shows v.provide (s.ensureControl w).2
  isDark : ∀ {v w}, Shows v w → (s.isDark w).1 = v.dark ∧ Shows v (s.isDark w).2
  setDark : ∀ {v w} dark, Shows v w → Shows { v with dark } (s.setDark dark w).2
  draw : ∀ {v w} o, Shows v w → Shows (v.draw o) (s.renderControl o w).2
  write : ∀ {v w} value, Shows v w →
    (s.write key value w).1 = .ok () ∧ Shows { v with stored := some value } (s.write key value w).2
  say : ∀ {v w} level text, Shows v w → Shows v (s.say level text w).2

namespace Realizes

variable {s : Surface ω} {settings : ThemeSettings} {Opens Shows : ThemeView → ω → Prop}
  {v : ThemeView} {w : ω}

theorem settle (hs : s.Realizes settings.storageKey Opens Shows) (h : Opens v w)
    (stored : Option String) :
    (s.settle settings (.ok stored) w).1 = settings.settled (.ok stored) ∧
      Opens v (s.settle settings (.ok stored) w).2 := by
  cases stored with
  | none => exact ⟨rfl, h⟩
  | some raw =>
    rw [Surface.settle]
    cases hraw : Theme.ofText? raw with
    | none =>
      refine ⟨?_, hs.remark _ _ h⟩
      simp [ThemeSettings.settled, hraw]
    | some t =>
      refine ⟨?_, h⟩
      simp [ThemeSettings.settled, hraw]

theorem preference (hs : s.Realizes settings.storageKey Opens Shows) (h : Opens v w) :
    (s.preference settings w).1 = settings.settled (.ok v.stored) ∧
      Opens v (s.preference settings w).2 := by
  obtain ⟨hanswer, hread⟩ := hs.read h
  unfold Surface.preference
  rw [bind_apply, hanswer]
  exact hs.settle hread v.stored

/-- A start shows what the view says. -/
theorem start (hs : s.Realizes settings.storageKey Opens Shows) (h : Opens v w) :
    (s.start settings w).1 = settings.settled (.ok v.stored) ∧
      Shows (v.start settings) (s.start settings w).2 := by
  obtain ⟨htheme, hpreference⟩ := hs.preference h
  obtain ⟨hmade, hprovide⟩ := hs.provide hpreference
  have hshow : ∀ {w'} text, Shows v.provide w' →
      Shows (v.start settings) (s.say .info text (s.setDark (settings.settled (.ok v.stored)).isDark
        (s.renderControl (settings.settled (.ok v.stored)).offer w').2).2).2 :=
    fun _ h => hs.say _ _ (hs.setDark _ (hs.draw _ h))
  unfold Surface.start
  simp only [bind_apply]
  rw [htheme]
  -- a remark is made if the control was
  split
  · exact ⟨rfl, hshow _ (hs.say _ _ hprovide)⟩
  · exact ⟨rfl, hshow _ hprovide⟩

theorem save (hs : s.Realizes settings.storageKey Opens Shows) (h : Shows v w) (t : Theme) :
    Shows { v with stored := some t.text } (s.save settings t w).2 := by
  obtain ⟨hanswer, hwrite⟩ := hs.write t.text h
  unfold Surface.save
  rw [bind_apply, hanswer]
  exact hwrite

/-- A flip shows what the view says. -/
theorem flip (hs : s.Realizes settings.storageKey Opens Shows) (h : Shows v w) :
    (s.flip settings w).1 = v.turned ∧ Shows v.flip (s.flip settings w).2 := by
  obtain ⟨hanswer, hdark⟩ := hs.isDark h
  have hshown : s.shown w = (Theme.ofDark v.dark, (s.isDark w).2) := by
    unfold Surface.shown
    rw [bind_apply, hanswer]
    rfl
  unfold Surface.flip
  simp only [bind_apply, pure_apply, hshown]
  exact ⟨rfl, hs.save (hs.draw _ (hs.setDark _ hdark)) v.turned⟩

end Realizes

/-- Every operation of a surface keeps a property of its states. -/
structure Safe (s : Surface ω) (P : ω → Prop) : Prop where
  read : ∀ key, Keeps P (s.read key)
  write : ∀ key value, Keeps P (s.write key value)
  isDark : Keeps P s.isDark
  setDark : ∀ dark, Keeps P (s.setDark dark)
  ensureControl : Keeps P s.ensureControl
  renderControl : ∀ o, Keeps P (s.renderControl o)
  say : ∀ level text, Keeps P (s.say level text)

namespace Safe

variable {s : Surface ω} {P : ω → Prop}

theorem settle (hs : s.Safe P) (settings : ThemeSettings)
    (answer : Except StorageFault (Option String)) : Keeps P (s.settle settings answer) := by
  rcases answer with fault | _ | raw
  · exact (hs.say _ _).bind fun _ => keeps_pure _
  · exact keeps_pure _
  · rw [Surface.settle]
    split
    · exact keeps_pure _
    · exact (hs.say _ _).bind fun _ => keeps_pure _

theorem start (hs : s.Safe P) (settings : ThemeSettings) : Keeps P (s.start settings) := by
  refine ((hs.read _).bind fun _ => hs.settle _ _).bind fun theme => ?_
  have hshow : Keeps P (do
      s.renderControl theme.offer
      s.setDark theme.isDark
      s.say .info ("theme initialized: " ++ theme.text)
      return theme) :=
    (hs.renderControl _).bind fun _ => (hs.setDark _).bind fun _ =>
      (hs.say _ _).bind fun _ => keeps_pure _
  refine hs.ensureControl.bind ?_
  intro made
  cases made with
  | true => exact (hs.say _ _).bind fun _ => hshow
  | false => exact hshow

theorem flip (hs : s.Safe P) (settings : ThemeSettings) : Keeps P (s.flip settings) := by
  have hsave : ∀ t, Keeps P (s.save settings t) := by
    intro t
    refine (hs.write _ _).bind ?_
    intro answer
    split
    · exact keeps_pure _
    · exact hs.say _ _
  refine (hs.isDark.bind fun _ => keeps_pure _).bind fun shown => ?_
  exact (hs.setDark _).bind fun _ => (hs.renderControl _).bind fun _ =>
    (hsave _).bind fun _ => keeps_pure _

end Safe

/-- Two surfaces that answer alike in states that belong together, and lead to such states. -/
structure Twin {υ : Type} (s : Surface ω) (s' : Surface υ) (Q : ω → υ → Prop) : Prop where
  read : ∀ key, Matches Eq Q (s.read key) (s'.read key)
  write : ∀ key value, Matches Eq Q (s.write key value) (s'.write key value)
  isDark : Matches Eq Q s.isDark s'.isDark
  setDark : ∀ dark, Matches Eq Q (s.setDark dark) (s'.setDark dark)
  ensureControl : Matches Eq Q s.ensureControl s'.ensureControl
  renderControl : ∀ o, Matches Eq Q (s.renderControl o) (s'.renderControl o)
  say : ∀ level text, Matches Eq Q (s.say level text) (s'.say level text)

namespace Twin

variable {υ : Type} {s : Surface ω} {s' : Surface υ} {Q : ω → υ → Prop}

theorem settle (hs : s.Twin s' Q) (settings : ThemeSettings)
    (answer : Except StorageFault (Option String)) :
    Matches Eq Q (s.settle settings answer) (s'.settle settings answer) := by
  rcases answer with fault | _ | raw
  · exact (hs.say _ _).then fun _ => matches_pure rfl
  · exact matches_pure rfl
  · rw [Surface.settle, Surface.settle]
    cases Theme.ofText? raw with
    | some t => exact matches_pure rfl
    | none => exact (hs.say _ _).then fun _ => matches_pure rfl

theorem start (hs : s.Twin s' Q) (settings : ThemeSettings) :
    Matches Eq Q (s.start settings) (s'.start settings) := by
  refine ((hs.read _).then fun _ => hs.settle _ _).then fun theme => ?_
  have hshow : Matches Eq Q
      (do
        s.renderControl theme.offer
        s.setDark theme.isDark
        s.say .info ("theme initialized: " ++ theme.text)
        return theme)
      (do
        s'.renderControl theme.offer
        s'.setDark theme.isDark
        s'.say .info ("theme initialized: " ++ theme.text)
        return theme) :=
    (hs.renderControl _).then fun _ => (hs.setDark _).then fun _ =>
      (hs.say _ _).then fun _ => matches_pure rfl
  refine hs.ensureControl.then ?_
  intro made
  cases made with
  | true => exact (hs.say _ _).then fun _ => hshow
  | false => exact hshow

theorem flip (hs : s.Twin s' Q) (settings : ThemeSettings) :
    Matches Eq Q (s.flip settings) (s'.flip settings) := by
  have hsave : ∀ t, Matches Eq Q (s.save settings t) (s'.save settings t) := by
    intro t
    refine (hs.write _ _).then ?_
    intro answer
    cases answer with
    | ok u => exact matches_pure rfl
    | error fault => exact hs.say _ _
  refine (hs.isDark.then fun _ => matches_pure rfl).then fun shown => ?_
  exact (hs.setDark _).then fun _ => (hs.renderControl _).then fun _ =>
    (hsave _).then fun _ => matches_pure rfl

end Twin

end Surface

/-! ### The bench -/

namespace Bench

/-- What can be seen of a switch on a bench that keeps its preference under this
    key. -/
def themeView (key : String) (b : Bench MemoryStorage) : ThemeView where
  dark := b.page.dark
  hasControl := b.page.hasControl
  created := b.page.controlsCreated
  html := b.page.control.map Offer.html
  label := b.page.control.map Offer.label
  title := b.page.control.map Offer.label
  stored := b.store.get? key

/-- A bench that refuses nothing, seen like this. -/
structure Opens (key : String) (v : ThemeView) (b : Bench MemoryStorage) : Prop where
  reads : b.store.refusesReads = false
  writes : b.store.refusesWrites = false
  controls : b.refusesControl = false
  view : b.themeView key = v

/-- The same, with a control. -/
def Shows (key : String) (v : ThemeView) (b : Bench MemoryStorage) : Prop :=
  Opens key v b ∧ v.hasControl = true

theorem realizes (key : String) :
    (surface : Surface (Bench MemoryStorage)).Realizes key (Opens key) (Shows key) where
  read := by
    rintro v b ⟨hreads, hwrites, hcontrols, rfl⟩
    refine ⟨?_, hreads, hwrites, hcontrols, rfl⟩
    show b.store.read key = _
    rw [MemoryStorage.read, if_neg (by simp [hreads])]
    rfl
  remark := by
    rintro v b level text ⟨hreads, hwrites, hcontrols, rfl⟩
    exact ⟨hreads, hwrites, hcontrols, rfl⟩
  provide := by
    rintro v b ⟨hreads, hwrites, hcontrols, rfl⟩
    cases hpage : b.page.hasControl <;>
      simp [surface, note, ensureControl, BarePage.ensureControl, Shows, ThemeView.provide,
        themeView, hcontrols, hpage]
    · exact ⟨hreads, hwrites, rfl, rfl⟩
    · exact ⟨hreads, hwrites, rfl, by simp [themeView, hpage]⟩
  isDark := by
    rintro v b ⟨⟨hreads, hwrites, hcontrols, rfl⟩, hcontrol⟩
    exact ⟨rfl, ⟨hreads, hwrites, hcontrols, rfl⟩, hcontrol⟩
  setDark := by
    rintro v b dark ⟨⟨hreads, hwrites, hcontrols, rfl⟩, hcontrol⟩
    exact ⟨⟨hreads, hwrites, hcontrols, rfl⟩, hcontrol⟩
  draw := by
    rintro v b o ⟨⟨hreads, hwrites, hcontrols, rfl⟩, hcontrol⟩
    have hpage : b.page.hasControl = true := hcontrol
    refine ⟨⟨hreads, hwrites, hcontrols, ?_⟩, hcontrol⟩
    simp [surface, note, BarePage.renderControl, themeView, ThemeView.draw, hpage]
  write := by
    rintro v b value ⟨⟨hreads, hwrites, hcontrols, rfl⟩, hcontrol⟩
    have hwrite : b.store.write key value = (.ok (), { b.store with
        entries := b.store.entries.insert key value, writes := b.store.writes + 1 }) := by
      rw [MemoryStorage.write, if_neg (by simp [hwrites])]
    have hanswer : (surface.write key value b).1 = .ok () := congrArg Prod.fst hwrite
    have hstore : (surface.write key value b).2.store = (b.store.write key value).2 := rfl
    refine ⟨hanswer, ⟨?_, ?_, hcontrols, ?_⟩, hcontrol⟩
    · rw [hstore, hwrite]
      exact hreads
    · rw [hstore, hwrite]
      exact hwrites
    · show themeView key { b with store := (b.store.write key value).2, .. } = _
      simp [themeView, MemoryStorage.get?_write_self hwrites]
  say := by
    rintro v b level text ⟨⟨hreads, hwrites, hcontrols, rfl⟩, hcontrol⟩
    exact ⟨⟨hreads, hwrites, hcontrols, rfl⟩, hcontrol⟩

variable {key : String} {v : ThemeView} {b : Bench MemoryStorage} {settings : ThemeSettings}

theorem Opens.act_start (h : b.Opens settings.storageKey v) :
    (act settings .start b).2.Shows settings.storageKey (v.start settings) :=
  ((realizes _).start h).2

theorem Shows.act_flip (h : b.Shows settings.storageKey v) :
    (act settings .flip b).2.Shows settings.storageKey v.flip :=
  ((realizes _).flip h).2

end Bench

end Enhance
