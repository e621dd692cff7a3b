/-
  Enhance/Proofs/Theme/Reload.lean
  ================================
  **A theme outlives the page it was chosen on.**

  Once a switch has started over a store that works, the store would answer
  the theme that the page shows.  A start makes it so without writing: the
  theme comes from the entry, or from the fallback that stands in for an entry
  which is missing or names no theme.  Afterwards only a flip changes either,
  and it changes both.

  `Settled` is this agreement.  A start on a settled page changes nothing
  (`start_of_settled`), and a fresh page over the same store settles on the
  same theme (`settled_reload`), so neither further starts nor any number of
  reloads lose what was shown (`start_stable`).
-/
import Enhance.Proofs.Theme.History
import Enhance.Proofs.Theme.Marker

namespace Enhance.ThemeSession

/-! ### Stores that work -/

/-- No access to the store fails, and the page may have a control. -/
structure Working (s : ThemeSession) : Prop where
  readFault : s.bench.store.readFault = none
  writeFault : s.bench.store.writeFault = none
  reads : s.memory.refusesReads = false
  writes : s.memory.refusesWrites = false
  controls : s.bench.refusesControl = false

/-- The theme that the store asks for. -/
def preferred (s : ThemeSession) : Theme := s.settings.settled (.ok s.stored)

/-- A switch that shows on a control the theme that its store asks for. -/
structure Settled (t : Theme) (s : ThemeSession) : Prop where
  working : s.Working
  preferred : s.preferred = t
  shows : s.bench.page.Shows t
  control : s.bench.page.hasControl = true

variable {s : ThemeSession} {t : Theme}

namespace Working

theorem read_eq (h : s.Working) :
    Storage.read s.settings.storageKey s.bench.store = (.ok s.stored, s.bench.store) := by
  refine Prod.ext ?_ (Guarded.read_store _ _)
  have hread : (Storage.read s.settings.storageKey s.bench.store).1 =
      s.memory.read s.settings.storageKey := by
    simp only [Storage.read, h.readFault]
    rfl
  rw [hread, MemoryStorage.read, if_neg (by simp [h.reads])]
  rfl

theorem write_eq (h : s.Working) (value : String) :
    Storage.write s.settings.storageKey value s.bench.store =
      (.ok (), { s.bench.store with
        store := (s.memory.write s.settings.storageKey value).2 }) := by
  have hwrite : s.memory.write s.settings.storageKey value =
      (.ok (), (s.memory.write s.settings.storageKey value).2) := by
    rw [MemoryStorage.write, if_neg (by simp [h.writes])]
  have hanswer : (Storage.write s.settings.storageKey value s.bench.store) =
      ((s.memory.write s.settings.storageKey value).1, { s.bench.store with
        store := (s.memory.write s.settings.storageKey value).2 }) := by
    simp only [Storage.write, h.writeFault]
    rfl
  rw [hanswer, hwrite]

/-- Nothing but settings, store and the right to a control matters. -/
theorem congr (h : s.Working) {s' : ThemeSession} (hstore : s'.bench.store = s.bench.store)
    (hcontrols : s'.bench.refusesControl = s.bench.refusesControl) : s'.Working := by
  refine ⟨?_, ?_, ?_, ?_, ?_⟩
  · rw [hstore]
    exact h.readFault
  · rw [hstore]
    exact h.writeFault
  · rw [memory, hstore]
    exact h.reads
  · rw [memory, hstore]
    exact h.writes
  · rw [hcontrols]
    exact h.controls

end Working

theorem preferred_congr {s' : ThemeSession} (hsettings : s'.settings = s.settings)
    (hstore : s'.bench.store = s.bench.store) : s'.preferred = s.preferred := by
  unfold preferred stored memory
  rw [hsettings, hstore]

/-- A page with a control, on which the preferred theme was rendered and
    marked, is settled. -/
theorem settled_of_rendered (h : s.Working) (hpreferred : s.preferred = t) {page : BarePage}
    (hcontrol : page.hasControl = true)
    (hpage : s.bench.page = { page.renderControl t.offer with dark := t.isDark }) :
    s.Settled t := by
  refine ⟨h, hpreferred, ?_, ?_⟩
  · rw [hpage]
    refine BarePage.shows_renderControl ?_
    intro hnone
    rw [hcontrol] at hnone
    cases hnone
  · rw [hpage]
    exact (BarePage.hasControl_renderControl _ _).trans hcontrol

/-! ### One use of a switch -/

/-- A start over a working store answers and shows the preferred theme, on a
    control, and leaves the store alone. -/
theorem start_of_working (h : s.Working) :
    (s.step (.act .start)).1 = .theme (some s.preferred) ∧
      (s.step (.act .start)).2.bench.store = s.bench.store ∧
      (s.step (.act .start)).2.bench.page =
        { s.bench.page.ensureControl.2.renderControl s.preferred.offer with
          dark := s.preferred.isDark } ∧
      (s.step (.act .start)).2.Working := by
  have hopened : s.bench.opened = s.bench.page.ensureControl := by
    rw [Bench.opened, if_neg (by simp [h.controls])]
  have hstart : (s.step (.act .start)).1 = .theme (some s.preferred) ∧
      (s.step (.act .start)).2.bench.store = s.bench.store ∧
      (s.step (.act .start)).2.bench.page =
        { s.bench.page.ensureControl.2.renderControl s.preferred.offer with
          dark := s.preferred.isDark } ∧
      (s.step (.act .start)).2.bench.refusesControl = s.bench.refusesControl := by
    simp only [step, Bench.act, bind_apply, Bench.start_eq, pure_apply, h.read_eq, hopened,
      preferred, and_self]
  obtain ⟨hanswer, hstore, hpage, hcontrols⟩ := hstart
  exact ⟨hanswer, hstore, hpage, h.congr hstore hcontrols⟩

/-- Whatever the page was like, a start settles on the preferred theme. -/
theorem settled_start (h : s.Working) : (s.step (.act .start)).2.Settled s.preferred := by
  obtain ⟨-, hstore, hpage, hworking⟩ := start_of_working h
  have hpreferred : (s.step (.act .start)).2.preferred = s.preferred := preferred_congr rfl hstore
  exact settled_of_rendered hworking hpreferred (BarePage.hasControl_ensureControl _) hpage

/-- A start on a settled page changes neither page nor store. -/
theorem start_of_settled (h : s.Settled t) :
    (s.step (.act .start)).2.bench.page = s.bench.page ∧
      (s.step (.act .start)).2.bench.store = s.bench.store := by
  obtain ⟨-, hstore, hpage, -⟩ := start_of_working h.working
  refine ⟨?_, hstore⟩
  have hopened : s.bench.page.ensureControl.2 = s.bench.page := by
    rw [BarePage.ensureControl, if_pos h.control]
  have hdrawn : s.bench.page.renderControl t.offer = s.bench.page := by
    rw [BarePage.renderControl, if_pos h.control, ← h.shows.drawn h.control]
  rw [hpage, h.preferred, hopened, hdrawn, ← h.shows.marker]

/-- A flip settles on the opposite theme, which it saves. -/
theorem settled_flip (h : s.Settled t) : (s.step (.act .flip)).2.Settled t.opposite := by
  have hturned : s.bench.turned = t.opposite := by
    rw [Bench.turned, h.shows.marker, Theme.ofDark_isDark]
  have hflip : (s.step (.act .flip)).2.bench.store = { s.bench.store with
        store := (s.memory.write s.settings.storageKey t.opposite.text).2 } ∧
      (s.step (.act .flip)).2.bench.page =
        { s.bench.page.renderControl t.opposite.offer with dark := t.opposite.isDark } ∧
      (s.step (.act .flip)).2.bench.refusesControl = s.bench.refusesControl := by
    simp only [step, Bench.act, bind_apply, Bench.flip_eq, pure_apply, hturned,
      h.working.write_eq, BarePage.renderControl_mark, and_self]
  obtain ⟨hstore, hpage, hcontrols⟩ := hflip
  have hmemory : (s.step (.act .flip)).2.memory =
      (s.memory.write s.settings.storageKey t.opposite.text).2 := by
    rw [memory, hstore]
  have hwritten : (s.memory.write s.settings.storageKey t.opposite.text).2 =
      { s.memory with
        entries := s.memory.entries.insert s.settings.storageKey t.opposite.text
        writes := s.memory.writes + 1 } := by
    rw [MemoryStorage.write, if_neg (by simp [h.working.writes])]
  have hworking : (s.step (.act .flip)).2.Working := by
    refine ⟨?_, ?_, ?_, ?_, hcontrols.trans h.working.controls⟩
    · rw [hstore]
      exact h.working.readFault
    · rw [hstore]
      exact h.working.writeFault
    · rw [hmemory, hwritten]
      exact h.working.reads
    · rw [hmemory, hwritten]
      exact h.working.writes
  -- what was saved reads back as the theme
  have hstored : (s.step (.act .flip)).2.stored = some t.opposite.text := by
    rw [stored, hmemory]
    exact MemoryStorage.get?_write_self h.working.writes _ _
  have hpreferred : (s.step (.act .flip)).2.preferred = t.opposite := by
    rw [preferred, hstored, ThemeSettings.settled, Theme.ofText?_text]
    rfl
  exact settled_of_rendered hworking hpreferred h.control hpage

/-! ### Runs -/

theorem settled_run (h : s.Settled t) {acts : List Bench.Act}
    (hacts : ∀ a ∈ acts, a = .start ∨ a = .flip) :
    ∃ u, (s.run (acts.map .act)).Settled u := by
  induction acts generalizing s t with
  | nil => exact ⟨t, h⟩
  | cons a rest ih =>
    have hrest : ∀ c ∈ rest, c = .start ∨ c = .flip :=
      fun c hc => hacts c (List.mem_cons_of_mem a hc)
    rw [List.map_cons, run_cons]
    rcases hacts a List.mem_cons_self with rfl | rfl
    · exact ih (settled_start h.working) hrest
    · exact ih (settled_flip h) hrest

/-- One fresh page after another, each with a start on it. -/
def reloads (pages : List BarePage) : List Step :=
  pages.flatMap fun page => [.reload page, .act .start]

/-- A fresh page over the same store settles on the same theme. -/
theorem settled_reload (h : s.Settled t) (page : BarePage) :
    (((s.step (.reload page)).2.step (.act .start)).2).Settled t := by
  have hworking : (s.step (.reload page)).2.Working := h.working.congr rfl rfl
  have hpreferred : (s.step (.reload page)).2.preferred = t :=
    (preferred_congr rfl rfl).trans h.preferred
  rw [← hpreferred]
  exact settled_start hworking

theorem settled_reloads (h : s.Settled t) (pages : List BarePage) :
    (s.run (reloads pages)).Settled t ∧ (s.run (reloads pages)).memory = s.memory := by
  induction pages generalizing s with
  | nil => exact ⟨h, rfl⟩
  | cons page rest ih =>
    have hworking : (s.step (.reload page)).2.Working := h.working.congr rfl rfl
    obtain ⟨-, hstore, -, -⟩ := start_of_working hworking
    obtain ⟨hsettled, hmemory⟩ := ih (settled_reload h page)
    refine ⟨hsettled, hmemory.trans ?_⟩
    rw [memory, hstore]
    rfl

theorem Settled.answers (h : s.Settled t) :
    (s.step (.act .askShown)).1 = .theme (some t) ∧
      (s.step (.act .askPreference)).1 = .theme (some t) ∧
      (s.step (.act .start)).1 = .theme (some t) := by
  obtain ⟨hstart, -, -, -⟩ := start_of_working h.working
  refine ⟨?_, ?_, ?_⟩
  · simp only [step, Bench.act, bind_apply, Bench.shown_eq, pure_apply, h.shows.marker,
      Theme.ofDark_isDark]
  · simp only [step, Bench.act, bind_apply, Bench.preference_eq, pure_apply, h.working.read_eq]
    exact congrArg (fun u => Answer.theme (some u)) h.preferred
  · rw [hstart, h.preferred]

/-- **Starting again changes nothing, and a reload loses nothing.**  After a
    start over a working store with any entries, on any page, and any run of
    further starts and flips: the preference is the theme shown; one more start
    leaves page and store as they are; and however many fresh pages follow, a
    start on the next one answers that theme and shows it on page and control,
    with the store as it was. -/
theorem start_stable (s : ThemeSession) (hworking : s.Working) (acts : List Bench.Act)
    (hacts : ∀ a ∈ acts, a = .start ∨ a = .flip) :
    let e := s.run ((.start :: acts).map .act)
    ∃ t, (e.step (.act .askShown)).1 = .theme (some t) ∧
      (e.step (.act .askPreference)).1 = .theme (some t) ∧
      (e.step (.act .start)).2.bench.page = e.bench.page ∧
      (e.step (.act .start)).2.bench.store = e.bench.store ∧
      ∀ (pages : List BarePage) (page : BarePage),
        let fresh := ((e.run (reloads pages)).step (.reload page)).2
        let shown := (fresh.step (.act .start)).2
        (fresh.step (.act .start)).1 = .theme (some t) ∧
          (shown.step (.act .askShown)).1 = .theme (some t) ∧
          shown.bench.page.control = some t.offer ∧ shown.memory = e.memory := by
  intro e
  obtain ⟨t, ht⟩ : ∃ t, e.Settled t := settled_run (settled_start hworking) hacts
  obtain ⟨hshown, hpreference, -⟩ := ht.answers
  obtain ⟨hpage, hstore⟩ := start_of_settled ht
  refine ⟨t, hshown, hpreference, hpage, hstore, ?_⟩
  intro pages page fresh shown
  obtain ⟨hr, hmemory⟩ := settled_reloads ht pages
  have hfresh : fresh.Working := hr.working.congr rfl rfl
  obtain ⟨hanswer, hkept, -, -⟩ := start_of_working hfresh
  have hpreferred : fresh.preferred = t := (preferred_congr rfl rfl).trans hr.preferred
  have hsettled : shown.Settled t := settled_reload hr page
  refine ⟨hanswer.trans (by rw [hpreferred]), hsettled.answers.1,
    hsettled.shows.drawn hsettled.control, ?_⟩
  calc shown.memory = fresh.memory := congrArg Guarded.store hkept
    _ = e.memory := hmemory

/-- A store with an entry that names no theme, a dark fallback and three flips,
    then pages with and without a control. -/
theorem start_stable_unknown_entry :
    let s : ThemeSession :=
      { settings := { fallback := .dark }
        bench := { store := ⟨.withEntry "theme" "blue", none, none⟩ } }
    let acts : List Bench.Act := [.flip, .start, .flip, .flip]
    let e := s.run ((.start :: acts).map .act)
    let fresh := ((e.run (reloads [{}, { hasControl := true }])).step
      (.reload { dark := true })).2
    s.Working ∧ (∀ a ∈ acts, a = .start ∨ a = .flip) ∧
      (fresh.step (.act .start)).1 = .theme (some .light) ∧ fresh.stored = some "light" := by
  intro s acts e fresh
  have hworking : s.Working := ⟨rfl, rfl, rfl, rfl, rfl⟩
  have hacts : ∀ a ∈ acts, a = .start ∨ a = .flip := by decide
  obtain ⟨t, hshown, -, -, -, hreloads⟩ := start_stable s hworking acts hacts
  have hlight : (e.step (.act .askShown)).1 = .theme (some .light) := rfl
  rw [hlight] at hshown
  cases hshown
  have hlater := hreloads [{}, { hasControl := true }] { dark := true }
  exact ⟨hworking, hacts, hlater.1, by decide⟩

end Enhance.ThemeSession
