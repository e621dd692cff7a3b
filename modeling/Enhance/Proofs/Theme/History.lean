/-
  Enhance/Proofs/Theme/History.lean
  =================================
  **What is stored is the record of the flips that went through.**

  A store outlives pages and switches, and the settings, with them the key that
  is in use, may change from one switch to the next.  `ThemeSession.history`
  lists, for a run of any number of such sessions over one store, the flips
  whose write the store took, each with the key it was made under.  The store
  then holds nothing else: the entry under a key is the last of the history
  under that key, or what was there before the run (`stored_eq_last_save`).

  One step adds to the history exactly what it adds to the store
  (`get?_step`, `writes_step`); the run follows by induction on the steps.
-/
import Enhance.Proofs.Theme.Bench
import Enhance.Theme.Session

namespace Enhance

/-! ### The store behind its faults -/

namespace MemoryStorage

/-- A write that goes through changes the entry under its key and no other. -/
theorem get?_write (m : MemoryStorage) (key value k : String) :
    (m.write key value).2.get? k =
      if (m.write key value).1.isOk ∧ k = key then some value else m.get? k := by
  by_cases hr : m.refusesWrites = true
  · simp [write, hr, Except.isOk, Except.toBool]
  · by_cases hk : k = key
    · subst hk
      rw [get?_write_self (by simpa using hr)]
      simp [write, hr, Except.isOk, Except.toBool]
    · rw [get?_write_of_ne m hk value]
      simp [hk]

theorem writes_write (m : MemoryStorage) (key value : String) :
    (m.write key value).2.writes = m.writes + (if (m.write key value).1.isOk then 1 else 0) := by
  by_cases hr : m.refusesWrites = true <;> simp [write, hr, Except.isOk, Except.toBool]

end MemoryStorage

namespace Guarded

theorem read_store (g : Guarded MemoryStorage) (key : String) : (Storage.read key g).2 = g := by
  obtain ⟨store, readFault, writeFault⟩ := g
  cases readFault <;> rfl

theorem read_eq_get? {g : Guarded MemoryStorage} {key : String}
    (h : (Storage.read key g).1.isOk = true) :
    (Storage.read key g).1 = .ok (g.store.get? key) := by
  obtain ⟨store, readFault, writeFault⟩ := g
  cases readFault with
  | some fault => cases h
  | none =>
    have hread : (Storage.read key (⟨store, none, writeFault⟩ : Guarded MemoryStorage)).1 =
        store.read key := rfl
    rw [hread] at h ⊢
    by_cases hr : store.refusesReads = true
    · simp [MemoryStorage.read, hr, Except.isOk, Except.toBool] at h
    · simp [MemoryStorage.read, hr]

/-- A write changes the store behind the faults if it goes through. -/
theorem get?_write (g : Guarded MemoryStorage) (key value k : String) :
    (Storage.write key value g).2.store.get? k =
      if (Storage.write key value g).1.isOk ∧ k = key then some value else g.store.get? k := by
  obtain ⟨store, readFault, writeFault⟩ := g
  cases writeFault with
  | some fault => simp [Storage.write, Except.isOk, Except.toBool]
  | none => exact store.get?_write key value k

theorem writes_write (g : Guarded MemoryStorage) (key value : String) :
    (Storage.write key value g).2.store.writes =
      g.store.writes + (if (Storage.write key value g).1.isOk then 1 else 0) := by
  obtain ⟨store, readFault, writeFault⟩ := g
  cases writeFault with
  | some fault => simp [Storage.write, Except.isOk, Except.toBool]
  | none => exact store.writes_write key value

end Guarded

namespace ThemeSession

/-! ### The history of a run -/

/-- A theme saved under a key. -/
structure Save where
  key : String
  theme : Theme
deriving DecidableEq

/-- Whether the store takes a theme under the key in use. -/
def takes (s : ThemeSession) (t : Theme) : Bool :=
  (Storage.write s.settings.storageKey t.text s.bench.store).1.isOk

/-- Whether the store tells what is under the key in use. -/
def tells (s : ThemeSession) : Bool := (Storage.read s.settings.storageKey s.bench.store).1.isOk

/-- What a step saves: the theme that a flip answers, if the store takes it. -/
def saves (s : ThemeSession) : Step → List Save
  | .act .flip =>
    match (Bench.act s.settings .flip s.bench).1 with
    | some t => if s.takes t then [⟨s.settings.storageKey, t⟩] else []
    | none => []
  | _ => []

/-- What a run saves, in order. -/
def history (s : ThemeSession) : List Step → List Save
  | [] => []
  | t :: rest => s.saves t ++ (s.step t).2.history rest

/-- The last theme saved under a key. -/
def lastSave (key : String) (l : List Save) : Option Theme :=
  ((l.filter fun e => e.key = key).getLast?).map Save.theme

/-- The keys of the switches of a run. -/
def keysUsed (s : ThemeSession) : List Step → List String
  | [] => [s.settings.storageKey]
  | t :: rest => s.settings.storageKey :: (s.step t).2.keysUsed rest

/-- Something other than a switch writes the store. -/
def Step.isForeign : Step → Bool
  | .writeEntry .. => true
  | _ => false

/-- An act of a switch that is no flip. -/
def isQuery (a : Bench.Act) : Bool := a = .start || a = .askShown || a = .askPreference

/-! ### One step -/

variable {s : ThemeSession}

theorem saves_flip (s : ThemeSession) :
    s.saves (.act .flip) =
      if s.takes s.bench.turned then [⟨s.settings.storageKey, s.bench.turned⟩] else [] := by
  have h : (Bench.act s.settings .flip s.bench).1 = some s.bench.turned := by
    simp only [Bench.act, bind_apply, Bench.flip_eq, pure_apply]
  simp only [saves, h]

theorem memory_flip (s : ThemeSession) :
    (s.step (.act .flip)).2.memory =
      (Storage.write s.settings.storageKey s.bench.turned.text s.bench.store).2.store := by
  simp only [step, memory, Bench.act, bind_apply, Bench.flip_eq, pure_apply]

/-- Only a flip and a foreign write change the entries or the count. -/
theorem memory_step {t : Step} (hf : t ≠ .act .flip) (ht : t.isForeign = false) :
    (s.step t).2.memory.entries = s.memory.entries ∧
      (s.step t).2.memory.writes = s.memory.writes := by
  cases t with
  | act a =>
    cases a with
    | start =>
      simp only [step, memory, Bench.act, bind_apply, Bench.start_eq, pure_apply,
        Guarded.read_store, and_self]
    | flip => exact absurd rfl hf
    | askShown => exact ⟨rfl, rfl⟩
    | askPreference =>
      simp only [step, memory, Bench.act, bind_apply, Bench.preference_eq, pure_apply,
        Guarded.read_store, and_self]
    | markDark dark => exact ⟨rfl, rfl⟩
    | refuseControl refuse => exact ⟨rfl, rfl⟩
  | writeEntry key value => cases ht
  | readOutage o => exact ⟨rfl, rfl⟩
  | writeOutage o => exact ⟨rfl, rfl⟩
  | refuseReads => exact ⟨rfl, rfl⟩
  | refuseWrites => exact ⟨rfl, rfl⟩
  | reload page => exact ⟨rfl, rfl⟩
  | reconfigure settings => exact ⟨rfl, rfl⟩

theorem saves_eq_nil {t : Step} (hf : t ≠ .act .flip) : s.saves t = [] := by
  cases t with
  | act a => cases a <;> first | rfl | exact absurd rfl hf
  | _ => rfl

/-- The entry under a key after a step is what the step saved there, or the
    entry before. -/
theorem get?_step {t : Step} (ht : t.isForeign = false) (k : String) :
    (s.step t).2.memory.get? k =
      ((lastSave k (s.saves t)).map Theme.text).or (s.memory.get? k) := by
  by_cases hf : t = .act .flip
  · subst hf
    rw [memory_flip, saves_flip, Guarded.get?_write]
    by_cases htake : s.takes s.bench.turned = true
    · have hok : (Storage.write s.settings.storageKey s.bench.turned.text s.bench.store).1.isOk =
          true := htake
      by_cases hk : k = s.settings.storageKey
      · rw [if_pos ⟨hok, hk⟩, if_pos htake]
        simp [lastSave, hk]
      · rw [if_neg fun h => hk h.2, if_pos htake]
        simp [lastSave, Ne.symm hk, memory]
    · have hok : ¬ (Storage.write s.settings.storageKey s.bench.turned.text
          s.bench.store).1.isOk = true := htake
      rw [if_neg fun h => hok h.1, if_neg htake]
      rfl
  · have hm : (s.step t).2.memory.get? k = s.memory.get? k := by
      unfold MemoryStorage.get?
      rw [(memory_step hf ht).1]
    rw [hm, saves_eq_nil hf]
    rfl

theorem writes_step {t : Step} (ht : t.isForeign = false) :
    (s.step t).2.memory.writes = s.memory.writes + (s.saves t).length := by
  by_cases hf : t = .act .flip
  · subst hf
    rw [memory_flip, saves_flip, Guarded.writes_write]
    by_cases htake : s.takes s.bench.turned = true
    · have hok : (Storage.write s.settings.storageKey s.bench.turned.text s.bench.store).1.isOk =
          true := htake
      simp [htake, hok, memory]
    · have hok : ¬ (Storage.write s.settings.storageKey s.bench.turned.text
          s.bench.store).1.isOk = true := htake
      simp [htake, hok, memory]
  · rw [(memory_step hf ht).2, saves_eq_nil hf]
    rfl

theorem key_of_mem_saves {t : Step} {e : Save} (h : e ∈ s.saves t) :
    e.key = s.settings.storageKey := by
  by_cases hf : t = .act .flip
  · subst hf
    rw [saves_flip] at h
    split at h
    · rw [List.mem_singleton.mp h]
    · cases h
  · rw [saves_eq_nil hf] at h
    cases h

/-! ### Runs -/

theorem lastSave_append (k : String) (l r : List Save) :
    lastSave k (l ++ r) = (lastSave k r).or (lastSave k l) := by
  unfold lastSave
  rw [List.filter_append, List.getLast?_append]
  cases (r.filter fun e => e.key = k).getLast? <;> rfl

theorem run_cons (t : Step) (steps : List Step) : s.run (t :: steps) = (s.step t).2.run steps := rfl

theorem get?_run {steps : List Step} (hsteps : ∀ t ∈ steps, t.isForeign = false) (k : String) :
    (s.run steps).memory.get? k =
      ((lastSave k (s.history steps)).map Theme.text).or (s.memory.get? k) := by
  induction steps generalizing s with
  | nil => rfl
  | cons t rest ih =>
    have ht : t.isForeign = false := hsteps t List.mem_cons_self
    have hrest : ∀ u ∈ rest, u.isForeign = false := fun u hu => hsteps u (List.mem_cons_of_mem t hu)
    rw [run_cons, ih hrest, get?_step ht, history, lastSave_append]
    cases lastSave k ((s.step t).2.history rest) <;> rfl

theorem writes_run {steps : List Step} (hsteps : ∀ t ∈ steps, t.isForeign = false) :
    (s.run steps).memory.writes = s.memory.writes + (s.history steps).length := by
  induction steps generalizing s with
  | nil => rfl
  | cons t rest ih =>
    have ht : t.isForeign = false := hsteps t List.mem_cons_self
    have hrest : ∀ u ∈ rest, u.isForeign = false := fun u hu => hsteps u (List.mem_cons_of_mem t hu)
    rw [run_cons, ih hrest, writes_step ht, history, List.length_append]
    omega

theorem key_mem_keysUsed {steps : List Step} {e : Save} (h : e ∈ s.history steps) :
    e.key ∈ s.keysUsed steps := by
  induction steps generalizing s with
  | nil => cases h
  | cons t rest ih =>
    rw [history] at h
    rw [keysUsed]
    rcases List.mem_append.mp h with h | h
    · rw [key_of_mem_saves h]
      exact List.mem_cons_self
    · exact List.mem_cons_of_mem _ (ih h)

theorem lastSave_eq_none {steps : List Step} {k : String} (h : k ∉ s.keysUsed steps) :
    lastSave k (s.history steps) = none := by
  have hnil : ((s.history steps).filter fun e => e.key = k) = [] := by
    rw [List.filter_eq_nil_iff]
    intro e he hk
    exact h (of_decide_eq_true hk ▸ key_mem_keysUsed he)
  rw [lastSave, hnil]
  rfl

/-! ### Queries -/

/-- A query leaves the store as it is, and asks for no write. -/
theorem query_writes_nothing {a : Bench.Act} (ha : isQuery a = true) :
    (s.step (.act a)).2.memory = s.memory ∧
      ∃ l, (s.step (.act a)).2.bench.calls = s.bench.calls ++ l ∧
        ∀ key value, SwitchCall.write key value ∉ l := by
  cases a with
  | start =>
    simp only [step, memory, Bench.act, bind_apply, Bench.start_eq, pure_apply, Guarded.read_store,
      true_and]
    exact ⟨_, rfl, by simp⟩
  | askShown => exact ⟨rfl, [.isDark], rfl, by simp⟩
  | askPreference =>
    simp only [step, memory, Bench.act, bind_apply, Bench.preference_eq, pure_apply,
      Guarded.read_store, true_and]
    exact ⟨_, rfl, by simp⟩
  | flip => cases ha
  | markDark dark => cases ha
  | refuseControl refuse => cases ha

/-- A start answers the theme that is stored, if the store tells one. -/
theorem start_stored {t : Theme} (hr : s.tells = true) (ht : s.stored = some t.text) :
    (s.step (.act .start)).1 = .theme (some t) := by
  have hread : (Storage.read s.settings.storageKey s.bench.store).1 = .ok (some t.text) := by
    rw [Guarded.read_eq_get? hr]
    exact congrArg _ ht
  simp only [step, Bench.act, bind_apply, Bench.start_eq, pure_apply, hread,
    ThemeSettings.settled, Theme.ofText?_text, Option.getD_some]

theorem start_fallback (h : ∀ t : Theme, s.tells = true → s.stored ≠ some t.text) :
    (s.step (.act .start)).1 = .theme (some s.settings.fallback) := by
  have hset : s.settings.settled (Storage.read s.settings.storageKey s.bench.store).1 =
      s.settings.fallback := by
    by_cases hr : s.tells = true
    · rw [Guarded.read_eq_get? hr]
      rcases hg : s.bench.store.store.get? s.settings.storageKey with _ | raw
      · rfl
      · cases ho : Theme.ofText? raw with
        | none => simp [ThemeSettings.settled, ho]
        | some t =>
          have hraw : s.stored = some t.text := by
            rw [← Theme.ofText?_eq_some_iff.mp ho]
            exact hg
          exact absurd hraw (h t hr)
    · rcases hread : (Storage.read s.settings.storageKey s.bench.store).1 with fault | raw
      · rfl
      · rw [tells, hread] at hr
        exact absurd rfl hr
  simp only [step, Bench.act, bind_apply, Bench.start_eq, pure_apply, hset]

/-- **What is stored is exactly the record of the flips that went through.**
    After any run of switches over one store, with settings changing between
    them and the store failing from any point on: the entry under a key is the
    last theme saved there, or the one before the run; keys that no switch used
    keep theirs; the count of writes is the length of the history; a start and
    the two questions write nothing; and a start answers the stored theme if the
    store tells one, else the fallback of its own settings. -/
theorem stored_eq_last_save (s : ThemeSession) (steps : List Step)
    (hsteps : ∀ t ∈ steps, t.isForeign = false) :
    let e := s.run steps
    (∀ k, e.memory.get? k =
      ((lastSave k (s.history steps)).map Theme.text).or (s.memory.get? k)) ∧
    (∀ k, k ∉ s.keysUsed steps → e.memory.get? k = s.memory.get? k) ∧
    e.memory.writes = s.memory.writes + (s.history steps).length ∧
    (∀ a, isQuery a = true →
      (e.step (.act a)).2.memory = e.memory ∧
        ∃ l, (e.step (.act a)).2.bench.calls = e.bench.calls ++ l ∧
          ∀ key value, SwitchCall.write key value ∉ l) ∧
    (∀ t : Theme, e.tells = true → e.stored = some t.text →
      (e.step (.act .start)).1 = .theme (some t)) ∧
    ((∀ t : Theme, e.tells = true → e.stored ≠ some t.text) →
      (e.step (.act .start)).1 = .theme (some e.settings.fallback)) := by
  refine ⟨get?_run hsteps, fun k hk => ?_, writes_run hsteps, fun a ha => query_writes_nothing ha,
    fun t hr ht => start_stored hr ht, start_fallback⟩
  rw [get?_run hsteps, lastSave_eq_none hk]
  rfl

/-- Two sessions under different keys over a store that starts to refuse. -/
theorem stored_eq_last_save_two_keys :
    let steps : List Step := [.act .start, .act .flip, .reload {},
      .reconfigure { storageKey := "other", fallback := .dark }, .act .start, .act .flip,
      .refuseWrites, .act .flip]
    let s : ThemeSession := { bench := { store := ⟨.withEntry "other" "blue", none, none⟩ } }
    (∀ t ∈ steps, t.isForeign = false) ∧
      (s.run steps).memory.get? "theme" = some "dark" ∧
      (s.run steps).memory.get? "other" = some "light" ∧
      (s.run steps).memory.writes = 2 := by
  intro steps s
  have hsteps : ∀ t ∈ steps, t.isForeign = false := by
    intro t ht
    simp only [steps, List.mem_cons, List.not_mem_nil, or_false] at ht
    rcases ht with rfl | rfl | rfl | rfl | rfl | rfl | rfl | rfl <;> rfl
  have h := stored_eq_last_save s steps hsteps
  refine ⟨hsteps, (h.1 "theme").trans ?_, (h.1 "other").trans ?_, h.2.2.1.trans ?_⟩ <;> decide

end ThemeSession

end Enhance
