/-
  Enhance/Proofs/Host/Typing.lean
  ===============================
  **Typing restores the whole line.**

  Once `k` characters are typed there is one timer for the next one, or none if that
  was the last (`Typed`).  A timer that runs out leads from `k` to `k + 1`, all else
  leaves `k` as it is, and so `k` is the number of timers that ran out (`live_typed`).
-/
import Enhance.Proofs.Host.Tagline
import Enhance.Proofs.Typewriter

namespace Enhance

namespace Host

variable {i : NodeId} {work : List Task} {text : String} {delay : UInt32} {line : List Char}
  {start made count now k : Nat} {h : Host}

/-! ### How far typing has come -/

/-- The task that waits to type the character after the first `k`, if there is one.  The clock
    stood at `start` when the first timer was made, and `made` timers were made before it. -/
def pending (i : NodeId) (delay : UInt32) (line : List Char) (start made k : Nat) : List Task :=
  if k < line.length then
    [.typing i delay (.upTo line k) (.waiting (start + (k + 1) * delay.toNat) (made + k))]
  else []

theorem pending_of_lt (hk : k < line.length) : pending i delay line start made k =
    [.typing i delay (.upTo line k) (.waiting (start + (k + 1) * delay.toNat) (made + k))] :=
  if_pos hk

theorem pending_of_le (hk : line.length ≤ k) : pending i delay line start made k = [] :=
  if_neg (Nat.not_lt.mpr hk)

theorem isIdle_pending : ∀ t ∈ pending i delay line start made k, t.isIdle = true := by
  intro t ht
  rcases Nat.lt_or_ge k line.length with hk | hk
  · rw [pending_of_lt hk] at ht
    rw [List.mem_singleton.mp ht]
    rfl
  · rw [pending_of_le hk] at ht
    cases ht

/-- The first `k` characters are typed, and the timer for the next one was made, if there is
    one. -/
structure Typed (i : NodeId) (delay : UInt32) (line : List Char) (start made k : Nat) (h : Host) :
    Prop where
  le : k ≤ line.length
  types : ∃ now, Types i (pending i delay line start made k) (String.ofList (line.take k))
    (made + min (k + 1) line.length) now h

/-- The timers that are pending, each with its deadline and its age. -/
def timers (h : Host) : List (Nat × Nat) := h.tasks.filterMap Task.timer?

theorem firstTimer?_eq (h : Host) : h.firstTimer? = match h.timers with
    | [] => none
    | t :: rest => some (rest.foldl earlierTimer t) := rfl

/-- The timers of all tasks are those of typing. -/
theorem Types.timers (h0 : Types i work text count now h) :
    h.timers = work.filterMap Task.timer? := by
  rw [Host.timers, Task.filterMap_timer?, h0.left]

theorem Types.firstTimer?_of_lt (h0 : Types i (pending i delay line start made k) text count now h)
    (hk : k < line.length) :
    h.firstTimer? = some (start + (k + 1) * delay.toNat, made + k) := by
  rw [firstTimer?_eq, h0.timers, pending_of_lt hk]
  rfl

theorem Types.firstTimer?_of_nil (h0 : Types i [] text count now h) : h.firstTimer? = none := by
  rw [firstTimer?_eq, h0.timers]
  rfl

theorem Types.keysLeft (h0 : Types i (pending i delay line start made k) text count now h) :
    h.keysLeft = line.length - k := by
  unfold Host.keysLeft
  rw [Task.foldr_left, h0.left]
  rcases Nat.lt_or_ge k line.length with hk | hk
  · rw [pending_of_lt hk]
    simp [Task.left, Typewriter.upTo]
  · rw [pending_of_le hk]
    exact (Nat.sub_eq_zero_of_le hk).symm

end Host

namespace HostM

open Host

variable {i : NodeId} {work left : List Task} {text text' : String} {delay : UInt32}
  {line : List Char} {start made count count' now k : Nat} {h : Host}

/-! ### The task of typing -/

/-- The timer for the next character is made, unless the line is typed. -/
theorem awaitKey_types (h0 : Types i work text (made + k) now h) (hk : k ≤ line.length)
    (hnow : now = start + k * delay.toNat) :
    (awaitKey i delay (.upTo line k) h).1.toList = pending i delay line start made k ∧
      Types i work text (made + min (k + 1) line.length) now
        (awaitKey i delay (.upTo line k) h).2 := by
  rcases Nat.lt_or_ge k line.length with hlt | hge
  · have hdrop : (Typewriter.upTo line k).left = _ := List.drop_eq_getElem_cons hlt
    have hdeadline : h.now + delay.toNat = start + (k + 1) * delay.toNat := by
      rw [h0.clock, hnow, Nat.succ_mul, Nat.add_assoc]
    unfold awaitKey
    rw [hdrop, pending_of_lt hlt, Nat.min_eq_left hlt, ← hdeadline, ← h0.count]
    exact ⟨rfl, { h0 with count := congrArg Nat.succ h0.count }⟩
  · have hdrop : (Typewriter.upTo line k).left = [] := List.drop_eq_nil_of_le hge
    have hall : made + min (k + 1) line.length = made + k := by omega
    unfold awaitKey
    rw [hdrop, pending_of_le hge, hall]
    exact ⟨rfl, h0⟩

/-- A character is typed once its timer has run out. -/
theorem runTask_woken (h0 : Types i work text (made + (k + 1)) now h) (hk : k < line.length)
    (hnow : now = start + (k + 1) * delay.toNat) :
    (runTask (.typing i delay (.upTo line k) .woken) h).1.1.toList =
        pending i delay line start made (k + 1) ∧
      Types i work (String.ofList (line.take (k + 1))) (made + min (k + 2) line.length) now
        (runTask (.typing i delay (.upTo line k) .woken) h).2 := by
  have hset : Types i work (String.ofList (line.take (k + 1))) (made + (k + 1)) now
      (setText i (Typewriter.upTo line (k + 1)).frame h).2 := by
    have hnoted : Types i work text (made + (k + 1)) now
        (h.noted (.setText i (Typewriter.upTo line (k + 1)).frame)) := { h0 with }
    exact hnoted.typed _
  rw [runTask, Typewriter.next?_upTo hk]
  exact awaitKey_types hset hk hnow

/-- A pass in which the task of typing goes on. -/
theorem types_runTasks {task : Task}
    (hrun : ∀ h, Types i [task] text count now h → (runTask task h).1.1.toList = left ∧
      Types i [task] text' count' now (runTask task h).2) (h0 : Types i [task] text count now h) :
    Types i left text' count' now (runTasks h).2 := by
  let owns (f : Feature) (j : NodeId) : Prop := f = .commits → j ≠ i
  have hkeeps : ∀ {text count} {u : Task}, u.feature ≠ .typing → owns u.feature u.node →
      Keeps (Types i [task] text count now) (runTask u) :=
    fun hu hown => Types.disregards.keeps_runTask (decide_eq_true hu) hown
  have howns : ∀ t ∈ h.tasks, owns t.feature t.node := h0.writes
  exact lead_runTasks (fun _ hu hown => ⟨hkeeps hu hown, hkeeps hu hown⟩) hrun
    (fun _ _ hk howns hleft => hleft ▸ hk.withTasks howns) howns h0.left h0

/-! ### Timers -/

/-- The timer for the next character runs out. -/
theorem fire_types
    (h0 : Types i (pending i delay line start made k) text (made + (k + 1)) now h)
    (hk : k < line.length) :
    Types i (pending i delay line start made (k + 1)) (String.ofList (line.take (k + 1)))
      (made + min (k + 2) line.length) (start + (k + 1) * delay.toNat)
      (fire (start + (k + 1) * delay.toNat) (made + k) h).2 := by
  have hwoken : Types i [.typing i delay (.upTo line k) .woken] text (made + (k + 1))
      (start + (k + 1) * delay.toNat) { h with
        now := start + (k + 1) * delay.toNat, tasks := h.tasks.map (Task.wake (made + k)) } := by
    refine { h0 with writes := ?_, left := ?_, clock := rfl }
    · intro t' ht' hcommits
      obtain ⟨t, ht, rfl⟩ := List.mem_map.mp ht'
      have hsame := Task.sameWriter_wake (made + k) t
      rw [hsame.feature] at hcommits
      rw [hsame.node]
      exact h0.writes t ht hcommits
    · rw [Task.ofFeature_map_wake, h0.left, pending_of_lt hk]
      simp [Task.wake]
  exact types_runTasks (fun h hh => runTask_woken hh hk rfl) hwoken

theorem fire_typed (h0 : Typed i delay line start made k h) (hk : k < line.length) :
    Typed i delay line start made (k + 1)
      (fire (start + (k + 1) * delay.toNat) (made + k) h).2 := by
  obtain ⟨now, htypes⟩ := h0.types
  rw [Nat.min_eq_left hk] at htypes
  exact ⟨hk, _, fire_types htypes hk⟩

/-- How many timers run out by `limit`, of so many at most. -/
def rung (limit : Nat) : Nat → Host → Nat
  | 0, _ => 0
  | keys + 1, h =>
    match h.firstTimer? with
    | none => 0
    | some (deadline, age) =>
      if limit < deadline then 0
      else
        match fire deadline age h with
        | (some _, _) => 1
        | (none, h') => rung limit keys h' + 1

/-- Each timer that runs out types a character. -/
theorem fireDue_typed (h0 : Typed i delay line start made k h) (limit keys : Nat) :
    Typed i delay line start made (k + rung limit keys h) (fireDue limit keys h).2 := by
  induction keys generalizing k h with
  | zero => exact h0
  | succ keys ih =>
    obtain ⟨now, htypes⟩ := h0.types
    rw [fireDue, bind_apply, get_apply, rung]
    rcases Nat.lt_or_ge k line.length with hk | hk
    · rw [htypes.firstTimer?_of_lt hk]
      dsimp only
      by_cases hlate : limit < start + (k + 1) * delay.toNat
      · rw [if_pos hlate, if_pos hlate]
        exact h0
      · rw [if_neg hlate, if_neg hlate, bind_apply]
        have hfired := fire_typed h0 hk
        generalize hfire : fire (start + (k + 1) * delay.toNat) (made + k) h = fired at hfired ⊢
        obtain ⟨broken, h'⟩ := fired
        cases broken with
        | some overrun => exact hfired
        | none =>
          dsimp only
          rw [Nat.add_comm (rung limit keys h') 1, ← Nat.add_assoc]
          exact ih hfired
    · rw [pending_of_le hk] at htypes
      rw [htypes.firstTimer?_of_nil]
      exact h0

/-- Time passes. -/
theorem elapse_typed (h0 : Typed i delay line start made k h) (ms : Nat) :
    Typed i delay line start made (k + rung (h.now + ms) h.keysLeft h) (elapse ms h).2 := by
  have hdue := fireDue_typed h0 (h.now + ms) h.keysLeft
  obtain ⟨now, htypes⟩ := hdue.types
  exact ⟨hdue.le, h.now + ms, { htypes with clock := rfl }⟩

/-! ### Enough time -/

/-- A task that waits does not break down when a timer runs out. -/
theorem overrun_of_wake {t : Task} (ht : t.isIdle = true) (age : Nat) (h : Host) :
    (runTask (t.wake age) h).1.2 = none := by
  cases t with
  | commit j url offset phase =>
    have hwake : (Task.commit j url offset phase).wake age = .commit j url offset phase := rfl
    rw [hwake, runTask_idle ht]
  | typing j delay writer phase =>
    cases phase with
    | waiting deadline a =>
      by_cases ha : a = age
      · have hwake : (Task.typing j delay writer (.waiting deadline a)).wake age =
            .typing j delay writer .woken := if_pos ha
        rw [hwake, runTask]
        cases writer.next? <;> rfl
      · have hwake : (Task.typing j delay writer (.waiting deadline a)).wake age =
            .typing j delay writer (.waiting deadline a) := if_neg ha
        rw [hwake]
        rfl
    | _ => cases ht

theorem fire_fst (hidle : ∀ t ∈ h.tasks, t.isIdle = true) (deadline age : Nat) :
    (fire deadline age h).1 = none := by
  refine List.findSome?_eq_none_iff.mpr fun outcome houtcome => ?_
  obtain ⟨t', ht', k, rfl⟩ := exists_of_mem_mapM houtcome
  obtain ⟨t, ht, rfl⟩ := List.mem_map.mp ht'
  exact overrun_of_wake (hidle t ht) age k

/-- All timers run out if there is time for all. -/
theorem rung_of_enough (h0 : Typed i delay line start made k h)
    (hidle : ∀ t ∈ h.tasks, t.isIdle = true) {limit keys : Nat}
    (hlimit : start + line.length * delay.toNat ≤ limit) (hkeys : line.length - k ≤ keys) :
    k + rung limit keys h = line.length := by
  induction keys generalizing k h with
  | zero =>
    have hle := h0.le
    rw [rung]
    omega
  | succ keys ih =>
    obtain ⟨now, htypes⟩ := h0.types
    rw [rung]
    rcases Nat.lt_or_ge k line.length with hk | hk
    · have hdue : start + (k + 1) * delay.toNat ≤ limit :=
        Nat.le_trans (Nat.add_le_add_left (Nat.mul_le_mul_right _ hk) start) hlimit
      rw [htypes.firstTimer?_of_lt hk]
      dsimp only
      rw [if_neg (Nat.not_lt.mpr hdue)]
      have hfired := fire_typed h0 hk
      have hsound := fire_fst hidle (start + (k + 1) * delay.toNat) (made + k)
      have hwaits : ∀ t ∈ (fire (start + (k + 1) * delay.toNat) (made + k) h).2.tasks,
          t.isIdle = true := isIdle_runTasks
      generalize fire (start + (k + 1) * delay.toNat) (made + k) h = fired at hfired hsound hwaits ⊢
      obtain ⟨broken, h'⟩ := fired
      obtain rfl : broken = none := hsound
      dsimp only at hfired hwaits ⊢
      rw [← ih hfired hwaits (by omega)]
      omega
    · rw [pending_of_le hk] at htypes
      rw [htypes.firstTimer?_of_nil]
      exact Nat.le_antisymm h0.le hk

/-! ### Setting up -/

/-- Typing has begun on a tagline that had this text, unless that is blank or the visitor wants
    reduced motion. -/
def Begun (i : NodeId) (delay : UInt32) (reducedMotion : Bool) (text : String) (count now : Nat)
    (h : Host) : Prop :=
  if reducedMotion = true ∨ Text.trim text = "" then Types i [] text count now h
  else Types i [.typing i delay (.upTo (Text.trim text).toList 0) .ready] "" count now h

theorem wireTyping_types {s : TypingSettings} (hs : s.elementId = "tagline")
    (h0 : Types i [] text count now h) (reducedMotion : Bool) :
    Begun i s.delay reducedMotion text count now (wireTyping s reducedMotion h).2 := by
  unfold wireTyping Begun
  rw [bind_apply, get_apply, hs, h0.found]
  dsimp only
  rw [bind_apply, node_apply, h0.shown]
  dsimp only
  split
  · exact h0
  · have hnoted : Types i [] text count now (h.noted (.setText i "")) := { h0 with }
    have hset := hnoted.typed ""
    refine { hset with writes := ?_, left := ?_ }
    · intro t ht hcommits
      rcases List.mem_append.mp ht with ht | ht
      · exact h0.writes t ht hcommits
      · rw [List.mem_singleton.mp ht] at hcommits
        cases hcommits
    · have hleft : Task.ofFeature .typing h.tasks = [] := h0.left
      show Task.ofFeature .typing (h.tasks ++ [_]) = _
      rw [Task.ofFeature_append, hleft]
      rfl

/-- Enhancing a page has typing begin. -/
theorem enhancePage_types (h0 : Types i [] text count now h) :
    Begun i (readSettings h).1.1.typing.delay (wantsReducedMotion h).1 text count now
      (enhancePage h).2 := by
  have hnames : (readSettings h).1.1.StandardNames := (readSettings_names h).2
  have htoggle : (readSettings h).1.1.theme.toggleId ≠ "tagline" := by
    rw [hnames.toggle]
    decide
  have hothers : ∀ {work text}, Disregards _ _ _ work (Types i work text count now) :=
    Types.disregards
  have hcommits : (readSettings h).1.1.commits.elementId ≠ "tagline" := by
    rw [hnames.commits]
    decide
  have hbegun : ∀ {delay reducedMotion}, Keeps (Begun i delay reducedMotion text count now)
      (wireCommits (readSettings h).1.1.commits) := by
    intro delay reducedMotion k hk
    unfold Begun at hk ⊢
    split
    · rename_i hblank
      exact keeps_types_wireCommits hcommits k (by rwa [if_pos hblank] at hk)
    · rename_i hblank
      exact keeps_types_wireCommits hcommits k (by rwa [if_neg hblank] at hk)
  refine leads_enhancePage Types.unthemed htoggle hothers.keeps_limitLog
    hothers.keeps_wantsReducedMotion ?_ h0
  refine (hothers.keeps_wireBackToTop rfl fun _ _ => nofun).then fun _ => ?_
  refine (hothers.keeps_wireReveal rfl (fun _ _ _ => nofun) _).then fun _ k hk => ?_
  exact hbegun _ (wireTyping_types hnames.typing hk (wantsReducedMotion h).1)

end HostM

namespace Session

open Host HostM

variable {i : NodeId} {work : List Task} {text : String} {delay : UInt32} {line : List Char}
  {start made count now k : Nat} {g : Host} {s : Session}

/-! ### What happens on a page -/

/-- A step, or the first timer that is pending runs out, whether others are due at the same time
    or not. -/
inductive Moment where
  | step (t : Step)
  | timer

namespace Moment

def pass (s : Session) : Moment → Session
  | step t => (s.step t).2
  | timer =>
    match s.host.firstTimer? with
    | none => s
    | some (deadline, age) => { s with host := (fire deadline age s.host).2 }

/-- How many timers run out. -/
def rung (s : Session) : Moment → Nat
  | step (.elapse ms) => HostM.rung (s.host.now + ms) s.host.keysLeft s.host
  | step _ => 0
  | timer => if s.host.firstTimer?.isSome then 1 else 0

end Moment

/-- The page once all this has happened. -/
def live (s : Session) (moments : List Moment) : Session := moments.foldl Moment.pass s

/-- How many timers run out while all this happens. -/
def rungs : Session → List Moment → Nat
  | _, [] => 0
  | s, m :: rest => m.rung s + rungs (m.pass s) rest

/-- A moment leads from one number of characters to another. -/
theorem pass_typed (h0 : Typed i delay line start made k s.host) {m : Moment}
    (hm : ∀ t, m = .step t → t.sparesTyping = true) :
    Typed i delay line start made (k + m.rung s) (m.pass s).host := by
  cases m with
  | timer =>
    obtain ⟨now, htypes⟩ := h0.types
    rw [Moment.rung, Moment.pass]
    rcases Nat.lt_or_ge k line.length with hk | hk
    · rw [htypes.firstTimer?_of_lt hk]
      exact fire_typed h0 hk
    · rw [pending_of_le hk] at htypes
      rw [htypes.firstTimer?_of_nil]
      exact h0
  | step t =>
    have ht : t.sparesTyping = true := hm t rfl
    by_cases htime : ∃ ms, t = .elapse ms
    · obtain ⟨ms, rfl⟩ := htime
      have helapsed := elapse_typed h0 ms
      obtain ⟨now, htypes⟩ := helapsed.types
      refine ⟨helapsed.le, now, ?_⟩
      show Types _ _ _ _ _ (s.step (.elapse ms)).2.host
      rw [host_step]
      exact Types.disregards.keeps_runTasks isIdle_pending _ htypes
    · obtain ⟨now, htypes⟩ := h0.types
      have hnone : Moment.rung s (.step t) = 0 := by
        cases t with
        | elapse ms => exact absurd ⟨ms, rfl⟩ htime
        | _ => rfl
      rw [hnone]
      exact ⟨h0.le, now, step_types htypes isIdle_pending ht fun ms heq => htime ⟨ms, heq⟩⟩

/-- The number of characters is that of the timers that ran out. -/
theorem live_typed (h0 : Typed i delay line start made k s.host) {moments : List Moment}
    (hmoments : ∀ t, .step t ∈ moments → t.sparesTyping = true) :
    Typed i delay line start made (k + rungs s moments) (s.live moments).host := by
  induction moments generalizing s k with
  | nil => exact h0
  | cons m rest ih =>
    have hfirst := pass_typed (m := m) h0 fun t ht => hmoments t (by simp [ht])
    have hrest := ih hfirst fun t ht => hmoments t (List.mem_cons_of_mem m ht)
    rwa [Nat.add_assoc] at hrest

/-- Without typing, the tagline keeps its text. -/
theorem live_still (h0 : Types i [] text count now s.host) {moments : List Moment}
    (hmoments : ∀ t, .step t ∈ moments → t.sparesTyping = true) :
    ∃ now, Types i [] text count now (s.live moments).host := by
  have hidle : ∀ t ∈ ([] : List Task), t.isIdle = true := nofun
  refine List.foldlRecOn (motive := fun s => ∃ now, Types i [] text count now s.host) moments
    Moment.pass ⟨now, h0⟩ ?_
  rintro s ⟨now, h0⟩ m hm
  cases m with
  | timer =>
    rw [Moment.pass, h0.firstTimer?_of_nil]
    exact ⟨now, h0⟩
  | step t =>
    by_cases htime : ∃ ms, t = .elapse ms
    · obtain ⟨ms, rfl⟩ := htime
      refine ⟨s.host.now + ms, ?_⟩
      show Types _ _ _ _ _ (s.step (.elapse ms)).2.host
      rw [host_step]
      refine Types.disregards.keeps_runTasks hidle _ ?_
      show Types _ _ _ _ _ (elapse ms s.host).2
      rw [elapse_eq h0.left]
      exact { h0 with clock := rfl }
    · exact ⟨now, step_types h0 hidle (hmoments t hm) fun ms heq => htime ⟨ms, heq⟩⟩

/-- All tasks wait after each moment. -/
theorem isIdle_live (hidle : ∀ t ∈ s.host.tasks, t.isIdle = true) (moments : List Moment) :
    ∀ t ∈ (s.live moments).host.tasks, t.isIdle = true := by
  refine List.foldlRecOn (motive := fun s => ∀ t ∈ s.host.tasks, t.isIdle = true) moments
    Moment.pass hidle ?_
  intro s hidle m _
  cases m with
  | timer =>
    rw [Moment.pass]
    cases s.host.firstTimer? with
    | none => exact hidle
    | some timer => exact isIdle_runTasks
  | step t =>
    show ∀ u ∈ (s.step t).2.host.tasks, u.isIdle = true
    rw [host_step]
    exact isIdle_runTasks

/-! ### The whole line -/

/-- The first timer is made when typing begins. -/
theorem runTask_ready {h : Host}
    (h0 : Types i [.typing i delay (.upTo line 0) .ready] "" count now h) :
    (runTask (.typing i delay (.upTo line 0) .ready) h).1.1.toList =
        pending i delay line now count 0 ∧
      Types i [.typing i delay (.upTo line 0) .ready] (String.ofList (line.take 0))
        (count + min (0 + 1) line.length) now
        (runTask (.typing i delay (.upTo line 0) .ready) h).2 := by
  have hnow : now = now + 0 * delay.toNat := by rw [Nat.zero_mul, Nat.add_zero]
  rw [List.take_zero, runTask]
  exact awaitKey_types (k := 0) h0 (Nat.zero_le line.length) hnow

/-- The first pass makes the first timer. -/
theorem begun_runTasks {reducedMotion : Bool} {h : Host}
    (h0 : Begun i delay reducedMotion text count now h) :
    (reducedMotion = true ∨ Text.trim text = "" → Types i [] text count now (runTasks h).2) ∧
    (¬ (reducedMotion = true ∨ Text.trim text = "") →
      Typed i delay (Text.trim text).toList now count 0 (runTasks h).2) := by
  constructor
  · intro hblank
    rw [Begun, if_pos hblank] at h0
    exact Types.disregards.keeps_runTasks (by simp) h h0
  · intro hline
    rw [Begun, if_neg hline] at h0
    exact ⟨Nat.zero_le _, now, types_runTasks (fun _ hk => runTask_ready hk) h0⟩

/-- A page that is enhanced has typing begun. -/
theorem wiring_begun (h0 : Tagline i s.host) (hfresh : Task.ofFeature .typing s.host.tasks = [])
    {wiring : Step} (hwiring : wiring.Enhances s.host) :
    Begun i (readSettings s.host).1.1.typing.delay (wantsReducedMotion s.host).1
      (s.host.nodeAt i).text s.host.timersMade s.host.now (act s.held wiring s.host).2 := by
  obtain ⟨readyState, hact⟩ := act_enhances s.held hwiring
  have htypes : Types i [] (s.host.nodeAt i).text s.host.timersMade s.host.now
      { s.host with readyState } :=
    { h0 with left := hfresh, shown := rfl, count := rfl, clock := rfl }
  have hsettings : (readSettings { s.host with readyState }).1 = (readSettings s.host).1 :=
    readSettings_congr rfl rfl
  have hmotion : (wantsReducedMotion { s.host with readyState }).1 =
      (wantsReducedMotion s.host).1 := wantsReducedMotion_congr rfl rfl
  rw [hact, ← hsettings, ← hmotion]
  exact enhancePage_types htypes

/-- **Typing restores the whole line.**  A page is enhanced on which typing has not begun and
    nothing else writes on the tagline.  Then anything may happen but that the page is enhanced
    again: steps of other features, calls that fail, time that passes, single timers that run out.

    If the visitor wants reduced motion or the line is blank, the tagline keeps its text and no
    timer is made.  Else its text is empty at first.  Let `k` timers have run out.  Then the first
    `k` characters of the trimmed line are shown.  As long as some are left, there is one timer,
    which is due a delay later than the one before it was; after the last one there is none, and
    the whole line is shown.  And all of them run out if there is time for it. -/
theorem typing_run (s : Session) (i : NodeId) (wiring : Step) (moments : List Moment)
    (htagline : Tagline i s.host) (hfresh : Task.ofFeature .typing s.host.tasks = [])
    (hwiring : wiring.Enhances s.host)
    (hmoments : ∀ t, .step t ∈ moments → t.sparesTyping = true) :
    let text := (s.host.nodeAt i).text
    let line := (Text.trim text).toList
    let delay := (readSettings s.host).1.1.typing.delay.toNat
    let wired := (s.step wiring).2
    let later := wired.live moments
    let k := rungs wired moments
    ((wantsReducedMotion s.host).1 = true ∨ Text.trim text = "" →
      (later.host.nodeAt i).text = text ∧ later.host.timersMade = s.host.timersMade ∧
        later.host.timers = []) ∧
    ((wantsReducedMotion s.host).1 = false → Text.trim text ≠ "" →
      (wired.host.nodeAt i).text = "" ∧
      k ≤ line.length ∧
      (later.host.nodeAt i).text = String.ofList (line.take (min k line.length)) ∧
      later.host.timersMade = s.host.timersMade + min (k + 1) line.length ∧
      (k < line.length →
        later.host.timers = [(s.host.now + (k + 1) * delay, s.host.timersMade + k)]) ∧
      (k = line.length → later.host.timers = [] ∧ (later.host.nodeAt i).text = Text.trim text) ∧
      ∀ ms, s.host.now + line.length * delay ≤ later.host.now + ms →
        let rested := (later.step (.elapse ms)).2
        rested.host.timers = [] ∧ (rested.host.nodeAt i).text = Text.trim text) := by
  intro text line delay wired later k
  have hbegun := begun_runTasks (wiring_begun htagline hfresh hwiring)
  rw [← host_step] at hbegun
  obtain ⟨hstill, htyped⟩ := hbegun
  constructor
  · intro hblank
    obtain ⟨now, htypes⟩ := live_still (hstill hblank) hmoments
    exact ⟨htypes.shown, htypes.count, by rw [htypes.timers]; rfl⟩
  · intro hmotion hline
    have hwired := htyped fun hblank => hblank.elim (by rw [hmotion]; nofun) hline
    have hlater := live_typed hwired hmoments
    rw [Nat.zero_add] at hlater
    -- what is shown, and which timers there are, once so many have run out
    have hall : ∀ {k : Nat} {h : Host}, Typed i (readSettings s.host).1.1.typing.delay line
        s.host.now s.host.timersMade k h → k = line.length →
        h.timers = [] ∧ (h.nodeAt i).text = Text.trim text := by
      intro k h hk hdone
      rw [hdone] at hk
      obtain ⟨now, htypes⟩ := hk.types
      refine ⟨?_, ?_⟩
      · rw [htypes.timers, pending_of_le (Nat.le_refl _)]
        rfl
      · rw [htypes.shown, List.take_length, String.ofList_toList]
    obtain ⟨first, hfirst⟩ := hwired.types
    obtain ⟨now, htypes⟩ := hlater.types
    refine ⟨hfirst.shown, hlater.le, ?_, htypes.count, ?_, hall hlater, ?_⟩
    · rw [Nat.min_eq_left hlater.le]
      exact htypes.shown
    · intro hk
      rw [htypes.timers, pending_of_lt hk]
      rfl
    · intro ms hms
      have hidle : ∀ t ∈ later.host.tasks, t.isIdle = true := by
        refine isIdle_live ?_ moments
        rw [host_step]
        exact isIdle_runTasks
      have hrung : k + Moment.rung later (.step (.elapse ms)) = line.length :=
        rung_of_enough hlater hidle hms (by rw [htypes.keysLeft])
      have hrested := pass_typed (m := .step (.elapse ms)) hlater fun t ht => by cases ht; rfl
      exact hall hrested hrung

/-- A key is pressed, one timer runs out, and some of the time until the next one passes. -/
theorem typing_run_accented :
    let page : Host :=
      { nodes := [{ tag := "body", attributes := .ofList [("data-typing-delay", "30")] },
          { attributes := .ofList [("id", "tagline")], text := " hé " }] }
    let wired := (({ host := page } : Session).step .enhance).2
    let moments : List Moment :=
      [.step (.event .document "keydown" {}), .timer, .step (.elapse 10)]
    let later := wired.live moments
    (Tagline 1 page ∧ Task.ofFeature .typing page.tasks = [] ∧ Step.Enhances page .enhance ∧
      (∀ t, .step t ∈ moments → t.sparesTyping = true) ∧ (wantsReducedMotion page).1 = false ∧
      Text.trim " hé " = "hé" ∧ rungs wired moments = 1) ∧
    (wired.host.nodeAt 1).text = "" ∧
    (later.host.nodeAt 1).text = "h" ∧ later.host.timers = [(60, 1)] ∧
    ((later.step (.elapse 20)).2.host.nodeAt 1).text = "hé" := by
  intro page wired moments later
  have htagline : Tagline 1 page := ⟨by decide +kernel, nofun, nofun, nofun⟩
  have hwiring : Step.Enhances page .enhance := ⟨rfl, rfl⟩
  have hmoments : ∀ t, .step t ∈ moments → t.sparesTyping = true := by
    intro t ht
    simp only [moments, List.mem_cons, Moment.step.injEq, reduceCtorEq, false_or, List.not_mem_nil,
      or_false] at ht
    rcases ht with rfl | rfl <;> decide
  have hmotion : (wantsReducedMotion page).1 = false := by decide +kernel
  have htrim : Text.trim " hé " = "hé" := by decide +kernel
  have hrungs : rungs wired moments = 1 := by decide +kernel
  have hdelay : (readSettings page).1.1.typing.delay = 30 := by decide +kernel
  have hnow : later.host.now = 40 := by decide +kernel
  obtain ⟨-, hline⟩ := typing_run { host := page } 1 .enhance moments htagline rfl hwiring hmoments
  have htext : (page.nodeAt 1).text = " hé " := rfl
  have hwired : (({ host := page } : Session).step .enhance).2 = wired := rfl
  have hlater : wired.live moments = later := rfl
  dsimp only at hline
  rw [htext, htrim, hdelay, hwired, hlater] at hline
  obtain ⟨hempty, -, hshown, -, htimers, -, hrest⟩ := hline hmotion (by decide +kernel)
  rw [hrungs] at hshown htimers
  have hfirst : String.ofList ("hé".toList.take (min 1 "hé".toList.length)) = "h" := by
    decide +kernel
  have hdue : later.host.timers = [(60, 1)] :=
    (htimers (by decide +kernel)).trans (by decide +kernel)
  exact ⟨⟨htagline, rfl, hwiring, hmoments, hmotion, htrim, hrungs⟩, hempty, hshown.trans hfirst,
    hdue, (hrest 20 (by rw [hnow]; decide +kernel)).2⟩

end Session

end Enhance
