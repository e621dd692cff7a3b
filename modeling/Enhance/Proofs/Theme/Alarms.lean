/-
  Enhance/Proofs/Theme/Alarms.lean
  ================================
  **Every failure is reported once, and nothing else is.**

  A switch goes on when its store fails, so that all there is left of the
  failure is a warning in the log.  To count the failures, the store of a bench
  is put behind a witness that passes each request on and writes down what was
  answered.  The switch cannot tell (`act_forget`), and the warnings in the log
  are exactly those that the witness's record calls for (`alarms_run`).

  One act lengthens record, requests and log by the same story (`told_act`);
  the run follows by induction on the acts.  A request for commits is judged
  only once, so there the account is one case of `classify` for each outcome.
-/
import Enhance.Commit.Status
import Enhance.Proofs.Theme.Marker

namespace Enhance

/-! ### A witness in front of a store -/

/-- A request to a store with the answer that was given. -/
inductive StorageReply where
  | read (key : String) (answer : Except StorageFault (Option String))
  | write (key value : String) (answer : Except StorageFault Unit)

namespace StorageReply

/-- The request that was answered. -/
def call : StorageReply → SwitchCall
  | read key _ => .read key
  | write key value _ => .write key value

/-- The warnings called for: one for a fault, with its text, and none for a
    success, whatever was read. -/
def alarms : StorageReply → List Log.Entry
  | read _ (.error fault) => [⟨.warn, "theme preference unreadable: " ++ fault.message⟩]
  | write _ _ (.error fault) => [⟨.warn, "theme preference not saved: " ++ fault.message⟩]
  | read _ (.ok _) => []
  | write _ _ (.ok ()) => []

end StorageReply

/-- Requests that go to the store. -/
def SwitchCall.isAccess : SwitchCall → Bool
  | read _ => true
  | write _ _ => true
  | _ => false

/-- A store with a record of what it answered. -/
structure Witnessed (σ : Type) where
  store : σ
  replies : List StorageReply := []

instance {σ : Type} [Storage σ] : Storage (Witnessed σ) where
  read key := fun w =>
    let (answer, store) := Storage.read key w.store
    (answer, ⟨store, w.replies ++ [.read key answer]⟩)
  write key value := fun w =>
    let (answer, store) := Storage.write key value w.store
    (answer, ⟨store, w.replies ++ [.write key value answer]⟩)

namespace Witnessed

variable {σ : Type} [Storage σ] (w : Witnessed σ) (key value : String)

theorem read_eq :
    Storage.read key w =
      let answer := Storage.read key w.store
      (answer.1, ⟨answer.2, w.replies ++ [.read key answer.1]⟩) := rfl

theorem write_eq :
    Storage.write key value w =
      let answer := Storage.write key value w.store
      (answer.1, ⟨answer.2, w.replies ++ [.write key value answer.1]⟩) := rfl

end Witnessed

/-! ### The warnings among the remarks -/

theorem alarms_readRemarks (key : String) (answer : Except StorageFault (Option String)) :
    (readRemarks answer).filter Log.Entry.isAlarm = (StorageReply.read key answer).alarms := by
  rcases answer with fault | (_ | raw)
  · rfl
  · rfl
  · cases h : Theme.ofText? raw with
    | none => simp [readRemarks, h, Log.Entry.isAlarm, Log.Level.within, Log.Level.rank,
        StorageReply.alarms]
    | some t => simp [readRemarks, h, StorageReply.alarms]

theorem alarms_writeRemarks (key value : String) (answer : Except StorageFault Unit) :
    (writeRemarks answer).filter Log.Entry.isAlarm =
      (StorageReply.write key value answer).alarms := by
  rcases answer with fault | _
  · rfl
  · rfl

theorem alarms_startRemarks (made : Bool) (theme : Theme) :
    (startRemarks made theme).filter Log.Entry.isAlarm = [] := by
  cases made <;> rfl

namespace Bench

variable {σ : Type}

/-- A bench whose store has a witness from now on. -/
def watched (b : Bench σ) : Bench (Witnessed σ) :=
  ⟨⟨b.store, []⟩, b.page, b.refusesControl, b.calls, b.log⟩

/-- The bench without the witness. -/
def forget (b : Bench (Witnessed σ)) : Bench σ :=
  ⟨b.store.store, b.page, b.refusesControl, b.calls, b.log⟩

/-- The record, the requests and the warnings of a bench tell one story since
    another one: each answer stands for one request to the store, and for the
    warnings it calls for. -/
structure Told (before : Bench σ) (b : Bench (Witnessed σ)) : Prop where
  calls : b.calls.filter SwitchCall.isAccess =
    before.calls.filter SwitchCall.isAccess ++ b.store.replies.map StorageReply.call
  alarms : b.log.filter Log.Entry.isAlarm =
    before.log.filter Log.Entry.isAlarm ++ b.store.replies.flatMap StorageReply.alarms

theorem told_watched (b : Bench σ) : Told b b.watched := by
  constructor <;> simp [watched]

variable {before : Bench σ} {b b' : Bench (Witnessed σ)}

/-- The story goes on by some answers. -/
theorem Told.more (h : Told before b) (news : List StorageReply)
    (hreplies : b'.store.replies = b.store.replies ++ news)
    (hcalls : b'.calls.filter SwitchCall.isAccess =
      b.calls.filter SwitchCall.isAccess ++ news.map StorageReply.call)
    (halarms : b'.log.filter Log.Entry.isAlarm =
      b.log.filter Log.Entry.isAlarm ++ news.flatMap StorageReply.alarms) : Told before b' := by
  constructor
  · simp only [hcalls, h.calls, hreplies, List.map_append, List.append_assoc]
  · simp only [halarms, h.alarms, hreplies, List.flatMap_append, List.append_assoc]

/-! ### One act -/

variable [Storage σ] {settings : ThemeSettings}

theorem told_act (h : Told before b) (a : Act) : Told before (act settings a b).2 := by
  cases a with
  | start =>
    let reply := StorageReply.read settings.storageKey
      (Storage.read settings.storageKey b.store.store).1
    apply h.more [reply]
    all_goals simp only [act, bind_apply, start_eq, pure_apply, Witnessed.read_eq]
    · rfl
    · simp [List.filter_cons, SwitchCall.isAccess, StorageReply.call, reply]
    · simp [alarms_readRemarks settings.storageKey, alarms_startRemarks, reply]
  | flip =>
    let reply := StorageReply.write settings.storageKey b.turned.text
      (Storage.write settings.storageKey b.turned.text b.store.store).1
    apply h.more [reply]
    all_goals simp only [act, bind_apply, flip_eq, pure_apply, Witnessed.write_eq]
    · rfl
    · simp [SwitchCall.isAccess, StorageReply.call, reply]
    · simp [alarms_writeRemarks settings.storageKey b.turned.text, reply]
  | askPreference =>
    let reply := StorageReply.read settings.storageKey
      (Storage.read settings.storageKey b.store.store).1
    apply h.more [reply]
    all_goals simp only [act, bind_apply, preference_eq, pure_apply, Witnessed.read_eq]
    · rfl
    · simp [SwitchCall.isAccess, StorageReply.call, reply]
    · simp [alarms_readRemarks settings.storageKey, reply]
  | askShown =>
    apply h.more []
    all_goals simp [act, bind_apply, shown_eq, SwitchCall.isAccess]
  | markDark dark => exact ⟨h.calls, h.alarms⟩
  | refuseControl refuse => exact ⟨h.calls, h.alarms⟩

/-- A switch does not notice the witness. -/
theorem act_forget (a : Act) (b : Bench (Witnessed σ)) :
    act settings a b.forget = ((act settings a b).1, (act settings a b).2.forget) := by
  cases a with
  | start => simp only [act, bind_apply, start_eq, pure_apply]; rfl
  | flip => simp only [act, bind_apply, flip_eq, pure_apply]; rfl
  | askPreference => simp only [act, bind_apply, preference_eq, pure_apply]; rfl
  | askShown => rfl
  | markDark dark => rfl
  | refuseControl refuse => rfl

/-! ### Runs -/

theorem told_run (h : Told before b) (acts : List Act) : Told before (run settings b acts) := by
  induction acts generalizing b with
  | nil => exact h
  | cons a rest ih =>
    rw [run_cons]
    exact ih (told_act h a)

theorem run_forget (b : Bench (Witnessed σ)) (acts : List Act) :
    run settings b.forget acts = (run settings b acts).forget := by
  induction acts generalizing b with
  | nil => rfl
  | cons a rest ih =>
    simp only [run_cons, act_forget]
    exact ih _

end Bench

/-! ### The account -/

/-- What a request for commits warns of: nothing if a time is known, and one
    thing in every other case. -/
theorem alarms_classify (brought : Except FetchFault Reply) :
    (∃ t, classify brought = (.known t, [])) ∨
      ∃ status text, (status = .unavailable ∨ status = .unreachable) ∧
        classify brought = (status, [⟨.warn, text⟩]) := by
  rcases brought with fault | reply
  · exact .inr ⟨_, _, .inr rfl, rfl⟩
  · by_cases hok : reply.ok = true
    · cases hread : readNewest reply.body with
      | ok t => exact .inl ⟨t, by simp [classify, hok, hread]⟩
      | error fault =>
        exact .inr ⟨_, "last commit fetch: " ++ fault.message, .inr rfl,
          by simp [classify, hok, hread]⟩
    · exact .inr ⟨_, "last commit fetch returned status " ++ toString reply.status.toNat,
        .inl rfl, by simp [classify, hok]⟩

/-- **Every failure is reported once, and nothing else is.**  Let a bench have
    any store whatever, and give the store a witness for any run of acts.  The
    run is the same as without the witness; the witness records an answer for
    every request that the switch made of the store, in order; and the warnings
    and errors that the run adds to the log are, in order, one for each answer
    that was a fault, with the fault's text, and none for any other.  A request
    for commits warns once if the commits are unavailable or unreachable, and
    not at all if their time is known. -/
theorem Bench.alarms_run {σ : Type} [Storage σ] (settings : ThemeSettings) (b : Bench σ)
    (acts : List Bench.Act) :
    let ended := Bench.run settings b.watched acts
    let replies := ended.store.replies
    Bench.run settings b acts = ended.forget ∧
    ended.forget.calls.filter SwitchCall.isAccess =
      b.calls.filter SwitchCall.isAccess ++ replies.map StorageReply.call ∧
    ended.forget.log.filter Log.Entry.isAlarm =
      b.log.filter Log.Entry.isAlarm ++ replies.flatMap StorageReply.alarms ∧
    ∀ brought : Except FetchFault Reply,
      (∃ t, (classify brought).1 = .known t ∧
        (classify brought).2.filter Log.Entry.isAlarm = []) ∨
      ((classify brought).1 = .unavailable ∨ (classify brought).1 = .unreachable) ∧
        ∃ text, (classify brought).2.filter Log.Entry.isAlarm = [⟨.warn, text⟩] := by
  intro ended replies
  have htold : Bench.Told b ended := Bench.told_run (Bench.told_watched b) acts
  refine ⟨Bench.run_forget b.watched acts, htold.calls, htold.alarms, fun brought => ?_⟩
  rcases alarms_classify brought with ⟨t, h⟩ | ⟨status, text, hstatus, h⟩
  · exact .inl ⟨t, by simp [h]⟩
  · exact .inr ⟨by simpa [h] using hstatus, text, by rw [h]; rfl⟩

end Enhance
