/-
  Enhance/Proofs/Host/Tasks.lean
  ==============================
  **Tasks, one by one and in a pass.**

  A task is the business of one feature and writes on one node, which it keeps
  as long as it lives.  It runs until it has to wait; a pass leaves a task that
  waits as it is, and a reply reaches requests only.
-/
import Enhance.Host.Session
import Enhance.Proofs.Action

namespace Enhance

/-- The features of a page. -/
inductive Feature where
  | theme | backToTop | reveal | typing | commits
deriving DecidableEq

/-- A handler that has nothing to do with the theme. -/
def Handler.isAside : Handler → Bool
  | .follow _ => true
  | .scrollUp => true
  | _ => false

namespace Task

/-- The node that a task writes on. -/
def node : Task → NodeId
  | typing i _ _ _ => i
  | commit i _ _ _ => i

def feature : Task → Feature
  | typing .. => .typing
  | commit .. => .commits

theorem feature_ne_reveal (t : Task) : t.feature ≠ .reveal := by
  cases t <;> exact Feature.noConfusion

/-- Two stages of one piece of work. -/
structure SameWriter (t t' : Task) : Prop where
  node : t'.node = t.node
  feature : t'.feature = t.feature

theorem sameWriter_wake (age : Nat) (t : Task) : t.SameWriter (t.wake age) := by
  unfold wake
  split
  · split <;> exact ⟨rfl, rfl⟩
  · exact ⟨rfl, rfl⟩

theorem sameWriter_answer? {d : Delivery} {t t' : Task} (h : t.answer? d = some t') :
    t.SameWriter t' := by
  unfold answer? at h
  split at h
  · cases h
    exact ⟨rfl, rfl⟩
  · cases h

/-- What takes a delivery is a request, and goes on as one. -/
theorem feature_answer? {d : Delivery} {t t' : Task} (h : t.answer? d = some t') :
    t.feature = .commits ∧ t'.feature = .commits := by
  have hcommit : t.feature = .commits := by
    cases t with
    | typing i delay writer phase => cases h
    | commit i url offset phase => rfl
  exact ⟨hcommit, (sameWriter_answer? h).feature.trans hcommit⟩

/-- The tasks of a list that are of one feature. -/
def ofFeature (f : Feature) (l : List Task) : List Task := l.filter fun t => t.feature = f

variable {f : Feature} {t : Task}

theorem mem_ofFeature {l : List Task} : t ∈ ofFeature f l ↔ t ∈ l ∧ t.feature = f := by
  simp [ofFeature]

theorem ofFeature_cons_of_eq (ht : t.feature = f) (l : List Task) :
    ofFeature f (t :: l) = t :: ofFeature f l := List.filter_cons_of_pos (by simpa using ht)

theorem ofFeature_cons_of_ne (ht : t.feature ≠ f) (l : List Task) :
    ofFeature f (t :: l) = ofFeature f l := List.filter_cons_of_neg (by simpa using ht)

theorem ofFeature_append (f : Feature) (l l' : List Task) :
    ofFeature f (l ++ l') = ofFeature f l ++ ofFeature f l' := List.filter_append l l'

/-- The tasks of a list that are of none of these features. -/
def besides (fs : Feature → Bool) (l : List Task) : List Task := l.filter fun t => !fs t.feature

variable {fs : Feature → Bool}

theorem mem_besides {l : List Task} : t ∈ besides fs l ↔ t ∈ l ∧ fs t.feature = false := by
  simp [besides]

theorem besides_cons_of_true (ht : fs t.feature = true) (l : List Task) :
    besides fs (t :: l) = besides fs l := List.filter_cons_of_neg (by simp [ht])

theorem besides_cons_of_false (ht : fs t.feature = false) (l : List Task) :
    besides fs (t :: l) = t :: besides fs l := List.filter_cons_of_pos (by simp [ht])

theorem besides_append (fs : Feature → Bool) (l l' : List Task) :
    besides fs (l ++ l') = besides fs l ++ besides fs l' := List.filter_append l l'

/-- All features but one leave out the tasks of that one. -/
theorem besides_others (f : Feature) (l : List Task) :
    besides (fun f' => f' ≠ f) l = ofFeature f l := by
  unfold besides ofFeature
  congr 1
  funext t
  simp

/-- Stages of the same work are left out together. -/
theorem besides_map {m : Task → Task} (hm : ∀ t, (m t).feature = t.feature) (l : List Task) :
    besides fs (l.map m) = (besides fs l).map m := by
  unfold besides
  rw [List.filter_map]
  exact congrArg _ (List.filter_congr fun t _ => congrArg (fun f => !fs f) (hm t))

/-- Only typing has timers. -/
theorem filterMap_besides (htyping : fs .typing = false) (l : List Task) :
    (besides fs l).filterMap timer? = l.filterMap timer? := by
  induction l with
  | nil => rfl
  | cons t rest ih =>
    cases ht : fs t.feature with
    | false => rw [besides_cons_of_false ht, List.filterMap_cons, List.filterMap_cons, ih]
    | true =>
      cases t with
      | typing i delay writer phase => exact absurd (htyping.symm.trans ht) Bool.false_ne_true
      | commit i url offset phase => rw [besides_cons_of_true ht, ih, List.filterMap_cons]; rfl

/-- Only typing has characters left to type. -/
theorem foldr_besides (htyping : fs .typing = false) (l : List Task) :
    (besides fs l).foldr (fun t sum => t.left + sum) 0 =
      l.foldr (fun t sum => t.left + sum) 0 := by
  induction l with
  | nil => rfl
  | cons t rest ih =>
    cases ht : fs t.feature with
    | false => rw [besides_cons_of_false ht, List.foldr_cons, List.foldr_cons, ih]
    | true =>
      cases t with
      | typing i delay writer phase => exact absurd (htyping.symm.trans ht) Bool.false_ne_true
      | commit i url offset phase =>
        rw [besides_cons_of_true ht, ih, List.foldr_cons]
        exact (Nat.zero_add _).symm

/-- No timer wakes a request. -/
theorem wake_of_ne_typing (ht : t.feature ≠ .typing) (age : Nat) : t.wake age = t := by
  cases t with
  | typing i delay writer phase => exact absurd rfl ht
  | commit i url offset phase => rfl

theorem besides_map_wake (htyping : fs .typing = true) (age : Nat) (l : List Task) :
    besides fs (l.map (wake age)) = besides fs l := by
  induction l with
  | nil => rfl
  | cons t rest ih =>
    have hfeature := (sameWriter_wake age t).feature
    rw [List.map_cons]
    cases ht : fs t.feature with
    | true => rw [besides_cons_of_true (hfeature ▸ ht), besides_cons_of_true ht, ih]
    | false =>
      have hne : t.feature ≠ .typing := by
        intro htype
        rw [htype, htyping] at ht
        cases ht
      rw [besides_cons_of_false (hfeature ▸ ht), besides_cons_of_false ht, ih,
        wake_of_ne_typing hne]

end Task

/-- A task that waits for a timer or a reply. -/
def Task.isIdle : Task → Bool
  | typing _ _ _ (.waiting ..) => true
  | commit _ _ _ .waiting => true
  | _ => false

/-- What is left of tasks that ran. -/
def Host.leftovers (outcomes : List (Option Task × Option Overrun)) : List Task :=
  outcomes.filterMap Prod.fst

namespace HostM

open Host

/-! ### One task -/

/-- What is left of a task writes on the same node, and waits. -/
theorem left_runTask {t t' : Task} {h : Host} (ht : (runTask t h).1.1 = some t') :
    t.SameWriter t' ∧ t'.isIdle = true := by
  have hkey : ∀ {j : NodeId} {delay : UInt32} {writer : Typewriter} {h' : Host},
      (awaitKey j delay writer h').1 = some t' →
        t'.node = j ∧ t'.feature = .typing ∧ t'.isIdle = true := by
    intro j delay writer h' hkey
    unfold awaitKey at hkey
    cases hleft : writer.left with
    | nil =>
      rw [hleft] at hkey
      cases hkey
    | cons a rest =>
      rw [hleft] at hkey
      cases hkey
      exact ⟨rfl, rfl, rfl⟩
  cases t with
  | typing j delay writer phase =>
    cases phase with
    | ready =>
      obtain ⟨hnode, hfeature, hidle⟩ := hkey ht
      exact ⟨⟨hnode, hfeature⟩, hidle⟩
    | waiting deadline age =>
      cases ht
      exact ⟨⟨rfl, rfl⟩, rfl⟩
    | woken =>
      rw [runTask] at ht
      cases hnext : writer.next? with
      | none =>
        rw [hnext] at ht
        cases ht
      | some next =>
        rw [hnext] at ht
        obtain ⟨hnode, hfeature, hidle⟩ := hkey ht
        exact ⟨⟨hnode, hfeature⟩, hidle⟩
  | commit j url offset phase =>
    cases phase with
    | ready =>
      cases ht
      exact ⟨⟨rfl, rfl⟩, rfl⟩
    | waiting =>
      cases ht
      exact ⟨⟨rfl, rfl⟩, rfl⟩
    | answered d =>
      -- nothing is left, whatever the request brought
      rw [runTask, bind_apply, bind_apply] at ht
      cases hshown : ((commitPort j (receive d h).1).refresh url offset (receive d h).2).1 with
      | error overrun =>
        rw [hshown] at ht
        cases ht
      | ok status =>
        rw [hshown] at ht
        cases ht

theorem runTask_idle {t : Task} (ht : t.isIdle = true) (h : Host) :
    runTask t h = ((some t, none), h) := by
  cases t with
  | typing i delay writer phase =>
    cases phase with
    | waiting deadline age => rfl
    | _ => cases ht
  | commit i url offset phase =>
    cases phase with
    | waiting => rfl
    | _ => cases ht

/-! ### A pass -/

/-- A pass over tasks that all wait changes nothing. -/
theorem runTasks_idle {h : Host} (hidle : ∀ t ∈ h.tasks, t.isIdle = true) :
    runTasks h = (none, h) := by
  have hmap : ∀ l : List Task, (∀ t ∈ l, t.isIdle = true) →
      l.mapM runTask h = (l.map fun t => (some t, none), h) := by
    intro l
    induction l with
    | nil => exact fun _ => rfl
    | cons t rest ih =>
      intro hl
      rw [List.mapM_cons, bind_apply, runTask_idle (hl t List.mem_cons_self), bind_apply,
        ih fun u hu => hl u (List.mem_cons_of_mem t hu)]
      rfl
  have hleft : ((h.tasks.map fun t => (some t, (none : Option Overrun))).filterMap Prod.fst) =
      h.tasks := by
    rw [List.filterMap_map]
    exact List.filterMap_some
  have hbroken : ((h.tasks.map fun t => (some t, (none : Option Overrun))).findSome? Prod.snd) =
      none := by
    rw [List.findSome?_eq_none_iff]
    intro outcome houtcome
    obtain ⟨t, -, rfl⟩ := List.mem_map.mp houtcome
    rfl
  unfold runTasks
  rw [bind_apply, get_apply, bind_apply, hmap _ hidle, bind_apply, modify_apply, hleft]
  show (_, h) = _
  rw [hbroken]

/-- What is left of a list of tasks goes on with one of them, and waits. -/
theorem left_mapM {l : List Task} {h : Host} :
    ∀ t' ∈ leftovers (l.mapM runTask h).1, ∃ t ∈ l, t.SameWriter t' ∧ t'.isIdle = true := by
  intro t' ht'
  obtain ⟨outcome, houtcome, hleft⟩ := List.mem_filterMap.mp ht'
  obtain ⟨t, ht, h', rfl⟩ := exists_of_mem_mapM houtcome
  exact ⟨t, ht, left_runTask hleft⟩

theorem isIdle_runTasks {h : Host} : ∀ t ∈ (runTasks h).2.tasks, t.isIdle = true := by
  intro t' ht'
  obtain ⟨-, -, -, hidle⟩ := left_mapM t' ht'
  exact hidle

theorem leftovers_cons (t : Task) (rest : List Task) (h : Host) :
    leftovers ((t :: rest).mapM runTask h).1 =
      (runTask t h).1.1.toList ++ leftovers (rest.mapM runTask (runTask t h).2).1 := by
  rw [mapM_cons_apply]
  unfold leftovers
  rw [List.filterMap_cons]
  cases (runTask t h).1.1 <;> rfl

theorem overrun_cons (t : Task) (rest : List Task) (h : Host) :
    ((t :: rest).mapM runTask h).1.findSome? Prod.snd =
      (runTask t h).1.2.or ((rest.mapM runTask (runTask t h).2).1.findSome? Prod.snd) := by
  rw [mapM_cons_apply, List.findSome?_cons]
  cases (runTask t h).1.2 <;> rfl

/-- What is left of a task is of the same feature. -/
theorem besides_outcome (fs : Feature → Bool) (t : Task) (h : Host) :
    Task.besides fs (runTask t h).1.1.toList =
      if fs t.feature then [] else (runTask t h).1.1.toList := by
  have hleft : ∀ t' ∈ (runTask t h).1.1.toList, t'.feature = t.feature := fun t' ht' =>
    (left_runTask (Option.mem_toList.mp ht')).1.feature
  split
  · rename_i hf
    exact List.filter_eq_nil_iff.mpr fun t' ht' => by simp [hleft t' ht', hf]
  · rename_i hf
    exact List.filter_eq_self.mpr fun t' ht' => by simp [hleft t' ht', hf]

theorem ofFeature_left (f : Feature) (t : Task) (h : Host) :
    Task.ofFeature f (runTask t h).1.1.toList =
      if t.feature = f then (runTask t h).1.1.toList else [] := by
  rw [← Task.besides_others, besides_outcome]
  by_cases hf : t.feature = f <;> simp [hf]

/-- Tasks that wait are left as they are, whatever the tasks of the other features do. -/
theorem besides_left {fs : Feature → Bool} {l : List Task}
    (hidle : ∀ t ∈ Task.besides fs l, t.isIdle = true) (h : Host) :
    Task.besides fs (leftovers (l.mapM runTask h).1) = Task.besides fs l := by
  induction l generalizing h with
  | nil => rfl
  | cons t rest ih =>
    rw [leftovers_cons, Task.besides_append, besides_outcome]
    cases ht : fs t.feature with
    | false =>
      rw [Task.besides_cons_of_false ht] at hidle ⊢
      rw [← ih (fun u hu => hidle u (List.mem_cons_of_mem t hu)) (runTask t h).2,
        runTask_idle (hidle t List.mem_cons_self)]
      rfl
    | true =>
      rw [Task.besides_cons_of_true ht] at hidle ⊢
      rw [← ih hidle (runTask t h).2]
      rfl

/-! ### One task among others -/

section Lead

variable {P Q R : Host → Prop} {f : Feature} {owns : Feature → NodeId → Prop} {task : Task}
  {left : List Task}
  (hother : ∀ u : Task, u.feature ≠ f → owns u.feature u.node →
    Keeps P (runTask u) ∧ Keeps Q (runTask u))
  (hrun : ∀ h, P h → (runTask task h).1.1.toList = left ∧ Q (runTask task h).2)

include hother hrun

/-- The feature has one task, which leads from one state of it to another; the tasks of the
    others are neither here nor there. -/
theorem lead_mapM {l : List Task} (howns : ∀ u ∈ l, owns u.feature u.node)
    (hl : Task.ofFeature f l = [task]) {h : Host} (h0 : P h) :
    Task.ofFeature f (leftovers (l.mapM runTask h).1) = left ∧
      Q (l.mapM runTask h).2 := by
  -- after its task, no other one is of the feature
  have hothers : ∀ {rest : List Task} {k : Host}, (∀ u ∈ rest, owns u.feature u.node) →
      Task.ofFeature f rest = [] → Q k →
      Task.ofFeature f (leftovers (rest.mapM runTask k).1) = [] ∧ Q (rest.mapM runTask k).2 := by
    intro rest
    induction rest with
    | nil => exact fun _ _ hk => ⟨rfl, hk⟩
    | cons u rest ih =>
      intro k hrest hempty hk
      have hu : u.feature ≠ f := fun hu =>
        absurd (Task.ofFeature_cons_of_eq hu rest ▸ hempty) (List.cons_ne_nil _ _)
      rw [Task.ofFeature_cons_of_ne hu] at hempty
      have hfirst := (hother u hu (hrest u List.mem_cons_self)).2 k hk
      obtain ⟨hleft, hlast⟩ := ih (fun v hv => hrest v (List.mem_cons_of_mem u hv)) hempty hfirst
      rw [leftovers_cons, Task.ofFeature_append, ofFeature_left, if_neg hu, hleft, List.mapM_cons]
      exact ⟨rfl, hlast⟩
  induction l generalizing h with
  | nil => cases hl
  | cons u rest ih =>
    have hrest : ∀ v ∈ rest, owns v.feature v.node := fun v hv =>
      howns v (List.mem_cons_of_mem u hv)
    rw [leftovers_cons, Task.ofFeature_append, ofFeature_left, List.mapM_cons]
    by_cases hu : u.feature = f
    · obtain ⟨rfl, hempty⟩ := List.cons.inj ((Task.ofFeature_cons_of_eq hu rest).symm.trans hl)
      obtain ⟨htask, hafter⟩ := hrun h h0
      obtain ⟨hleft, hlast⟩ := hothers hrest hempty hafter
      rw [if_pos hu, htask, hleft, List.append_nil]
      exact ⟨rfl, hlast⟩
    · rw [Task.ofFeature_cons_of_ne hu] at hl
      obtain ⟨hleft, hlast⟩ := ih hrest hl ((hother u hu (howns u List.mem_cons_self)).1 h h0)
      rw [if_neg hu, hleft]
      exact ⟨rfl, hlast⟩

/-- A pass in which the one task of a feature goes on. -/
theorem lead_runTasks
    (hset : ∀ k l, Q k → (∀ t ∈ l, owns t.feature t.node) → Task.ofFeature f l = left →
      R { k with tasks := l }) {h : Host} (howns : ∀ t ∈ h.tasks, owns t.feature t.node)
    (hl : Task.ofFeature f h.tasks = [task]) (h0 : P h) : R (runTasks h).2 := by
  obtain ⟨hleft, hafter⟩ := lead_mapM hother hrun howns hl h0
  refine hset _ _ hafter (fun t' ht' => ?_) hleft
  obtain ⟨t, ht, hsame, -⟩ := left_mapM t' ht'
  rw [hsame.feature, hsame.node]
  exact howns t ht

end Lead

/-! ### Replies -/

/-- An answer does not change where a task writes. -/
theorem sameWriter_answerFirst {d : Delivery} {l l' : List Task} (h : answerFirst d l = some l') :
    ∀ t' ∈ l', ∃ t ∈ l, t.SameWriter t' := by
  induction l generalizing l' with
  | nil => cases h
  | cons t rest ih =>
    rw [answerFirst] at h
    split at h
    · rename_i answered hanswered
      cases h
      intro t' ht'
      rcases List.mem_cons.mp ht' with rfl | ht'
      · exact ⟨t, List.mem_cons_self, Task.sameWriter_answer? hanswered⟩
      · exact ⟨t', List.mem_cons_of_mem t ht', rfl, rfl⟩
    · obtain ⟨rest', hrest, rfl⟩ := Option.map_eq_some_iff.mp h
      intro t' ht'
      rcases List.mem_cons.mp ht' with rfl | ht'
      · exact ⟨t', List.mem_cons_self, rfl, rfl⟩
      · obtain ⟨u, hu, hsame⟩ := ih hrest t' ht'
        exact ⟨u, List.mem_cons_of_mem t hu, hsame⟩

/-- A reply is for the first of the requests, whatever other tasks there are. -/
theorem answerFirst_besides_comm {fs : Feature → Bool} (hcommits : fs .commits = false)
    (d : Delivery) (l : List Task) :
    (answerFirst d l).map (Task.besides fs) = answerFirst d (Task.besides fs l) := by
  induction l with
  | nil => rfl
  | cons t rest ih =>
    rw [answerFirst]
    cases hanswer : t.answer? d with
    | some t' =>
      obtain ⟨hcommit, hcommit'⟩ := Task.feature_answer? hanswer
      rw [Task.besides_cons_of_false (hcommit ▸ hcommits), answerFirst, hanswer]
      exact congrArg some (Task.besides_cons_of_false (hcommit' ▸ hcommits) rest)
    | none =>
      cases ht : fs t.feature with
      | false =>
        rw [Task.besides_cons_of_false ht, answerFirst, hanswer]
        show ((answerFirst d rest).map _).map _ = (answerFirst d _).map _
        rw [← ih, Option.map_map, Option.map_map]
        exact Option.map_congr fun l' _ => Task.besides_cons_of_false ht l'
      | true =>
        rw [Task.besides_cons_of_true ht, ← ih]
        show ((answerFirst d rest).map _).map _ = _
        rw [Option.map_map]
        exact Option.map_congr fun l' _ => Task.besides_cons_of_true ht l'

theorem answerFirst_ofFeature (d : Delivery) (l : List Task) :
    (answerFirst d l).map (Task.ofFeature .commits) = answerFirst d (Task.ofFeature .commits l) := by
  have hbesides : Task.ofFeature .commits = Task.besides fun f => f ≠ .commits :=
    funext fun l => (Task.besides_others .commits l).symm
  rw [hbesides]
  exact answerFirst_besides_comm rfl d l

/-- A reply is for no other task. -/
theorem answerFirst_besides {d : Delivery} {fs : Feature → Bool} (hcommits : fs .commits = true)
    {l l' : List Task} (hanswer : answerFirst d l = some l') :
    Task.besides fs l' = Task.besides fs l := by
  induction l generalizing l' with
  | nil => cases hanswer
  | cons t rest ih =>
    rw [answerFirst] at hanswer
    cases hfirst : t.answer? d with
    | some t' =>
      rw [hfirst] at hanswer
      cases hanswer
      obtain ⟨hcommit, hcommit'⟩ := Task.feature_answer? hfirst
      rw [Task.besides_cons_of_true (hcommit' ▸ hcommits),
        Task.besides_cons_of_true (hcommit ▸ hcommits)]
    | none =>
      rw [hfirst] at hanswer
      obtain ⟨rest', hrest, rfl⟩ := Option.map_eq_some_iff.mp hanswer
      cases ht : fs t.feature with
      | true => rw [Task.besides_cons_of_true ht, Task.besides_cons_of_true ht, ih hrest]
      | false => rw [Task.besides_cons_of_false ht, Task.besides_cons_of_false ht, ih hrest]

end HostM

end Enhance
