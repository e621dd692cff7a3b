/-
  Enhance/Proofs/Host/Lacking.lean
  ================================
  **Each feature beside the theme, with and without its elements.**

  A feature that finds its elements on both pages treats them alike.  One that
  finds them on the one page only works there and does nothing on the other,
  neither when it is set up nor when its events come or its tasks run.
-/
import Enhance.Proofs.Host.Alongside

namespace Enhance

namespace HostM

open Host

variable {f : Feature} {gone : NodeId → Bool} {i j : NodeId}

/-- What the feature does on the one page, and a remark on the other. -/
theorem matches_own {x y : HostM Unit}
    (hx : ∀ h' rest, Keeps (fun h => Without f gone h h' ∧
      Task.besides (fun f' => f' = f) h.tasks = rest) x)
    (hy : ∀ h h', Without f gone h h' → ∃ level text, y h' = say level text h') :
    Matches Eq (Without f gone) x y := by
  intro h h' h0
  obtain ⟨level, text, hsay⟩ := hy h h' h0
  rw [hsay]
  exact ⟨rfl, without_say (hx h' _ h ⟨h0, rfl⟩).1 level text⟩

/-! ### Back to top -/

theorem matches_syncGate (hne : .backToTop ≠ f) (i : Nat) :
    Matches Eq (Without f gone) (syncGate i) (syncGate i) := by
  have hoffset : Matches Eq (Without f gone) scrollOffset scrollOffset :=
    matches_attempt (fun h h' h0 =>
      ⟨congrArg (Except.ok : _ → Except Thrown Binary64) h0.scrollY.symm, h0⟩) _
  refine hoffset.then fun offset => ?_
  intro h h' h0
  have hgates : h'.gates = h.gates.map (ButtonGate.renumber gone) :=
    h0.gates.trans (if_neg (Ne.symm hne))
  rw [bind_apply, get_apply, bind_apply, get_apply, hgates, List.getElem?_map]
  cases hgate : h.gates[i]? with
  | none => exact ⟨rfl, h0⟩
  | some b =>
    have hbutton : gone b.button = false := (h0.buttons b (List.mem_of_getElem? hgate)).kept hne
    have hmoved : ∀ gate, Matches Eq (Without f gone)
        (modify fun h : Host => { h with gates := h.gates.modify i fun g => { g with gate } })
        (modify fun h : Host => { h with gates := h.gates.modify i fun g => { g with gate } }) := by
      refine fun gate => matches_modify fun h h' h0 => { h0 with gates := ?_, buttons := ?_ }
      · have hmodify : (h.gates.map (ButtonGate.renumber gone)).modify i (fun g => { g with gate }) =
            (h.gates.modify i fun g => { g with gate }).map (ButtonGate.renumber gone) :=
          map_modify_of_mem (by intro g _; rfl) i
        rw [if_neg (Ne.symm hne), h0.gates, if_neg (Ne.symm hne)]
        exact hmodify
      · intro g hg
        rcases mem_modify hg with hg | ⟨g', hg', rfl⟩
        · exact h0.buttons g hg
        · exact h0.buttons g' hg'
    obtain ⟨answer, gate, hupdate⟩ : ∃ answer gate,
        b.gate.update (offset.toOption.getD (.zero false)) = (answer, gate) := ⟨_, _, rfl⟩
    have hupdate' : (b.renumber gone).gate.update (offset.toOption.getD (.zero false)) =
        (answer, gate) := hupdate
    rw [Option.map_some]
    dsimp only
    rw [hupdate, hupdate']
    refine (hmoved gate).then (fun _ => ?_) h h' h0
    cases answer with
    | none => exact matches_pure rfl
    | some visible => exact matches_markClass hbutton isToken_visibleClass (by decide) visible

theorem matches_wireBackToTop {s : BackToTopSettings} (hs : s.elementId = "back-to-top") :
    Matches Eq (Without f gone) (wireBackToTop s) (wireBackToTop s) := by
  have hid : ∀ n : Node, Feature.backToTop.seeks n = (n.id? == some s.elementId) :=
    fun n => hs ▸ rfl
  by_cases hf : .backToTop = f
  · subst hf
    refine matches_own (fun h' rest => ?_) fun h h' h0 => ?_
    · exact Without.disregards.keeps_wireBackToTop rfl fun h0 => h0.1.splits_of_byId? _ hid
    · unfold wireBackToTop
      rw [bind_apply, get_apply, h0.byId?_eq_none hid]
      exact ⟨_, _, rfl⟩
  · intro h h' h0
    unfold wireBackToTop
    rw [bind_apply, get_apply, bind_apply, get_apply, h0.byId? _ hf hid]
    cases hbutton : h.byId? s.elementId with
    | none => exact matches_say _ _ h h' h0
    | some button =>
      have hkept : gone button = false := (h0.splits_of_byId? _ hid hbutton).kept hf
      have hlength : Matches (fun k k' : Host => k'.gates.length = k.gates.length)
          (Without f gone) get get := by
        refine fun k k' hk => ⟨?_, hk⟩
        show k'.gates.length = k.gates.length
        rw [hk.gates, if_neg (Ne.symm hf), List.length_map]
      have hgate : Matches Eq (Without f gone)
          (modify fun h : Host => { h with gates := h.gates ++ [⟨{ threshold := s.threshold }, button⟩] })
          (modify fun h : Host =>
            { h with gates := h.gates ++ [⟨{ threshold := s.threshold }, rank gone button⟩] }) := by
        refine matches_modify fun h h' h0 => { h0 with gates := ?_, buttons := ?_ }
        · rw [h0.gates, if_neg (Ne.symm hf), if_neg (Ne.symm hf), List.map_append]
          rfl
        · intro b hb
          rcases List.mem_append.mp hb with hb | hb
          · exact h0.buttons b hb
          · rw [List.mem_singleton.mp hb]
            exact splits_of_kept hkept hf
      have haside : ∀ handler : Handler, handler.isOf f = false := by
        simp [Handler.isOf, Ne.symm hf]
      rw [Option.map_some]
      refine (hlength.bind fun k k' hk => ?_) h h' h0
      rw [hk]
      exact hgate.then fun _ => (matches_syncGate hf _).then fun _ =>
        (matches_listen Target.isKept_window (haside (.follow _)) rfl).then fun _ =>
        matches_listen (Target.isKept_node hkept) (haside .scrollUp) rfl

/-! ### Coming into view -/

theorem matches_watch (hne : .reveal ≠ f) {F F' : List NodeId → List NodeId}
    (hF : ∀ l, (∀ j ∈ l, gone j = false) →
      F' (l.map (rank gone)) = (F l).map (rank gone) ∧ ∀ j ∈ F l, gone j = false) (o : Nat) :
    Matches Eq (Without f gone) (watch o F) (watch o F') := by
  refine matches_modify fun h h' h0 => { h0 with observers := ?_, watched := ?_ }
  · have hmodify : (h.observers.map (Observer.renumber gone)).modify o
        (fun ob => { ob with nodes := F' ob.nodes }) =
          (h.observers.modify o fun ob => { ob with nodes := F ob.nodes }).map
            (Observer.renumber gone) := by
      refine map_modify_of_mem (fun ob hob => ?_) o
      have hnodes := (hF ob.nodes fun j hj => (h0.watched ob hob j hj).kept hne).1
      exact congrArg (fun nodes => ({ ob with nodes } : Observer)) hnodes
    rw [if_neg (Ne.symm hne), h0.observers, if_neg (Ne.symm hne)]
    exact hmodify
  · intro ob hob j hj
    rcases mem_modify hob with hob | ⟨ob', hob', rfl⟩
    · exact h0.watched ob hob j hj
    · have hkept := (hF ob'.nodes fun j hj => (h0.watched ob' hob' j hj).kept hne).2 j hj
      exact splits_of_kept hkept hne

theorem matches_observe (hne : .reveal ≠ f) (hj : gone j = false) (o : Nat) :
    Matches Eq (Without f gone) (observe o j) (observe o (rank gone j)) := by
  refine (matches_record _ _).then fun _ => matches_watch hne (fun l hl => ?_) o
  rw [contains_map_rank hl hj]
  split
  · exact ⟨rfl, hl⟩
  · refine ⟨by rw [List.map_append]; rfl, fun i hi => ?_⟩
    rcases List.mem_append.mp hi with hi | hi
    · exact hl i hi
    · exact List.mem_singleton.mp hi ▸ hj

theorem matches_unobserve (hne : .reveal ≠ f) (hj : gone j = false) (o : Nat) :
    Matches Eq (Without f gone) (unobserve o j) (unobserve o (rank gone j)) :=
  (matches_record _ _).then fun _ => matches_watch hne
    (fun _ hl => ⟨filter_map_rank hl hj, fun i hi => hl i (List.mem_filter.mp hi).1⟩) o

theorem matches_makeObserver (hne : .reveal ≠ f) (threshold : Binary64) (step cap : UInt32) :
    Matches Eq (Without f gone) (makeObserver threshold step cap)
      (makeObserver threshold step cap) := by
  refine matches_attempt ((matches_record _ _).then fun _ => ?_) _
  have hlength : Matches (fun k k' : Host => k'.observers.length = k.observers.length)
      (Without f gone) get get := by
    refine fun k k' hk => ⟨?_, hk⟩
    show k'.observers.length = k.observers.length
    rw [hk.observers, if_neg (Ne.symm hne), List.length_map]
  refine hlength.bind fun k k' hk => ?_
  rw [hk]
  refine (matches_modify fun h h' h0 => { h0 with observers := ?_, watched := ?_ }).then
    fun _ => matches_pure rfl
  · rw [h0.observers, if_neg (Ne.symm hne), if_neg (Ne.symm hne), List.map_append]
    rfl
  · intro o ho j hj
    rcases List.mem_append.mp ho with ho | ho
    · exact h0.watched o ho j hj
    · rw [List.mem_singleton.mp ho] at hj
      cases hj

theorem matches_wireReveal {s : RevealSettings} (hs : s.selector = ".fade-in")
    (reducedMotion : Bool) :
    Matches Eq (Without f gone) (wireReveal s reducedMotion) (wireReveal s reducedMotion) := by
  have hsel : Selector.ofText? s.selector = some (.withClass "fade-in") := by
    rw [hs]
    decide +kernel
  by_cases hf : .reveal = f
  · refine matches_own (fun h' rest => ?_) fun h h' h0 => ?_
    · refine Without.disregards.keeps_wireReveal (decide_eq_true hf) ?_ reducedMotion
      intro h sel j h0 hsel' hj
      rw [hsel] at hsel'
      cases hsel'
      exact h0.1.splits_of_select hj
    · unfold wireReveal
      rw [bind_apply, querySelectorAll_of_sound h0.sound', hsel]
      dsimp only
      rw [h0.select_eq_nil hf.symm]
      exact ⟨_, _, rfl⟩
  · intro h h' h0
    unfold wireReveal
    rw [bind_apply, bind_apply, querySelectorAll_of_sound h0.sound,
      querySelectorAll_of_sound h0.sound', hsel]
    dsimp only
    rw [h0.select (Ne.symm hf)]
    cases htargets : h.select (.withClass "fade-in") with
    | nil => exact matches_say _ _ h h' h0
    | cons j rest =>
      have hkept : ∀ i ∈ j :: rest, gone i = false := fun i hi =>
        (h0.splits_of_select (htargets ▸ hi)).kept hf
      have hall : Matches Eq (Without f gone) (revealAll (j :: rest))
          (revealAll ((j :: rest).map (rank gone))) :=
        Matches.forM fun i hi => matches_markClass (hkept i hi) isToken_visibleClass (by decide) _
      rw [List.map_cons] at hall ⊢
      dsimp only
      cases reducedMotion with
      | true => exact hall h h' h0
      | false =>
        refine (matches_makeObserver hf _ _ _).then (fun made => ?_) h h' h0
        cases made with
        | error t => exact (matches_say _ _).then fun _ => hall
        | ok o => exact Matches.forM fun i hi => matches_observe hf (hkept i hi) o

/-- A batch of nodes that all come into view on both pages. -/
theorem matches_revealBatch (hne : .reveal ≠ f) {batch : List Sighting}
    (hkept : ∀ s ∈ batch, s.IsKept gone) (o : Nat) (step cap : UInt32) (k : Nat) :
    Matches Eq (Without f gone) (revealBatch o step cap k batch)
      (revealBatch o step cap k (batch.map (Sighting.renumber gone))) := by
  induction batch generalizing k with
  | nil => exact matches_pure rfl
  | cons s rest ih =>
    have hrest := ih fun u hu => hkept u (List.mem_cons_of_mem s hu)
    cases s with
    | other => exact hrest k
    | entry j inView =>
      have hj : gone j = false := hkept _ List.mem_cons_self j inView rfl
      cases inView with
      | false => exact hrest k
      | true =>
        have hshow : Matches Eq (Without f gone)
            (do
              markClass j visibleClass true
              unobserve o j
              revealBatch o step cap (k + 1) rest)
            (do
              markClass (rank gone j) visibleClass true
              unobserve o (rank gone j)
              revealBatch o step cap (k + 1) (rest.map (Sighting.renumber gone))) :=
          (matches_markClass hj isToken_visibleClass (by decide) true).then fun _ =>
            (matches_unobserve hne hj o).then fun _ => hrest (k + 1)
        rw [List.map_cons, Sighting.renumber, revealBatch, revealBatch]
        refine (matches_node hj).then fun n => ?_
        split
        · exact (matches_setStyle hj _ _).then fun _ => hshow
        · exact hshow

theorem matches_sight (hne : .reveal ≠ f) {batch : List Sighting}
    (hkept : ∀ s ∈ batch, s.IsKept gone) (o : Nat) :
    Matches Eq (Without f gone) (sight o batch) (sight o (batch.map (Sighting.renumber gone))) := by
  intro h h' h0
  have hobservers : h'.observers = h.observers.map (Observer.renumber gone) :=
    h0.observers.trans (if_neg (Ne.symm hne))
  unfold sight
  rw [bind_apply, get_apply, bind_apply, get_apply, hobservers, List.getElem?_map]
  cases hob : h.observers[o]? with
  | none => exact ⟨rfl, h0⟩
  | some ob =>
    have hnodes : ∀ j ∈ ob.nodes, gone j = false := fun j hj =>
      (h0.watched ob (List.mem_of_getElem? hob) j hj).kept hne
    have hseen : (batch.map (Sighting.renumber gone)).filter (Sighting.reaches (ob.renumber gone)) =
        (batch.filter (Sighting.reaches ob)).map (Sighting.renumber gone) := by
      rw [List.filter_map]
      refine congrArg _ (List.filter_congr fun s hs => ?_)
      cases s with
      | other => rfl
      | entry j inView => exact contains_map_rank hnodes (hkept _ hs j inView rfl)
    rw [Option.map_some]
    dsimp only
    rw [hseen, List.length_map]
    exact ((matches_revealBatch hne (fun s hs => hkept s (List.mem_filter.mp hs).1) _ _ _ _).then
      fun _ => matches_pure rfl) h h' h0

/-! ### Typing and last update -/

theorem matches_spawn {t : Task} (hne : t.feature ≠ f) (ht : gone t.node = false) :
    Matches Eq (Without f gone) (spawn t) (spawn (t.renumber gone)) := by
  refine matches_modify fun h h' h0 => ?_
  have hwrites : ∀ u ∈ h.tasks ++ [t], Splits f gone u.feature u.node := by
    intro u hu
    rcases List.mem_append.mp hu with hu | hu
    · exact h0.writes u hu
    · rw [List.mem_singleton.mp hu]
      exact splits_of_kept ht hne
  have hbesides : (Task.besides (fun f' => f' = f) (h.tasks ++ [t])).map (Task.renumber gone) =
      h'.tasks ++ [t.renumber gone] := by
    rw [h0.tasks, Task.besides_append, List.map_append,
      @Task.besides_cons_of_false t (fun f' => f' = f) (decide_eq_false hne)]
    rfl
  rw [← hbesides]
  exact h0.withTasks hwrites

theorem matches_wireTyping {s : TypingSettings} (hs : s.elementId = "tagline")
    (reducedMotion : Bool) :
    Matches Eq (Without f gone) (wireTyping s reducedMotion) (wireTyping s reducedMotion) := by
  have hid : ∀ n : Node, Feature.typing.seeks n = (n.id? == some s.elementId) := fun n => hs ▸ rfl
  by_cases hf : .typing = f
  · subst hf
    refine matches_own (fun h' rest => ?_) fun h h' h0 => ?_
    · exact Without.disregards.keeps_wireTyping rfl (fun h0 => h0.1.splits_of_byId? _ hid)
        reducedMotion
    · unfold wireTyping
      rw [bind_apply, get_apply, h0.byId?_eq_none hid]
      exact ⟨_, _, rfl⟩
  · intro h h' h0
    unfold wireTyping
    rw [bind_apply, get_apply, bind_apply, get_apply, h0.byId? _ hf hid]
    cases htagline : h.byId? s.elementId with
    | none => exact matches_say _ _ h h' h0
    | some i =>
      have hkept : gone i = false := (h0.splits_of_byId? _ hid htagline).kept hf
      refine (matches_node hkept).then (fun n => ?_) h h' h0
      dsimp only
      split
      · exact matches_pure rfl
      · exact (matches_setText hkept "").then fun _ =>
          matches_spawn (t := .typing i s.delay (.ofText (Text.trim n.text)) .ready) hf hkept

theorem matches_wireCommits {s : CommitSettings} (hs : s.elementId = "last-updated") :
    Matches Eq (Without f gone) (wireCommits s) (wireCommits s) := by
  have hid : ∀ n : Node, Feature.commits.seeks n = (n.id? == some s.elementId) := fun n => hs ▸ rfl
  by_cases hf : .commits = f
  · subst hf
    refine matches_own (fun h' rest => ?_) fun h h' h0 => ?_
    · exact Without.disregards.keeps_wireCommits rfl fun h0 => h0.1.splits_of_byId? _ hid
    · unfold wireCommits
      rw [bind_apply, get_apply, h0.byId?_eq_none hid]
      cases hurl : lastUpdatedUrl s (none : Option NodeId).isSome with
      | error skip => exact ⟨_, _, rfl⟩
      | ok url =>
        -- without an element nothing is asked
        unfold lastUpdatedUrl at hurl
        split at hurl <;> cases hurl
  · intro h h' h0
    unfold wireCommits
    rw [bind_apply, get_apply, bind_apply, get_apply, h0.byId? _ hf hid, Option.isSome_map]
    cases lastUpdatedUrl s (h.byId? s.elementId).isSome with
    | error skip => exact matches_say _ _ h h' h0
    | ok url =>
      cases helement : h.byId? s.elementId with
      | none => exact ⟨rfl, h0⟩
      | some i =>
        have hkept : gone i = false := (h0.splits_of_byId? _ hid helement).kept hf
        have hbehind : Matches (fun k k' : Host => k'.minutesBehind = k.minutesBehind)
            (Without f gone) get get := fun k k' hk => ⟨hk.minutesBehind, hk⟩
        refine (hbehind.bind fun k k' hk => ?_) h h' h0
        rw [hk]
        exact matches_spawn
          (t := .commit i url (offsetOfMinutesBehind k.minutesBehind) .ready) hf hkept

/-! ### One task -/

theorem matches_awaitKey (hne : .typing ≠ f) (i : NodeId) (delay : UInt32) (writer : Typewriter) :
    Matches (fun left left' => left' = left.map (Task.renumber gone)) (Without f gone)
      (awaitKey i delay writer) (awaitKey (rank gone i) delay writer) := by
  have htimer : Matches Eq (Without f gone) (makeTimer delay) (makeTimer delay) := by
    refine (matches_record _ _).then fun _ h h' h0 => ?_
    obtain ⟨hnow, hmade⟩ := h0.clock (Ne.symm hne)
    refine ⟨?_, { h0 with clock := fun _ => ⟨hnow, congrArg (· + 1) hmade⟩ }⟩
    show (h.now + delay.toNat, h.timersMade) = (h'.now + delay.toNat, h'.timersMade)
    rw [hnow, hmade]
  unfold awaitKey
  split
  · exact matches_pure rfl
  · exact htimer.then fun _ => matches_pure rfl

theorem matches_receive (d : Delivery) :
    Matches Eq (Without f gone) (receive d) (receive d) := by
  cases d with
  | failure reason => exact matches_pure rfl
  | reply status body =>
    rw [receive]
    split
    · exact (matches_record _ _).then fun _ => matches_pure rfl
    · exact matches_pure rfl
  | brokenBody status reason =>
    rw [receive]
    split
    · exact (matches_record _ _).then fun _ => matches_pure rfl
    · exact matches_pure rfl

theorem matches_refresh (hi : gone i = false) (brought : Except FetchFault Reply) (url : String)
    (offset : Int) :
    Matches Eq (Without f gone) ((commitPort i brought).refresh url offset)
      ((commitPort (rank gone i) brought).refresh url offset) := by
  have hasked : Matches Eq (Without f gone) (pure brought) (pure brought) := matches_pure rfl
  refine hasked.then fun answer => ?_
  unfold CommitPort.conclude
  obtain ⟨status, messages, hjudged⟩ : ∃ status messages, classify answer = (status, messages) :=
    ⟨_, _, rfl⟩
  rw [hjudged]
  dsimp only
  refine (Matches.forM_same fun e _ => matches_say e.level e.text).then fun _ => ?_
  cases status.render offset with
  | error overrun => exact matches_pure rfl
  | ok text => exact (matches_setText hi text).then fun _ => matches_pure rfl

/-- A task of another feature: what is left of it goes on with the same node. -/
theorem matches_runTask {t : Task} (hne : t.feature ≠ f) (ht : gone t.node = false) :
    Matches (fun out out' => out' = (out.1.map (Task.renumber gone), out.2)) (Without f gone)
      (runTask t) (runTask (t.renumber gone)) := by
  have hkey : ∀ {i delay writer}, (.typing : Feature) ≠ f →
      Matches (fun out out' => out' = (out.1.map (Task.renumber gone), out.2)) (Without f gone)
        (do return (← awaitKey i delay writer, (none : Option Overrun)))
        (do return (← awaitKey (rank gone i) delay writer, (none : Option Overrun))) :=
    fun hne => (matches_awaitKey hne _ _ _).bind fun _ _ hleft =>
      matches_pure (congrArg (·, none) hleft)
  cases t with
  | typing i delay writer phase =>
    cases phase with
    | ready => exact hkey hne
    | waiting deadline age => exact matches_pure rfl
    | woken =>
      rw [Task.renumber, runTask, runTask]
      split
      · exact matches_pure rfl
      · exact (matches_setText ht _).then fun _ => hkey hne
  | commit i url offset phase =>
    cases phase with
    | ready => exact (matches_record _ _).then fun _ => matches_pure rfl
    | waiting => exact matches_pure rfl
    | answered d =>
      refine (matches_receive d).then fun brought => (matches_refresh ht _ _ _).then ?_
      intro outcome
      cases outcome with
      | error overrun => exact matches_pure rfl
      | ok status => exact (matches_say _ _).then fun _ => matches_pure rfl

/-! ### All tasks -/

/-- The same tasks one after the other, but for those of the feature.  As long as these wait,
    a breakdown comes on both pages or on none. -/
theorem without_mapM {l : List Task} (hl : ∀ t ∈ l, Splits f gone t.feature t.node) {h h' : Host}
    (h0 : Without f gone h h') :
    let l' := (Task.besides (fun f' => f' = f) l).map (Task.renumber gone)
    Without f gone (l.mapM runTask h).2 (l'.mapM runTask h').2 ∧
      leftovers (l'.mapM runTask h').1 =
        (Task.besides (fun f' => f' = f) (leftovers (l.mapM runTask h).1)).map
          (Task.renumber gone) ∧
      ((∀ t ∈ l, t.feature = f → t.isIdle = true) →
        (l'.mapM runTask h').1.findSome? Prod.snd = (l.mapM runTask h).1.findSome? Prod.snd) := by
  induction l generalizing h h' with
  | nil => exact ⟨h0, rfl, fun _ => rfl⟩
  | cons t rest ih =>
    have hrest : ∀ u ∈ rest, Splits f gone u.feature u.node := fun u hu =>
      hl u (List.mem_cons_of_mem t hu)
    intro l'
    rw [leftovers_cons, Task.besides_append, besides_outcome, overrun_cons, List.mapM_cons]
    by_cases hf : t.feature = f
    · -- the task is of the feature and runs on the one page only
      have hown : (fun f' => decide (f' = f)) t.feature = true := decide_eq_true hf
      have hsame : l' = (Task.besides (fun f' => f' = f) rest).map (Task.renumber gone) :=
        congrArg (List.map _) (Task.besides_cons_of_true hown rest)
      have hrun := (Without.disregards.keeps_runTask hown
        (hl t List.mem_cons_self) h ⟨h0, rfl⟩).1
      obtain ⟨hwithout, hleft, hbroken⟩ := ih hrest hrun
      rw [hsame, if_pos hown]
      refine ⟨hwithout, hleft, fun hidle => ?_⟩
      rw [hbroken fun u hu => hidle u (List.mem_cons_of_mem t hu),
        runTask_idle (hidle t List.mem_cons_self hf)]
      rfl
    · have hother : (fun f' => decide (f' = f)) t.feature = false := decide_eq_false hf
      have hsame : l' = t.renumber gone ::
          (Task.besides (fun f' => f' = f) rest).map (Task.renumber gone) :=
        congrArg (List.map _) (Task.besides_cons_of_false hother rest)
      obtain ⟨hout, hrun⟩ := matches_runTask hf ((hl t List.mem_cons_self).kept hf) h h' h0
      obtain ⟨hwithout, hleft, hbroken⟩ := ih hrest hrun
      rw [hsame, if_neg (by simp [hf]), leftovers_cons, overrun_cons,
        List.mapM_cons, hleft, List.map_append, hout]
      refine ⟨hwithout, ?_, fun hidle => ?_⟩
      · cases (runTask t h).1.1 <;> rfl
      · rw [hbroken fun u hu => hidle u (List.mem_cons_of_mem t hu)]

theorem without_runTasks {h h' : Host} (h0 : Without f gone h h') :
    Without f gone (runTasks h).2 (runTasks h').2 ∧
      ((∀ t ∈ h.tasks, t.feature = f → t.isIdle = true) → (runTasks h').1 = (runTasks h).1) := by
  obtain ⟨hwithout, hleft, hbroken⟩ := without_mapM h0.writes h0
  have hwrites : ∀ t' ∈ leftovers (h.tasks.mapM runTask h).1,
      Splits f gone t'.feature t'.node := by
    intro t' ht'
    obtain ⟨t, ht, hsame, -⟩ := left_mapM t' ht'
    rw [hsame.feature, hsame.node]
    exact h0.writes t ht
  rw [← h0.tasks] at hwithout hleft hbroken
  have htasks := hwithout.withTasks hwrites
  rw [← hleft] at htasks
  exact ⟨htasks, hbroken⟩

/-! ### Time and replies -/

/-- The two pages, while the tasks of the feature wait. -/
def AsideCalm (f : Feature) (gone : NodeId → Bool) (h h' : Host) : Prop :=
  Without f gone h h' ∧ ∀ t ∈ h.tasks, t.feature = f → t.isIdle = true

theorem matches_fire (hne : .typing ≠ f) (deadline age : Nat) :
    Matches Eq (AsideCalm f gone) (fire deadline age) (fire deadline age) := by
  refine Matches.then (matches_modify fun h h' h0 => ?_) fun _ h h' h0 => ?_
  · obtain ⟨hwithout, hidle⟩ := h0
    have hwake : ∀ t : Task, (t.wake age).renumber gone = (t.renumber gone).wake age := by
      intro t
      cases t with
      | commit i url offset phase => rfl
      | typing i delay writer phase =>
        cases phase with
        | waiting deadline a =>
          rw [Task.renumber, Task.wake, Task.wake]
          split <;> rfl
        | _ => rfl
    refine ⟨{ hwithout with clock := ?_, tasks := ?_, writes := ?_ }, ?_⟩
    · exact fun hf => ⟨rfl, (hwithout.clock hf).2⟩
    · show h'.tasks.map _ = (Task.besides _ (h.tasks.map _)).map _
      rw [hwithout.tasks, Task.besides_map fun t => (Task.sameWriter_wake age t).feature,
        List.map_map, List.map_map]
      exact List.map_congr_left fun t _ => (hwake t).symm
    · intro t' ht'
      obtain ⟨t, ht, rfl⟩ := List.mem_map.mp ht'
      have hsame := Task.sameWriter_wake age t
      rw [hsame.feature, hsame.node]
      exact hwithout.writes t ht
    · intro t' ht' hf
      obtain ⟨t, ht, rfl⟩ := List.mem_map.mp ht'
      rw [(Task.sameWriter_wake age t).feature] at hf
      rw [Task.wake_of_ne_typing (fun htyping => hne (htyping.symm.trans hf))]
      exact hidle t ht hf
  · obtain ⟨hwithout, hbroken⟩ := without_runTasks h0.1
    exact ⟨(hbroken h0.2).symm, hwithout, fun t ht _ => isIdle_runTasks t ht⟩

/-- The timers are those of typing, and so are the characters left. -/
theorem timers_without (hne : .typing ≠ f) {h h' : Host} (h0 : Without f gone h h') :
    h'.firstTimer? = h.firstTimer? ∧ h'.keysLeft = h.keysLeft := by
  have htimer : Task.timer? ∘ Task.renumber gone = Task.timer? := by
    funext t
    cases t with
    | typing i delay writer phase => cases phase <;> rfl
    | commit i url offset phase => rfl
  have hleft : ∀ t : Task, (t.renumber gone).left = t.left := by
    intro t
    cases t <;> rfl
  have htyping : (fun f' => decide (f' = f)) .typing = false := decide_eq_false hne
  constructor
  · unfold firstTimer?
    rw [h0.tasks, List.filterMap_map, htimer, @Task.filterMap_besides (fun f' => f' = f) htyping]
  · unfold keysLeft
    rw [h0.tasks, List.foldr_map, ← @Task.foldr_besides (fun f' => f' = f) htyping h.tasks]
    exact congrArg (fun g => List.foldr g 0 _) (funext fun t => by rw [hleft])

theorem matches_fireDue (hne : .typing ≠ f) (limit n : Nat) :
    Matches Eq (AsideCalm f gone) (fireDue limit n) (fireDue limit n) := by
  induction n with
  | zero => exact matches_pure rfl
  | succ n ih =>
    have hfirst : Matches (fun k k' : Host => k'.firstTimer? = k.firstTimer?) (AsideCalm f gone)
        get get := fun k k' hk => ⟨(timers_without hne hk.1).1, hk⟩
    refine hfirst.bind fun k k' hk => ?_
    rw [hk]
    cases k.firstTimer? with
    | none => exact matches_pure rfl
    | some timer =>
      dsimp only
      split
      · exact matches_pure rfl
      · refine (matches_fire hne _ _).then ?_
        intro broken
        cases broken with
        | some overrun => exact matches_pure rfl
        | none => exact ih

theorem matches_elapse (hne : .typing ≠ f) (ms : Nat) :
    Matches Eq (AsideCalm f gone) (elapse ms) (elapse ms) := by
  have hclock : Matches (fun k k' : Host => k'.now = k.now ∧ k'.keysLeft = k.keysLeft)
      (AsideCalm f gone) get get :=
    fun k k' hk => ⟨⟨(hk.1.clock (Ne.symm hne)).1, (timers_without hne hk.1).2⟩, hk⟩
  refine hclock.bind fun k k' hk => ?_
  rw [hk.1, hk.2]
  refine (matches_fireDue hne _ _).then fun broken => ?_
  refine (matches_modify fun h h' h0 => ?_).then fun _ => matches_pure rfl
  exact ⟨{ h0.1 with clock := fun hf => ⟨rfl, (h0.1.clock hf).2⟩ }, h0.2⟩

theorem answerFirst_map_renumber (d : Delivery) (l : List Task) :
    answerFirst d (l.map (Task.renumber gone)) =
      (answerFirst d l).map (List.map (Task.renumber gone)) := by
  have hanswer : ∀ t : Task,
      (t.renumber gone).answer? d = (t.answer? d).map (Task.renumber gone) := by
    intro t
    cases t with
    | typing i delay writer phase => rfl
    | commit i url offset phase => cases phase <;> rfl
  induction l with
  | nil => rfl
  | cons t rest ih =>
    rw [List.map_cons, answerFirst, answerFirst, hanswer, ih]
    cases t.answer? d with
    | some t' => rfl
    | none => cases answerFirst d rest <;> rfl

theorem matches_respond (hne : .commits ≠ f) (d : Delivery) :
    Matches Eq (Without f gone) (respond d) (respond d) := by
  intro h h' h0
  have hcommits : (fun f' => decide (f' = f)) .commits = false := decide_eq_false hne
  have hanswer : answerFirst d h'.tasks = ((answerFirst d h.tasks).map
      (Task.besides fun f' => f' = f)).map (List.map (Task.renumber gone)) := by
    rw [h0.tasks, answerFirst_map_renumber, answerFirst_besides_comm hcommits]
  unfold respond
  rw [bind_apply, get_apply, bind_apply, get_apply, hanswer]
  cases hfirst : answerFirst d h.tasks with
  | none => exact ⟨rfl, h0⟩
  | some l =>
    refine ⟨rfl, h0.withTasks fun t' ht' => ?_⟩
    obtain ⟨t, ht, hsame⟩ := sameWriter_answerFirst hfirst t' ht'
    rw [hsame.feature, hsame.node]
    exact h0.writes t ht

end HostM

end Enhance
