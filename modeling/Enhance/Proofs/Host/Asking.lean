/-
  Enhance/Proofs/Host/Asking.lean
  ===============================
  **What is asked about the newest commit, and what is shown of the answer.**

  A page that names a repository and has the element asks once, when it is
  enhanced; the request waits while the visitor goes about, and the reply leads
  to one text on the element.  What went wrong first decides which: a reply that
  is no success is not even read (`asking_run`).
-/
import Enhance.Proofs.Commit.Refresh
import Enhance.Proofs.Host.Standing

namespace Enhance

/-! ### What the network brings -/

namespace Delivery

/-- The status of a reply. -/
def status? : Delivery → Option UInt16
  | reply status _ => some status
  | brokenBody status _ => some status
  | failure _ => none

/-- The body of a reply, if it can be read. -/
def body? : Delivery → Option String
  | reply _ body => some body
  | _ => none

/-- Whether a reply came that is a success. -/
def isSuccess (d : Delivery) : Bool := d.status?.any fun status => Reply.ok ⟨status, ""⟩

/-- What is made of a delivery before it is judged. -/
def brought : Delivery → Except FetchFault Reply
  | reply status body => .ok ⟨status, if Reply.ok ⟨status, ""⟩ then body else ""⟩
  | brokenBody status reason =>
    if Reply.ok ⟨status, ""⟩ then .error (.body reason) else .ok ⟨status, ""⟩
  | failure reason => .error (.request reason)

/-- What a delivery comes down to: without a reply nothing, without a success nothing of use,
    and then it depends on the body. -/
def verdict (d : Delivery) : CommitStatus :=
  if d.status? = none then .unreachable
  else if d.isSuccess then
    match d.body?.map readNewest with
    | some (.ok t) => .known t
    | _ => .unreachable
  else .unavailable

theorem classify_brought (d : Delivery) : (classify d.brought).1 = d.verdict := by
  have hok : ∀ status body, Reply.ok ⟨status, body⟩ = Reply.ok ⟨status, ""⟩ := fun _ _ => rfl
  cases d with
  | failure reason => rfl
  | reply status body =>
    cases hstatus : Reply.ok ⟨status, ""⟩ with
    | false => simp [brought, classify, verdict, status?, isSuccess, hstatus]
    | true =>
      cases hnewest : readNewest body <;>
        simp [brought, classify, verdict, status?, body?, isSuccess, hstatus, hok status body, hnewest]
  | brokenBody status reason =>
    cases hstatus : Reply.ok ⟨status, ""⟩ <;>
      simp [brought, classify, verdict, status?, body?, isSuccess, hstatus]

/-- A success is a reply with a status from 200 to 299. -/
theorem isSuccess_iff {d : Delivery} :
    d.isSuccess = true ↔ ∃ status, d.status? = some status ∧ 200 ≤ status ∧ status < 300 := by
  simp [isSuccess, Option.any_eq_true, Reply.ok]

/-- No reply comes, or no success, or one that cannot be read, or a time. -/
theorem verdict_cases (d : Delivery) :
    (d.status? = none ∧ d.isSuccess = false ∧ d.verdict = .unreachable) ∨
    (∃ status, d.status? = some status ∧ d.isSuccess = false ∧ d.verdict = .unavailable) ∨
    (d.isSuccess = true ∧ (∀ body, d.body? = some body → ∃ fault, readNewest body = .error fault) ∧
      d.verdict = .unreachable) ∨
    ∃ body t, d.isSuccess = true ∧ d.body? = some body ∧ readNewest body = .ok t ∧
      d.verdict = .known t := by
  unfold verdict
  cases hstatus : d.status? with
  | none => exact .inl ⟨rfl, by simp [isSuccess, hstatus], rfl⟩
  | some status =>
    rw [if_neg (by simp)]
    cases hsuccess : d.isSuccess with
    | false => exact .inr (.inl ⟨status, rfl, rfl, rfl⟩)
    | true =>
      rw [if_pos rfl]
      cases hbody : d.body? with
      | none => exact .inr (.inr (.inl ⟨rfl, (fun _ h => nomatch h), rfl⟩))
      | some body =>
        rw [Option.map_some]
        cases hnewest : readNewest body with
        | error fault =>
          refine .inr (.inr (.inl ⟨rfl, ?_, rfl⟩))
          rintro _ ⟨⟩
          exact ⟨fault, hnewest⟩
        | ok t => exact .inr (.inr (.inr ⟨body, t, rfl, rfl, hnewest, rfl⟩))

/-- Unless a time cannot be shown, there is a text to show. -/
theorem exists_text {d : Delivery} {offset : Int}
    (hrenders : ∀ body t, d.isSuccess = true → d.body? = some body → readNewest body = .ok t →
      ∃ text, showTime t offset = .ok text) : ∃ text, d.verdict.render offset = .ok text := by
  rcases d.verdict_cases with ⟨-, -, hverdict⟩ | ⟨status, -, -, hverdict⟩ | ⟨-, -, hverdict⟩ |
    ⟨body, t, hsuccess, hbody, hnewest, hverdict⟩
  · exact ⟨_, congrArg (CommitStatus.render offset) hverdict⟩
  · exact ⟨_, congrArg (CommitStatus.render offset) hverdict⟩
  · exact ⟨_, congrArg (CommitStatus.render offset) hverdict⟩
  · rw [hverdict]
    exact hrenders body t hsuccess hbody hnewest

/-- A time is shown at greater length than either remark. -/
theorem ne_remark_of_showTime {t : Timestamp} {offset : Int} {text : String}
    (ht : showTime t offset = .ok text) : text ≠ "API unavailable" ∧ text ≠ "Unable to fetch" := by
  have hlength := length_of_showTime ht
  constructor
  · rintro rfl
    exact absurd hlength (by decide)
  · rintro rfl
    exact absurd hlength (by decide)

theorem refused_iff {d : Delivery} :
    (∃ status, d.status? = some status ∧ ¬ (200 ≤ status ∧ status < 300)) ↔
      d.status? ≠ none ∧ d.isSuccess = false := by
  cases hstatus : d.status? <;> simp [isSuccess, hstatus, Reply.ok]

/-- Each of the two remarks is made for its own reason, and for no other. -/
theorem text_of_verdict {d : Delivery} {offset : Int} {text : String}
    (hrender : d.verdict.render offset = .ok text) :
    (text = "API unavailable" ↔
      ∃ status, d.status? = some status ∧ ¬ (200 ≤ status ∧ status < 300)) ∧
    (text = "Unable to fetch" ↔ d.status? = none ∨ (d.isSuccess = true ∧
      ∀ body, d.body? = some body → ∃ fault, readNewest body = .error fault)) ∧
    (∀ body t, d.isSuccess = true → d.body? = some body → readNewest body = .ok t →
      showTime t offset = .ok text) := by
  rw [refused_iff]
  rcases d.verdict_cases with ⟨hstatus, hno, hverdict⟩ | ⟨status, hstatus, hno, hverdict⟩ |
    ⟨hsuccess, hunread, hverdict⟩ | ⟨body, t, hsuccess, hbody, hnewest, hverdict⟩
  · rw [hverdict] at hrender
    cases hrender
    simp [hstatus, hno]
  · rw [hverdict] at hrender
    cases hrender
    simp [hstatus, hno]
  · rw [hverdict] at hrender
    cases hrender
    refine ⟨by simp [hsuccess], iff_of_true rfl (.inr ⟨hsuccess, hunread⟩), ?_⟩
    intro body t _ hbody hnewest
    obtain ⟨fault, hfault⟩ := hunread body hbody
    rw [hfault] at hnewest
    cases hnewest
  · have hshow : showTime t offset = .ok text := by
      rw [hverdict] at hrender
      exact hrender
    obtain ⟨hone, htwo⟩ := ne_remark_of_showTime hshow
    obtain ⟨status, hstatus, -⟩ := isSuccess_iff.mp hsuccess
    refine ⟨by simp [hone, hsuccess], by simp [htwo, hstatus, hbody, hnewest], ?_⟩
    intro body' t' _ hbody' hnewest'
    obtain rfl : body = body' := Option.some.inj (hbody.symm.trans hbody')
    obtain rfl : t = t' := Except.ok.inj (hnewest.symm.trans hnewest')
    exact hshow

end Delivery

namespace HostM

open Host

variable {g h : Host} {i : NodeId} {d : Delivery} {url : String} {offset : Int} {shown : String}

/-! ### One answer -/

theorem receive_eq (d : Delivery) (h : Host) :
    receive d h = (d.brought, if d.isSuccess then h.noted .readBody else h) := by
  have hsome : ∀ status, (some status).any (fun s => Reply.ok ⟨s, ""⟩) = Reply.ok ⟨status, ""⟩ :=
    fun _ => rfl
  unfold Delivery.isSuccess
  cases d with
  | failure reason => rfl
  | reply status body =>
    rw [Delivery.status?, hsome, receive, isOkStatus_eq_ok status "", Delivery.brought]
    cases Reply.ok ⟨status, ""⟩ <;> rfl
  | brokenBody status reason =>
    rw [Delivery.status?, hsome, receive, isOkStatus_eq_ok status "", Delivery.brought]
    cases Reply.ok ⟨status, ""⟩ <;> rfl

theorem forM_say_eq (b : Except FetchFault Reply) (l : List Log.Entry) (h : Host) :
    ∃ log, l.forM (commitPort i b).say h = ((), { h with log }) := by
  induction l generalizing h with
  | nil => exact ⟨h.log, rfl⟩
  | cons e rest ih =>
    obtain ⟨log, hsay⟩ := say_eq (h := h) e.level e.text
    obtain ⟨log', hrest⟩ := ih { h with log }
    refine ⟨log', ?_⟩
    show (do say e.level e.text; rest.forM (commitPort i b).say : HostM Unit) h = _
    rw [bind_apply, hsay]
    exact hrest

/-- An answer that can be shown is shown once; the body is read before if there is a success. -/
theorem runTask_answered (hrender : d.verdict.render offset = .ok shown) (h : Host) :
    ∃ log, runTask (.commit i url offset (.answered d)) h = ((none, none),
      { (((if d.isSuccess then h.noted .readBody else h).noted (.setText i shown)).edit i
        fun n => n.setText shown) with log }) := by
  obtain ⟨h1, hh1⟩ : ∃ h1, (if d.isSuccess then h.noted .readBody else h) = h1 := ⟨_, rfl⟩
  obtain ⟨messages, hjudged⟩ : ∃ messages, classify d.brought = (d.verdict, messages) :=
    ⟨_, Prod.ext d.classify_brought rfl⟩
  obtain ⟨log, hsay⟩ := forM_say_eq (i := i) d.brought messages h1
  have hconclude : (commitPort i d.brought).refresh url offset h1 = (.ok d.verdict,
      ({ h1 with log }.noted (.setText i shown)).edit i fun n => n.setText shown) := by
    show (commitPort i d.brought).conclude offset d.brought h1 = _
    unfold CommitPort.conclude
    rw [hjudged]
    dsimp only
    rw [bind_apply, hsay, hrender]
    rfl
  obtain ⟨log', hlast⟩ := say_eq (h := ({ h1 with log }.noted (.setText i shown)).edit i
    fun n => n.setText shown) .debug ("last commit status: " ++ d.verdict.logText)
  refine ⟨log', ?_⟩
  rw [runTask, bind_apply, receive_eq, hh1, bind_apply, hconclude]
  show ((none, none), (say _ _ _).2) = _
  rw [hlast]
  rfl

end HostM

namespace Host

/-- The repository that the body names, if it names one. -/
def repo? (h : Host) : Option String :=
  (h.body?.bind fun i =>
    presentValue? ((h.nodeAt i).attributes.get? "data-commit-repo")).filter isRepo

/-- The request that a page has a reason to make, in this phase. -/
def request? (h : Host) (phase : CommitPhase) : Option Task :=
  match h.repo?, h.byId? "last-updated" with
  | some repo, some i =>
    some (.commit i (commitsUrl "https://api.github.com" repo)
      (offsetOfMinutesBehind h.minutesBehind) phase)
  | _, _ => none

variable {g h : Host} {i : NodeId} {work : List Task} {calls : List Call} {text : String}

theorem worksOn_commits : WorksOn g .commits (g.byId? "last-updated") :=
  ⟨.inr rfl, fun _ hi => hi⟩

theorem Pristine.stands (h0 : g.Pristine) (hi : ∀ i, g.byId? "last-updated" = some i →
    (g.nodeAt i).text = text) : Stands g .commits (g.byId? "last-updated") []
      (g.trace.filter (Call.concerns .commits (g.byId? "last-updated"))) text g where
  toArranged := h0.resting.toArranged
  left := by
    rw [h0.tasks]
    rfl
  made := rfl
  shown := hi
  behind := rfl
  once := by
    rw [h0.listeners]
    exact fun l hl => nomatch hl

/-- A text set on the element. -/
theorem Stands.shows (hi : g.byId? "last-updated" = some i)
    (h0 : Stands g .commits (g.byId? "last-updated") work calls text h) (shown : String) :
    Stands g .commits (g.byId? "last-updated") work (calls ++ [.setText i shown]) shown
      ((h.noted (.setText i shown)).edit i fun n => n.setText shown) := by
  have hown : Call.concerns .commits (g.byId? "last-updated") (.setText i shown) = true :=
    decide_eq_true hi
  have hcalled := h0.called hown
  refine { hcalled with
    toArranged := hcalled.toArranged.edit fun _ => ⟨⟨rfl, rfl⟩, rfl⟩, shown := ?_ }
  intro j hj
  obtain rfl : i = j := Option.some.inj (hi.symm.trans hj)
  have hlt : i < (h.noted (.setText i shown)).nodes.length :=
    Nat.lt_of_lt_of_le (lt_of_byId? hi) h0.length_le
  rw [nodeAt_edit_self hlt]
  rfl

end Host

namespace HostM

open Host

variable {g h : Host} {i : NodeId} {work : List Task} {calls : List Call} {text shown url : String}
  {offset : Int} {d : Delivery}

/-! ### Asking -/

theorem readSettings_commits (h : Host) :
    (readSettings h).1.1.commits = { repo := h.repo? } := by
  unfold readSettings repo?
  rw [bind_apply, get_apply]
  cases h.body? with
  | none => exact Settings.commits_ofAttributes _
  | some i => exact Settings.commits_ofAttributes _

/-- A page that has a reason to ask is going to, and any other says why not. -/
theorem wireCommits_eq (hfound : h.byId? "last-updated" = g.byId? "last-updated")
    (hbehind : h.minutesBehind = g.minutesBehind) :
    (∀ t, g.request? .ready = some t → wireCommits { repo := g.repo? } h = spawn t h) ∧
      (g.request? .ready = none →
        ∃ remark, wireCommits { repo := g.repo? } h = say .debug remark h) := by
  unfold wireCommits request?
  rw [bind_apply, get_apply]
  dsimp only
  rw [hfound]
  cases hrepo : g.repo? with
  | none => exact ⟨fun t ht => (nomatch ht), fun _ => ⟨_, rfl⟩⟩
  | some repo =>
    cases g.byId? "last-updated" with
    | none => exact ⟨fun t ht => (nomatch ht), fun _ => ⟨_, rfl⟩⟩
    | some i =>
      refine ⟨?_, fun hnone => nomatch hnone⟩
      rintro t ⟨⟩
      rw [← hbehind]
      rfl

theorem feature_request {phase : CommitPhase} {t : Task} (ht : g.request? phase = some t) :
    t.feature = .commits ∧ g.byId? "last-updated" = some t.node := by
  unfold request? at ht
  split at ht
  · rename_i repo i _ helement
    cases ht
    exact ⟨rfl, helement⟩
  · cases ht

/-- Enhancing a page leaves it with the request that it has a reason to make. -/
theorem enhancePage_stands
    (h0 : Stands g .commits (g.byId? "last-updated") [] calls text g) :
    Stands g .commits (g.byId? "last-updated") (g.request? .ready).toList calls text
      (enhancePage g).2 := by
  have hw : WorksOn g .commits (g.byId? "last-updated") := worksOn_commits
  have htheme := @Stands.unthemed g .commits (g.byId? "last-updated") [] calls text hw
  have hothers := @Stands.disregards g .commits (g.byId? "last-updated") [] calls text hw
  have hwire : ∀ h, Stands g .commits (g.byId? "last-updated") [] calls text h →
      Stands g .commits (g.byId? "last-updated") (g.request? .ready).toList calls text
        (wireCommits { repo := g.repo? } h).2 := by
    intro h hh
    obtain ⟨hspawn, hsay⟩ := wireCommits_eq (hh.byId? (by decide)) hh.behind
    cases hrequest : g.request? .ready with
    | none =>
      obtain ⟨remark, heq⟩ := hsay hrequest
      rw [heq]
      exact htheme.keeps_say _ _ h hh
    | some t =>
      obtain ⟨hfeature, hnode⟩ := feature_request hrequest
      have hleft : Task.ofFeature .commits (h.tasks ++ [t]) = [t] := by
        rw [Task.ofFeature_append, hh.left, Task.ofFeature_cons_of_eq hfeature]
        rfl
      rw [hspawn t hrequest, Option.toList_some, ← hleft]
      refine hh.withTasks fun u hu => ?_
      rcases List.mem_append.mp hu with hu | hu
      · exact hh.tasks u hu
      · rw [List.mem_singleton.mp hu, hfeature]
        exact hnode
  have hnames : (readSettings g).1.1.StandardNames := (readSettings_names g).2
  refine leads_enhancePage htheme (readSettings_standard g) hothers.keeps_limitLog
    hothers.keeps_wantsReducedMotion ?_ h0
  rw [readSettings_commits]
  exact (hothers.keeps_wireBackToTop rfl fun hh => hh.owns_button hnames).then fun _ =>
    (hothers.keeps_wireReveal rfl (fun hh => hh.owns_selected hnames) _).then fun _ =>
    (hothers.keeps_wireTyping rfl (fun hh => hh.owns_tagline hnames) _).then fun _ =>
    hwire

/-- The request is sent in the first pass. -/
theorem runTasks_ready
    (h0 : Stands g .commits (g.byId? "last-updated") [.commit i url offset .ready] calls text h) :
    Stands g .commits (g.byId? "last-updated") [.commit i url offset .waiting]
      (calls ++ [.fetch url [acceptHeader]]) text (runTasks h).2 :=
  stands_runTasks worksOn_commits (fun _ hk => ⟨rfl, hk.called rfl⟩) h0

/-- The answer is shown in the pass after it came. -/
theorem runTasks_answered (hi : g.byId? "last-updated" = some i)
    (hrender : d.verdict.render offset = .ok shown)
    (h0 : Stands g .commits (g.byId? "last-updated") [.commit i url offset (.answered d)] calls
      text h) :
    Stands g .commits (g.byId? "last-updated") []
      (calls ++ (if d.isSuccess then [.readBody] else []) ++ [.setText i shown]) shown
      (runTasks h).2 := by
  refine stands_runTasks worksOn_commits (fun k hk => ?_) h0
  obtain ⟨log, hrun⟩ : ∃ log, runTask (.commit i url offset (.answered d)) k = _ :=
    runTask_answered hrender k
  have hread : Stands g .commits (g.byId? "last-updated") [.commit i url offset (.answered d)]
      (calls ++ if d.isSuccess then [.readBody] else []) text
      (if d.isSuccess then k.noted .readBody else k) := by
    cases d.isSuccess with
    | true => exact hk.called rfl
    | false => exact (List.append_nil calls).symm ▸ hk
  rw [hrun]
  have hshown := hread.shows hi shown
  exact ⟨rfl, hshown.withArranged (hshown.congr rfl rfl rfl rfl rfl rfl rfl) rfl rfl rfl rfl rfl⟩

/-- The reply reaches the request. -/
theorem respond_stands
    (h0 : Stands g .commits (g.byId? "last-updated") [.commit i url offset .waiting] calls text h)
    (d : Delivery) :
    Stands g .commits (g.byId? "last-updated") [.commit i url offset (.answered d)] calls text
      (respond d h).2 := by
  have hfirst := answerFirst_ofFeature d h.tasks
  rw [h0.left] at hfirst
  obtain ⟨l, hanswer, hl⟩ := Option.map_eq_some_iff.mp hfirst
  unfold respond
  rw [bind_apply, get_apply, hanswer, ← hl]
  refine h0.withTasks fun t' ht' => ?_
  obtain ⟨t, ht, hsame⟩ := sameWriter_answerFirst hanswer t' ht'
  rw [hsame.feature, hsame.node]
  exact h0.tasks t ht

end HostM

namespace Session

open Host HostM

variable {s : Session} {i : NodeId} {calls : List Call} {text url shown : String} {offset : Int}
  {d : Delivery}

/-- After a page was enhanced that had a reason to ask, the request waits. -/
theorem stands_enhanced (hwindow : s.host.hasWindow = true) (hdocument : s.host.hasDocument = true)
    (hrequest : s.host.request? .ready = some (.commit i url offset .ready))
    (h0 : Stands s.host .commits (s.host.byId? "last-updated") [] calls text s.host) :
    Stands s.host .commits (s.host.byId? "last-updated") [.commit i url offset .waiting]
      (calls ++ [.fetch url [acceptHeader]]) text (s.step .enhance).2.host := by
  have hpage := enhancePage_stands h0
  rw [hrequest] at hpage
  rw [host_enhance hwindow hdocument]
  exact runTasks_ready hpage

/-- After any other there is nothing to wait for. -/
theorem stands_unasked (hwindow : s.host.hasWindow = true) (hdocument : s.host.hasDocument = true)
    (hrequest : s.host.request? .ready = none)
    (h0 : Stands s.host .commits (s.host.byId? "last-updated") [] calls text s.host) :
    Stands s.host .commits (s.host.byId? "last-updated") [] calls text
      (s.step .enhance).2.host := by
  have hpage := enhancePage_stands h0
  rw [hrequest] at hpage
  rw [host_enhance hwindow hdocument]
  exact (Stands.disregards worksOn_commits).keeps_runTasks (List.forall_mem_nil _) _ hpage

/-- The reply to the request is shown. -/
theorem stands_answered {g : Host} (hi : g.byId? "last-updated" = some i)
    (hrender : d.verdict.render offset = .ok shown)
    (h0 : Stands g .commits (g.byId? "last-updated") [.commit i url offset .waiting] calls text
      s.host) :
    Stands g .commits (g.byId? "last-updated") []
      (calls ++ (if d.isSuccess then [.readBody] else []) ++ [.setText i shown]) shown
      (s.step (.respond d)).2.host := by
  rw [host_step]
  exact runTasks_answered hi hrender (respond_stands h0 d)

/-- **What went wrong first decides what is shown.**  Let a page be enhanced on which no call
    fails, and let the visitor go about as he likes before and after the network answers.  If
    the body names a repository and the element is there, the page asks once, at the address of
    the repository, and when the answer has come one text is set on the element: one remark
    exactly for a reply that is no success, whose body is not read; the other exactly when there
    is no reply, or a success whose body is unreadable or no list of commits; else the time of
    the newest commit, if it can be shown.  In any other case nothing is asked and no text set. -/
theorem asking_run (h0 : s.host.Pristine) (hwindow : s.host.hasWindow = true)
    (hdocument : s.host.hasDocument = true) (before after : List Step) (d : Delivery)
    (hbefore : ∀ t ∈ before, t.isVisit = true ∧ ∀ d, t ≠ .respond d)
    (hafter : ∀ t ∈ after, t.isVisit = true)
    (hrenders : ∀ body t, d.isSuccess = true → d.body? = some body → readNewest body = .ok t →
      ∃ text, showTime t (offsetOfMinutesBehind s.host.minutesBehind) = .ok text) :
    let element := s.host.byId? "last-updated"
    let calls (s : Session) := s.host.trace.filter (Call.concerns .commits element)
    let asked := s.run (.enhance :: before)
    let done := asked.run (.respond d :: after)
    (∀ repo i, s.host.repo? = some repo → element = some i →
      calls asked = calls s ++
        [.fetch (commitsUrl (readSettings s.host).1.1.commits.apiBase repo) [acceptHeader]] ∧
      ∃ text, calls done = calls asked ++ (if d.isSuccess then [.readBody] else []) ++
          [.setText i text] ∧
        (done.host.nodeAt i).text = text ∧
        (text = "API unavailable" ↔
          ∃ status, d.status? = some status ∧ ¬ (200 ≤ status ∧ status < 300)) ∧
        (text = "Unable to fetch" ↔ d.status? = none ∨ (d.isSuccess = true ∧
          ∀ body, d.body? = some body → ∃ fault, readNewest body = .error fault)) ∧
        (∀ body t, d.isSuccess = true → d.body? = some body → readNewest body = .ok t →
          showTime t (offsetOfMinutesBehind s.host.minutesBehind) = .ok text)) ∧
    (s.host.repo? = none ∨ element = none →
      calls asked = calls s ∧ calls done = calls s) := by
  intro element calls asked done
  have hw : WorksOn s.host .commits (s.host.byId? "last-updated") := worksOn_commits
  obtain ⟨text, htext⟩ : ∃ text, ∀ i, element = some i → (s.host.nodeAt i).text = text :=
    ⟨((element.map s.host.nodeAt).getD {}).text, fun i hi => by rw [hi]; rfl⟩
  have hstart := h0.stands htext
  have hnil : ∀ t ∈ ([] : List Task), t.isIdle = true := fun t ht => nomatch ht
  constructor
  · intro repo i hrepo hi
    have hrequest : s.host.request? .ready = some (.commit i (commitsUrl "https://api.github.com" repo)
        (offsetOfMinutesBehind s.host.minutesBehind) .ready) := by
      unfold request?
      rw [hrepo, show s.host.byId? "last-updated" = some i from hi]
    obtain ⟨text, hrender⟩ := Delivery.exists_text hrenders
    have hidle : ∀ t ∈ [Task.commit i (commitsUrl "https://api.github.com" repo)
        (offsetOfMinutesBehind s.host.minutesBehind) .waiting], t.isIdle = true := by
      intro t ht
      rw [List.mem_singleton.mp ht]
      rfl
    have hasked := stands_run hw hidle (stands_enhanced hwindow hdocument hrequest hstart)
      before fun t ht => ⟨(hbefore t ht).1, fun hevent => ?_⟩
    · have hdone := stands_run hw hnil (stands_answered hi hrender hasked) after
        fun t ht => ⟨hafter t ht, fun _ => rfl⟩
      have hcommits : (readSettings s.host).1.1.commits.apiBase = "https://api.github.com" :=
        congrArg CommitSettings.apiBase (readSettings_commits s.host)
      have hcalls : calls asked = calls s ++
          [.fetch (commitsUrl "https://api.github.com" repo) [acceptHeader]] := hasked.made
      refine ⟨hcommits ▸ hcalls, text, ?_, hdone.shown i hi, Delivery.text_of_verdict hrender⟩
      rw [hcalls]
      exact hdone.made
    · -- no reply comes before
      cases t with
      | respond d' => exact absurd rfl ((hbefore _ ht).2 d')
      | event target type e =>
        rw [Step.feature?] at hevent
        split at hevent <;> cases hevent
      | _ => cases hevent
  · intro hnone
    have hrequest : s.host.request? .ready = none := by
      unfold request?
      rcases hnone with hrepo | helement
      · rw [hrepo]
      · rw [show s.host.byId? "last-updated" = none from helement]
        cases s.host.repo? <;> rfl
    have hasked := stands_run hw hnil (stands_unasked hwindow hdocument hrequest hstart) before
      fun t ht => ⟨(hbefore t ht).1, fun _ => rfl⟩
    have hdone := stands_run hw hnil hasked (.respond d :: after) fun t ht =>
      ⟨(List.mem_cons.mp ht).elim (fun heq => heq ▸ rfl) (hafter t), fun _ => rfl⟩
    exact ⟨hasked.made, hdone.made⟩

/-- A page that is not found is not read, though its body is broken as well; time passes before
    the reply, and a second one comes after. -/
theorem asking_run_notFound :
    let page : Host :=
      { nodes := [{ tag := "body", attributes := .ofList [("data-commit-repo", "a/b")] },
          { attributes := .ofList [("id", "last-updated")] }] }
    let broken := Delivery.brokenBody 404 "cut off"
    (page.Pristine ∧ page.repo? = some "a/b" ∧ page.byId? "last-updated" = some 1 ∧
      broken.isSuccess = false) ∧
    ∃ text, ((({ host := page } : Session).run [.enhance, .elapse 10]).run
        [.respond broken, .respond (.failure "late")]).host.trace.filter
          (Call.concerns .commits (some 1)) =
        [.fetch "https://api.github.com/repos/a/b/commits?per_page=1" [acceptHeader],
          .setText 1 text] ∧
      text = "API unavailable" := by
  intro page broken
  have hpristine : page.Pristine := ⟨fun _ => rfl, rfl, rfl, rfl, rfl, rfl⟩
  have hrepo : page.repo? = some "a/b" := by decide +kernel
  have helement : page.byId? "last-updated" = some 1 := by decide +kernel
  have hfails : broken.isSuccess = false := by decide
  have hbefore : ∀ t ∈ [Step.elapse 10], t.isVisit = true ∧ ∀ d, t ≠ .respond d := by
    intro t ht
    rw [List.mem_singleton.mp ht]
    exact ⟨rfl, fun d => Step.noConfusion⟩
  have hafter : ∀ t ∈ [Step.respond (.failure "late")], t.isVisit = true := by
    intro t ht
    rw [List.mem_singleton.mp ht]
    rfl
  have hurl : commitsUrl (readSettings page).1.1.commits.apiBase "a/b" =
      "https://api.github.com/repos/a/b/commits?per_page=1" := by decide +kernel
  obtain ⟨hreason, -⟩ := asking_run (s := { host := page }) hpristine rfl rfl _ _ broken hbefore
    hafter fun body t hsuccess => absurd hsuccess (by rw [hfails]; exact nofun)
  obtain ⟨hasked, text, hcalls, -, hunavailable, -⟩ := hreason "a/b" 1 hrepo helement
  dsimp only at hcalls hasked
  rw [hasked, hfails, hurl, helement] at hcalls
  exact ⟨⟨hpristine, hrepo, helement, hfails⟩, text, hcalls, hunavailable.mpr ⟨404, rfl, by decide⟩⟩

end Session

end Enhance
