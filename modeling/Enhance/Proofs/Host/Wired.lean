/-
  Enhance/Proofs/Host/Wired.lean
  ==============================
  **A page whose theme switch is wired,** and everything on it that the switch
  does not notice.

  On a wired page the handlers of clicks on the control and of keys are known,
  no other listener has to do with the theme, and no task writes on the control.
  Whatever the other features do then, the page stays wired and looks the same
  to the switch.
-/
import Enhance.Proofs.Host.Unmoved

namespace Enhance

namespace Host

/-- The handlers for a type of event on a target. -/
def handlers (h : Host) (target : Target) (type : String) : List Handler :=
  (h.listeners.filter fun l => l.target = target ∧ l.type = type).map fun l => l.handler

/-- The work left for later: clicks on the control `c` and keys go to these
    handlers, and nothing else has to do with the theme. -/
structure Listens (c : NodeId) (click keys : List Handler) (h : Host) : Prop where
  click : h.handlers (.node c) "click" = click
  keys : h.handlers .document "keydown" = keys
  others : ∀ l ∈ h.listeners, l.handler.isAside = true ∨
    (l.target = .node c ∧ l.type = "click") ∨ (l.target = .document ∧ l.type = "keydown")
  tasks : ∀ t ∈ h.tasks, t.node ≠ c

/-- A page whose switch `i` shows the theme, and is flipped by these handlers
    only. -/
structure Wired (s : ThemeSettings) (i c : Nat) (click keys : List Handler) (v : ThemeView)
    (h : Host) : Prop extends ShowsTheme s i c v h, Listens c click keys h

variable {s : ThemeSettings} {i c : Nat} {click keys : List Handler} {v : ThemeView} {h h' : Host}

theorem Listens.congr (h0 : h.Listens c click keys) (hlisteners : h'.listeners = h.listeners)
    (htasks : h'.tasks = h.tasks) : h'.Listens c click keys where
  click := by
    rw [handlers, hlisteners]
    exact h0.click
  keys := by
    rw [handlers, hlisteners]
    exact h0.keys
  others := by
    rw [hlisteners]
    exact h0.others
  tasks := by
    rw [htasks]
    exact h0.tasks

/-- Nothing is listened for yet. -/
theorem Listens.of_idle (hlisteners : h.listeners = []) (htasks : h.tasks = []) :
    h.Listens c [] [] where
  click := by simp [handlers, hlisteners]
  keys := by simp [handlers, hlisteners]
  others := by simp [hlisteners]
  tasks := by simp [htasks]

/-- One handler more of clicks on the control. -/
theorem Listens.withClick (h0 : h.Listens c click keys) (handler : Handler) :
    ({ h with listeners := h.listeners ++ [⟨.node c, "click", handler⟩] } : Host).Listens c
      (click ++ [handler]) keys where
  click := by
    rw [← h0.click]
    simp [handlers, List.filter_append]
  keys := by
    rw [← h0.keys]
    simp [handlers, List.filter_append]
  others := by
    intro l hl
    rcases List.mem_append.mp hl with hl | hl
    · exact h0.others l hl
    · rw [List.mem_singleton.mp hl]
      exact .inr (.inl ⟨rfl, rfl⟩)
  tasks := h0.tasks

/-- One handler more of keys. -/
theorem Listens.withKey (h0 : h.Listens c click keys) (handler : Handler) :
    ({ h with listeners := h.listeners ++ [⟨.document, "keydown", handler⟩] } : Host).Listens c
      click (keys ++ [handler]) where
  click := by
    rw [← h0.click]
    simp [handlers, List.filter_append]
  keys := by
    rw [← h0.keys]
    simp [handlers, List.filter_append]
  others := by
    intro l hl
    rcases List.mem_append.mp hl with hl | hl
    · exact h0.others l hl
    · rw [List.mem_singleton.mp hl]
      exact .inr (.inr ⟨rfl, rfl⟩)
  tasks := h0.tasks

namespace Wired

theorem congr (h0 : h.Wired s i c click keys v) (hsame : SameSwitch h h')
    (hlisteners : h'.listeners = h.listeners) (htasks : h'.tasks = h.tasks) :
    h'.Wired s i c click keys v where
  toShowsTheme := h0.toShowsTheme.congr hsame
  toListens := h0.toListens.congr hlisteners htasks

theorem noted (h0 : h.Wired s i c click keys v) (call : Call) (hcall : call.isCreation = false) :
    (h.noted call).Wired s i c click keys v :=
  h0.congr (sameSwitch_noted hcall) rfl rfl

theorem edit (h0 : h.Wired s i c click keys v) {j : NodeId} {f : Node → Node}
    (hf : ∀ n, Node.Alike s.darkClass n (f n)) (hface : j = c → ∀ n, Node.SameFace n (f n)) :
    (h.edit j f).Wired s i c click keys v where
  toShowsTheme := h0.toShowsTheme.edit hf hface
  toListens := h0.toListens.congr rfl rfl

/-- Other tasks that do not write on the control. -/
theorem withTasks (h0 : h.Wired s i c click keys v) {tasks : List Task}
    (htasks : ∀ t ∈ tasks, t.node ≠ c) : ({ h with tasks } : Host).Wired s i c click keys v where
  toShowsTheme := h0.toShowsTheme.congr ⟨rfl, rfl, rfl, rfl, rfl⟩
  click := h0.click
  keys := h0.keys
  others := h0.others
  tasks := htasks

/-- One listener more that has nothing to do with the theme. -/
theorem withListener (h0 : h.Wired s i c click keys v) {l : Listener}
    (haside : l.handler.isAside = true) (hclick : ¬ (l.target = .node c ∧ l.type = "click"))
    (hkeys : ¬ (l.target = .document ∧ l.type = "keydown")) :
    ({ h with listeners := h.listeners ++ [l] } : Host).Wired s i c click keys v where
  toShowsTheme := h0.toShowsTheme.congr ⟨rfl, rfl, rfl, rfl, rfl⟩
  click := by
    rw [← h0.click]
    simp [handlers, List.filter_append, hclick]
  keys := by
    rw [← h0.keys]
    simp [handlers, List.filter_append, hkeys]
  others := by
    intro m hm
    rcases List.mem_append.mp hm with hm | hm
    · exact h0.others m hm
    · rw [List.mem_singleton.mp hm]
      exact .inl haside
  tasks := h0.tasks

/-- As long as none of the other features has the control for one of its nodes, the switch
    does not notice them. -/
theorem unmoved (hvisible : s.darkClass ≠ visibleClass) :
    Unmoved (fun f j => f ≠ .reveal → j ≠ c) (Wired s i c click keys v) where
  log h0 := h0.congr ⟨rfl, rfl, rfl, rfl, rfl⟩ rfl rfl
  logLimit h0 := h0.congr ⟨rfl, rfl, rfl, rfl, rfl⟩ rfl rfl
  noted hcall h0 := h0.noted _ hcall
  clock h0 := h0.congr ⟨rfl, rfl, rfl, rfl, rfl⟩ rfl rfl
  scrollY h0 := h0.congr ⟨rfl, rfl, rfl, rfl, rfl⟩ rfl rfl
  visible h0 := h0.edit (fun n => n.alike_putClass HostM.isToken_visibleClass hvisible)
    fun _ n => n.sameFace_putClass
  style h0 := h0.edit (fun _ => ⟨⟨rfl, rfl⟩, rfl⟩) fun _ _ => ⟨rfl, rfl, rfl⟩
  text ht h0 := h0.edit (fun _ => ⟨⟨rfl, rfl⟩, rfl⟩)
    fun hjc => absurd hjc (ht (Task.feature_ne_reveal _))
  gate _ h0 := h0.congr ⟨rfl, rfl, rfl, rfl, rfl⟩ rfl rfl
  moved h0 := h0.congr ⟨rfl, rfl, rfl, rfl, rfl⟩ rfl rfl
  observer h0 := h0.congr ⟨rfl, rfl, rfl, rfl, rfl⟩ rfl rfl
  watched _ h0 := h0.congr ⟨rfl, rfl, rfl, rfl, rfl⟩ rfl rfl
  tasks htasks h0 := h0.withTasks fun t ht => htasks t ht t.feature_ne_reveal
  writes h0 t ht _ := h0.tasks t ht
  follow h0 := h0.withListener rfl (fun h => nomatch h.1) fun h => nomatch h.1
  scrollUp hbutton h0 := h0.withListener rfl
    (fun h => hbutton (by decide) (Target.node.inj h.1)) fun h => nomatch h.1

end Wired

end Host

end Enhance
