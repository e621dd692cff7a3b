/-
  Enhance/Proofs/Action.lean
  ==========================
  **Running an action on a state,** and what a sequence of actions keeps.

  An action takes a state to an answer and a state.  The first section says
  what each way of building an action does to a state.  The second is for
  actions too long to be run on paper: `Keeps P act` says that `act` leads
  from states with `P` to states with `P`, and a sequence keeps what each of its
  parts keeps.  The third section is for two actions on states that belong
  together: if they match part by part, their answers and the states after them
  still belong together.
-/

namespace Enhance

section Action

variable {ω α β : Type}

/-! ### Running -/

@[simp] theorem bind_apply (x : StateM ω α) (f : α → StateM ω β) (s : ω) :
    (x >>= f) s = f (x s).1 (x s).2 := rfl

@[simp] theorem pure_apply (a : α) (s : ω) : (pure a : StateM ω α) s = (a, s) := rfl

@[simp] theorem map_apply (f : α → β) (x : StateM ω α) (s : ω) :
    (f <$> x) s = (f (x s).1, (x s).2) := rfl

@[simp] theorem get_apply (s : ω) : (get : StateM ω ω) s = (s, s) := rfl

@[simp] theorem modify_apply (f : ω → ω) (s : ω) :
    (modify f : StateM ω PUnit) s = (⟨⟩, f s) := rfl

@[simp] theorem modifyGet_apply (f : ω → α × ω) (s : ω) :
    (modifyGet f : StateM ω α) s = f s := rfl

/-! ### What an action keeps -/

/-- The action leads from states with a property to states with it. -/
def Keeps (P : ω → Prop) (act : StateM ω α) : Prop := ∀ s, P s → P (act s).2

variable {P : ω → Prop}

theorem keeps_pure (a : α) : Keeps P (pure a : StateM ω α) := fun _ hs => hs

theorem keeps_get : Keeps P (get : StateM ω ω) := fun _ hs => hs

theorem keeps_modify {f : ω → ω} (h : ∀ s, P s → P (f s)) :
    Keeps P (modify f : StateM ω PUnit) := h

theorem Keeps.bind {x : StateM ω α} {f : α → StateM ω β} (hx : Keeps P x)
    (hf : ∀ a, Keeps P (f a)) : Keeps P (x >>= f) := by
  intro s hs
  rw [bind_apply]
  exact hf _ _ (hx s hs)

/-- What is kept first is there for what comes last. -/
theorem Keeps.then {Q : ω → Prop} {x : StateM ω α} {f : α → StateM ω β} (hx : Keeps P x)
    (hf : ∀ a s, P s → Q (f a s).2) : ∀ s, P s → Q ((x >>= f) s).2 :=
  fun s hs => hf _ _ (hx s hs)

theorem Keeps.forM {l : List α} {f : α → StateM ω PUnit} (h : ∀ a ∈ l, Keeps P (f a)) :
    Keeps P (l.forM f) := by
  induction l with
  | nil => exact keeps_pure _
  | cons a rest ih =>
    have hrest : Keeps P (rest.forM f) := ih fun b hb => h b (List.mem_cons_of_mem a hb)
    exact (h a List.mem_cons_self).bind fun _ => hrest

theorem Keeps.mapM {l : List α} {f : α → StateM ω β} (h : ∀ a ∈ l, Keeps P (f a)) :
    Keeps P (l.mapM f) := by
  induction l with
  | nil => exact keeps_pure _
  | cons a rest ih =>
    have hrest : Keeps P (rest.mapM f) := ih fun b hb => h b (List.mem_cons_of_mem a hb)
    rw [List.mapM_cons]
    exact (h a List.mem_cons_self).bind fun _ => hrest.bind fun _ => keeps_pure _

theorem mapM_cons_apply (f : α → StateM ω β) (a : α) (l : List α) (s : ω) :
    (a :: l).mapM f s =
      ((f a s).1 :: (l.mapM f (f a s).2).1, (l.mapM f (f a s).2).2) := by
  rw [List.mapM_cons]
  rfl

/-- Every answer in a list is that of one of the actions. -/
theorem exists_of_mem_mapM {l : List α} {f : α → StateM ω β} {s : ω} {b : β}
    (hb : b ∈ (l.mapM f s).1) : ∃ a ∈ l, ∃ s', (f a s').1 = b := by
  induction l generalizing s with
  | nil => cases hb
  | cons a rest ih =>
    rw [List.mapM_cons] at hb
    rcases List.mem_cons.mp hb with rfl | hrest
    · exact ⟨a, List.mem_cons_self, s, rfl⟩
    · obtain ⟨a', ha', hf⟩ := ih hrest
      exact ⟨a', List.mem_cons_of_mem a ha', hf⟩

/-! ### Two actions side by side -/

section Matches

variable {υ γ δ : Type}

/-- From states that belong together the actions lead to such states, and their answers belong
    together as well. -/
def Matches (R : α → β → Prop) (Q : ω → υ → Prop) (x : StateM ω α) (y : StateM υ β) : Prop :=
  ∀ s t, Q s t → R (x s).1 (y t).1 ∧ Q (x s).2 (y t).2

variable {R : α → β → Prop} {Q : ω → υ → Prop}

theorem matches_pure {a : α} {b : β} (hab : R a b) :
    Matches R Q (pure a : StateM ω α) (pure b : StateM υ β) := fun _ _ hq => ⟨hab, hq⟩

theorem matches_modify {f : ω → ω} {g : υ → υ} (h : ∀ s t, Q s t → Q (f s) (g t)) :
    Matches Eq Q (modify f : StateM ω PUnit) (modify g : StateM υ PUnit) :=
  fun s t hq => ⟨rfl, h s t hq⟩

theorem Matches.bind {S : γ → δ → Prop} {x : StateM ω α} {y : StateM υ β} {f : α → StateM ω γ}
    {g : β → StateM υ δ} (hx : Matches R Q x y) (hf : ∀ a b, R a b → Matches S Q (f a) (g b)) :
    Matches S Q (x >>= f) (y >>= g) := by
  intro s t hq
  obtain ⟨hab, hq'⟩ := hx s t hq
  exact hf _ _ hab _ _ hq'

/-- The answers are the same. -/
theorem Matches.then {S : γ → δ → Prop} {x : StateM ω α} {y : StateM υ α} {f : α → StateM ω γ}
    {g : α → StateM υ δ} (hx : Matches Eq Q x y) (hf : ∀ a, Matches S Q (f a) (g a)) :
    Matches S Q (x >>= f) (y >>= g) :=
  hx.bind fun a _ hab => hab ▸ hf a

theorem Matches.forM {l : List α} {m : α → β} {f : α → StateM ω PUnit} {g : β → StateM υ PUnit}
    (h : ∀ a ∈ l, Matches Eq Q (f a) (g (m a))) : Matches Eq Q (l.forM f) ((l.map m).forM g) := by
  induction l with
  | nil => exact matches_pure rfl
  | cons a rest ih =>
    have hrest : Matches Eq Q (rest.forM f) ((rest.map m).forM g) := ih fun b hb =>
      h b (List.mem_cons_of_mem a hb)
    exact (h a List.mem_cons_self).then fun _ => hrest

theorem Matches.forM_same {l : List α} {f : α → StateM ω PUnit} {g : α → StateM υ PUnit}
    (h : ∀ a ∈ l, Matches Eq Q (f a) (g a)) : Matches Eq Q (l.forM f) (l.forM g) := by
  have hid := Matches.forM (m := id) h
  rwa [List.map_id] at hid

theorem Matches.mapM_same {l : List α} {f : α → StateM ω β} {g : α → StateM υ β}
    (h : ∀ a ∈ l, Matches Eq Q (f a) (g a)) : Matches Eq Q (l.mapM f) (l.mapM g) := by
  induction l with
  | nil => exact matches_pure rfl
  | cons a rest ih =>
    have hrest : Matches Eq Q (rest.mapM f) (rest.mapM g) := ih fun b hb =>
      h b (List.mem_cons_of_mem a hb)
    rw [List.mapM_cons, List.mapM_cons]
    exact (h a List.mem_cons_self).then fun _ => hrest.then fun _ => matches_pure rfl

end Matches

end Action

end Enhance
