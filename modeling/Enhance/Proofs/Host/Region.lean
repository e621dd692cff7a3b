/-
  Enhance/Proofs/Host/Region.lean
  ===============================
  **Which feature a part of a page belongs to.**

  A page falls into cells: the parts of its nodes, the store, the lists that the
  features keep.  A cell belongs to one feature, or is left alone by all.  An
  action is confined to a feature if it changes cells of that feature only, and
  does with them what depends on those cells and on the ones left alone.  Two
  actions confined to different features can change places (`Confined.swap`).
-/
import Enhance.Proofs.Host.Arranged

namespace Enhance

/-! ### Cells -/

/-- A part of a node. -/
inductive Spot where
  | kind
  | named (name : String)
  | className (name : String)
  | content
  | style
deriving DecidableEq

def Spot.Value : Spot → Type
  | .kind => String × Bool × Bool × Bool
  | .named _ => Option String
  | .className _ => Bool
  | .content => String × Option String
  | .style => Table String

/-- What a part of a node is.  The classes are seen one by one, and not as the attribute that
    lists them. -/
def Node.see (n : Node) : (k : Spot) → k.Value
  | .kind => (n.tag, n.isHtml, n.isEditable, n.attached)
  | .named name => if name = "class" then none else n.attributes.get? name
  | .className name => n.hasClass name
  | .content => (n.text, n.markup)
  | .style => n.style

/-- A part of a page. -/
inductive Cell where
  | size
  | node (i : NodeId) (k : Spot)
  | storage | scroll | gates | observers | typings | clock | requests | setup
deriving DecidableEq

def Cell.Value : Cell → Type
  | .size => Nat
  | .node _ k => k.Value
  | .storage => Option (Table String)
  | .scroll => Binary64
  | .gates => List ButtonGate
  | .observers => List Observer
  | .typings => List Task
  | .clock => Nat × Nat
  | .requests => List Task
  | .setup => List Listener × List BodySwitch

namespace Host

def look (h : Host) : (c : Cell) → c.Value
  | .size => h.nodes.length
  | .node i k => (h.nodeAt i).see k
  | .storage => h.storage
  | .scroll => h.scrollY
  | .gates => h.gates
  | .observers => h.observers
  | .typings => Task.ofFeature .typing h.tasks
  | .clock => (h.now, h.timersMade)
  | .requests => Task.ofFeature .commits h.tasks
  | .setup => (h.listeners, h.switches)

end Host

/-- The feature that a part of a node belongs to, on a page that looked like `g` before
    anything was set up. -/
def Spot.owner? (g : Host) (i : NodeId) : Spot → Option Feature
  | .kind => none
  | .named name => if name = "aria-label" ∨ name = "title" then some .theme else none
  | .className name =>
    if name = "dark-mode" then some .theme
    else if name = visibleClass then
      some (if (g.nodeAt i).hasClass "fade-in" then .reveal else .backToTop)
    else none
  | .content =>
    if (g.nodeAt i).id? = some "tagline" then some .typing
    else if (g.nodeAt i).id? = some "last-updated" then some .commits
    else some .theme
  | .style => some .reveal

def Cell.owner? (g : Host) : Cell → Option Feature
  | .size => none
  | .node i k => k.owner? g i
  | .storage => some .theme
  | .scroll => some .backToTop
  | .gates => some .backToTop
  | .observers => some .reveal
  | .typings => some .typing
  | .clock => some .typing
  | .requests => some .commits
  | .setup => none

/-! ### Confined actions -/

namespace Host

/-- Two pages that are the same to a feature. -/
def SameFor (g : Host) (f : Feature) (h h' : Host) : Prop :=
  ∀ c : Cell, c.owner? g = none ∨ c.owner? g = some f → h.look c = h'.look c

/-- An arranged page on which only this feature has work to do. -/
structure Quiet (g : Host) (f : Feature) (h : Host) : Prop extends Arranged g h where
  idle : ∀ t ∈ h.tasks, t.feature ≠ f → t.isIdle = true

theorem Resting.quiet {g h : Host} (h0 : Resting g h) (f : Feature) : Quiet g f h :=
  ⟨h0.toArranged, fun t ht _ => h0.idle t ht⟩

/-- The action changes cells of the feature only, and answers and does with them what the
    feature can know. -/
structure Confined {α : Type} (g : Host) (f : Feature) (act : HostM α) : Prop where
  keeps : Keeps (Quiet g f) act
  frame : ∀ {h}, Quiet g f h → ∀ c : Cell, c.owner? g ≠ some f → (act h).2.look c = h.look c
  answer : ∀ {h h'}, Quiet g f h → Quiet g f h' → SameFor g f h h' → (act h).1 = (act h').1
  own : ∀ {h h'}, Quiet g f h → Quiet g f h' → SameFor g f h h' →
    ∀ c : Cell, c.owner? g = some f → (act h).2.look c = (act h').2.look c

namespace Confined

variable {g : Host} {f f' : Feature} {α β : Type}

theorem same {act : HostM α} (hact : Confined g f act) {h h' : Host} (h0 : Quiet g f h)
    (h0' : Quiet g f h') (hsame : SameFor g f h h') : SameFor g f (act h).2 (act h').2 := by
  intro c hc
  rcases hc with hfree | hown
  · have hframe : c.owner? g ≠ some f := by
      rw [hfree]
      exact nofun
    rw [hact.frame h0 c hframe, hact.frame h0' c hframe]
    exact hsame c (.inl hfree)
  · exact hact.own h0 h0' hsame c hown

/-- What one feature does is the same to another one as nothing. -/
theorem unnoticed {act : HostM α} (hact : Confined g f act) (hne : f' ≠ f) {h : Host}
    (h0 : Quiet g f h) : SameFor g f' h (act h).2 := by
  intro c hc
  refine (hact.frame h0 c ?_).symm
  rcases hc with hfree | hown
  · rw [hfree]
    exact nofun
  · rw [hown]
    exact fun heq => hne (Option.some.inj heq)

/-- **Actions of two features change places.** -/
theorem swap {x : HostM α} {y : HostM β} (hx : Confined g f x) (hy : Confined g f' y)
    (hne : f ≠ f') {h : Host} (h0 : Resting g h) (hafter : Resting g (x h).2)
    (hafter' : Resting g (y h).2) (c : Cell) :
    (y (x h).2).2.look c = (x (y h).2).2.look c := by
  by_cases hown : c.owner? g = some f
  · -- `y` does not touch the cell, and `x` finds it the same after `y`
    have hother : c.owner? g ≠ some f' := by
      rw [hown]
      exact fun heq => hne (Option.some.inj heq)
    rw [hy.frame (hafter.quiet f') c hother]
    exact hx.own (h0.quiet f) (hafter'.quiet f) (hy.unnoticed hne (h0.quiet f')) c hown
  · rw [hx.frame (hafter'.quiet f) c hown]
    by_cases hown' : c.owner? g = some f'
    · exact hy.own (hafter.quiet f') (h0.quiet f')
        (fun c' hc' => (hx.unnoticed hne.symm (h0.quiet f) c' hc').symm) c hown'
    · rw [hy.frame (hafter.quiet f') c hown', hx.frame (h0.quiet f) c hown,
        hy.frame (h0.quiet f') c hown']

/-! ### Building actions -/

theorem pure (a : α) : Confined g f (Pure.pure a : HostM α) where
  keeps := keeps_pure a
  frame _ _ _ := rfl
  answer _ _ _ := rfl
  own _ _ hsame c hc := hsame c (.inr hc)

theorem bind {x : HostM α} {act : α → HostM β} (hx : Confined g f x)
    (hact : ∀ a, Confined g f (act a)) : Confined g f (x >>= act) where
  keeps := hx.keeps.bind fun a => (hact a).keeps
  frame := by
    intro h h0 c hc
    rw [bind_apply, (hact _).frame (hx.keeps h h0) c hc]
    exact hx.frame h0 c hc
  answer := by
    intro h h' h0 h0' hsame
    rw [bind_apply, bind_apply, hx.answer h0 h0' hsame]
    exact (hact _).answer (hx.keeps h h0) (hx.keeps h' h0') (hx.same h0 h0' hsame)
  own := by
    intro h h' h0 h0' hsame
    rw [bind_apply, bind_apply, hx.answer h0 h0' hsame]
    exact (hact _).own (hx.keeps h h0) (hx.keeps h' h0') (hx.same h0 h0' hsame)

/-- An action that goes by something which the feature can know does for each value what a
    confined action does. -/
theorem reading (p : Host → β)
    (hp : ∀ {h h'}, Quiet g f h → Quiet g f h' → SameFor g f h h' → p h = p h') {act : HostM α}
    (hact : ∀ k, Quiet g f k → ∃ act' : HostM α, Confined g f act' ∧
      ∀ h, Quiet g f h → p h = p k → act h = act' h) : Confined g f act where
  keeps := by
    intro h h0
    obtain ⟨act', hact', heq⟩ := hact h h0
    rw [heq h h0 rfl]
    exact hact'.keeps h h0
  frame := by
    intro h h0 c hc
    obtain ⟨act', hact', heq⟩ := hact h h0
    rw [heq h h0 rfl]
    exact hact'.frame h0 c hc
  answer := by
    intro h h' h0 h0' hsame
    obtain ⟨act', hact', heq⟩ := hact h h0
    rw [heq h h0 rfl, heq h' h0' (hp h0 h0' hsame).symm]
    exact hact'.answer h0 h0' hsame
  own := by
    intro h h' h0 h0' hsame
    obtain ⟨act', hact', heq⟩ := hact h h0
    rw [heq h h0 rfl, heq h' h0' (hp h0 h0' hsame).symm]
    exact hact'.own h0 h0' hsame

theorem congr {act act' : HostM α} (hact' : Confined g f act')
    (heq : ∀ h, Quiet g f h → act h = act' h) : Confined g f act :=
  reading (fun _ => ()) (fun _ _ _ => rfl) fun _ _ => ⟨act', hact', fun h h0 _ => heq h h0⟩

theorem mapM {l : List α} {act : α → HostM β} (hact : ∀ a ∈ l, Confined g f (act a)) :
    Confined g f (l.mapM act) := by
  induction l with
  | nil => exact pure _
  | cons a rest ih =>
    have hrest : Confined g f (rest.mapM act) := ih fun b hb => hact b (List.mem_cons_of_mem a hb)
    rw [List.mapM_cons]
    exact (hact a List.mem_cons_self).bind fun _ => hrest.bind fun _ => pure _

theorem forM {l : List α} {act : α → HostM PUnit} (hact : ∀ a ∈ l, Confined g f (act a)) :
    Confined g f (l.forM act) := by
  induction l with
  | nil => exact pure _
  | cons a rest ih =>
    have hrest : Confined g f (rest.forM act) := ih fun b hb => hact b (List.mem_cons_of_mem a hb)
    exact (hact a List.mem_cons_self).bind fun _ => hrest

/-- A change of one cell. -/
theorem cell {k : Cell} (hk : k.owner? g = some f) {act : Host → Host}
    (hkeeps : ∀ {h}, Quiet g f h → Quiet g f (act h))
    (hframe : ∀ h, ∀ c ≠ k, (act h).look c = h.look c)
    (hown : ∀ {h h'}, SameFor g f h h' → (act h).look k = (act h').look k) :
    Confined g f (modify act : HostM PUnit) where
  keeps := keeps_modify fun h h0 => hkeeps h0
  frame := by
    intro h h0 c hc
    refine hframe h c ?_
    rintro rfl
    exact hc hk
  answer _ _ _ := rfl
  own := by
    intro h h' h0 h0' hsame c hc
    show (act h).look c = (act h').look c
    by_cases hck : c = k
    · subst hck
      exact hown hsame
    · rw [hframe h c hck, hframe h' c hck]
      exact hsame c (.inr hc)

end Confined

end Host

end Enhance
