/-
  Enhance/Proofs/Host/Effect.lean
  ===============================
  **What each effect does to a host on which no call fails,** and how nodes are
  found again after one was changed.
-/
import Enhance.Host.Toggle
import Enhance.Proofs.Action
import Enhance.Proofs.Page.Classes

namespace Enhance

/-- The last entry of a list is changed. -/
theorem modify_concat {α : Type} (l : List α) (a : α) (f : α → α) :
    (l ++ [a]).modify l.length f = l ++ [f a] :=
  List.modifyTailIdx_add _ 0 l [a]

theorem mem_modify {α : Type} {l : List α} {i : Nat} {f : α → α} {a : α} (ha : a ∈ l.modify i f) :
    a ∈ l ∨ ∃ b ∈ l, f b = a := by
  obtain ⟨j, hj⟩ := List.mem_iff_getElem?.mp ha
  rw [List.getElem?_modify] at hj
  cases hb : l[j]? with
  | none =>
    rw [hb] at hj
    cases hj
  | some b =>
    rw [hb] at hj
    have hmem := List.mem_of_getElem? hb
    by_cases hij : i = j
    · exact .inr ⟨b, hmem, by simpa [hij] using hj⟩
    · obtain rfl : b = a := by simpa [hij] using hj
      exact .inl hmem

/-! ### Nodes -/

/-- Two states of a node that is found under the same id, and part of the page
    or not. -/
structure Node.SamePlace (n m : Node) : Prop where
  attached : m.attached = n.attached
  id : m.id? = n.id?

/-- How a node is found by its id. -/
def Node.home (n : Node) : Bool × Option String := (n.attached, n.id?)

namespace Host

variable {h h' : Host} {i j : NodeId} {id : String} {f : Node → Node}

/-- A node as it is now; without content if there is none of this number. -/
def nodeAt (h : Host) (i : NodeId) : Node := (h.nodes[i]?).getD {}

/-- The host once an effect is listed. -/
def noted (h : Host) (c : Call) : Host := { h with trace := h.trace ++ [c] }

theorem nodeAt_edit_self (hi : i < h.nodes.length) : (h.edit i f).nodeAt i = f (h.nodeAt i) := by
  rw [nodeAt, getElem?_edit_self, nodeAt, List.getElem?_eq_getElem hi]
  rfl

theorem nodeAt_edit_of_ne (hij : i ≠ j) : (h.edit i f).nodeAt j = h.nodeAt j := by
  rw [nodeAt, getElem?_edit_of_ne h hij, nodeAt]

/-- What holds of a node and of what it becomes holds after the change. -/
theorem nodeAt_edit_induction {P : Node → Prop} (hi : P (h.nodeAt j))
    (hf : i = j → P (f (h.nodeAt j))) : P ((h.edit i f).nodeAt j) := by
  by_cases hij : i = j
  · subst hij
    by_cases hlt : i < h.nodes.length
    · rw [nodeAt_edit_self hlt]
      exact hf rfl
    · -- there is no such node to change
      have hnone : (h.edit i f).nodes[i]? = h.nodes[i]? := by
        rw [getElem?_edit_self, List.getElem?_eq_none (Nat.le_of_not_lt hlt)]
        rfl
      rw [nodeAt, hnone]
      exact hi
  · rw [nodeAt_edit_of_ne hij]
    exact hi

theorem byId?_eq_some_iff :
    h.byId? id = some i ↔
      id ≠ "" ∧ h.nodes.findIdx? (fun n => n.attached && n.id? == some id) = some i := by
  unfold byId?
  split
  · simp [*]
  · simp [*]

theorem lt_of_byId? (hi : h.byId? id = some i) : i < h.nodes.length := by
  obtain ⟨-, hfind⟩ := byId?_eq_some_iff.mp hi
  obtain ⟨hlt, -⟩ := List.findIdx?_eq_some_iff_getElem.mp hfind
  exact hlt

theorem nodeAt_of_byId? (hi : h.byId? id = some i) :
    (h.nodeAt i).attached = true ∧ (h.nodeAt i).id? = some id := by
  obtain ⟨-, hfind⟩ := byId?_eq_some_iff.mp hi
  obtain ⟨hlt, hnode, -⟩ := List.findIdx?_eq_some_iff_getElem.mp hfind
  rw [nodeAt, List.getElem?_eq_getElem hlt, Option.getD_some]
  simpa using hnode

/-- A node is found by one id only. -/
theorem eq_of_byId? {id' : String} (hi : h.byId? id = some i) (hi' : h.byId? id' = some i) :
    id = id' := by
  have hid := (nodeAt_of_byId? hi).2
  rw [(nodeAt_of_byId? hi').2] at hid
  exact (Option.some.inj hid).symm

theorem eq_zero_of_body? (hi : h.body? = some i) : i = 0 := by
  unfold body? at hi
  split at hi
  · split at hi <;> cases hi
    rfl
  · cases hi

/-! ### Places -/

def homes (h : Host) : List (Bool × Option String) := h.nodes.map Node.home

theorem byId?_eq_homes (h : Host) (id : String) :
    h.byId? id = if id = "" then none else h.homes.findIdx? fun p => p.1 && p.2 == some id := by
  unfold byId? homes
  rw [List.findIdx?_map]
  rfl

theorem byId?_congr (hhomes : h'.homes = h.homes) : h'.byId? id = h.byId? id := by
  rw [byId?_eq_homes, byId?_eq_homes, hhomes]

theorem length_of_homes (hhomes : h'.homes = h.homes) : h'.nodes.length = h.nodes.length := by
  have hlength := congrArg List.length hhomes
  rwa [homes, homes, List.length_map, List.length_map] at hlength

theorem body?_congr (hhomes : h'.homes = h.homes) : h'.body? = h.body? := by
  have hbody : ∀ k : Host, k.body? = match k.homes with
      | p :: _ => if p.1 then some 0 else none
      | [] => none := by
    intro k
    unfold body? homes
    cases k.nodes <;> rfl
  rw [hbody, hbody, hhomes]

theorem homes_edit (hf : ∀ n, Node.SamePlace n (f n)) : (h.edit i f).homes = h.homes := by
  have hhome : ∀ n, (f n).home = n.home := fun n => Prod.ext (hf n).attached (hf n).id
  apply List.ext_getElem?
  intro j
  unfold homes edit
  rw [List.getElem?_map, List.getElem?_map, List.getElem?_modify]
  cases h.nodes[j]? with
  | none => rfl
  | some n =>
    by_cases hij : i = j
    · simp [hij, hhome]
    · simp [hij]

theorem homes_nodeAt (h : Host) (j : NodeId) :
    (h.nodeAt j).home = (h.homes[j]?).getD (true, none) := by
  unfold homes nodeAt
  rw [List.getElem?_map]
  cases h.nodes[j]? <;> rfl

theorem byId?_edit (hf : ∀ n, Node.SamePlace n (f n)) :
    (h.edit i f).byId? id = h.byId? id :=
  byId?_congr (homes_edit hf)

variable {n : Node}

theorem nodeAt_append_of_lt (hnodes : h'.nodes = h.nodes ++ [n]) (hi : i < h.nodes.length) :
    h'.nodeAt i = h.nodeAt i := by
  rw [nodeAt, hnodes, List.getElem?_append_left hi, nodeAt]

theorem nodeAt_append_self (hnodes : h'.nodes = h.nodes ++ [n]) : h'.nodeAt h.nodes.length = n := by
  rw [nodeAt, hnodes, List.getElem?_concat_length, Option.getD_some]

/-- What holds of a node, and of all new ones if there was none of its number, holds once they
    are there. -/
theorem nodeAt_append_induction {P : Node → Prop} {l : List Node}
    (hnodes : h'.nodes = h.nodes ++ l) (hj : P (h.nodeAt j))
    (hnew : h.nodes.length ≤ j → ∀ n ∈ l, P n) : P (h'.nodeAt j) := by
  rw [nodeAt, hnodes]
  rcases Nat.lt_or_ge j h.nodes.length with hlt | hge
  · rw [List.getElem?_append_left hlt]
    exact hj
  · rw [List.getElem?_append_right hge]
    cases hn : l[j - h.nodes.length]? with
    | some n => exact hnew hge n (List.mem_of_getElem? hn)
    | none =>
      rw [nodeAt, List.getElem?_eq_none hge] at hj
      exact hj

/-- A new node is found under its id if there was none. -/
theorem byId?_append (hnodes : h'.nodes = h.nodes ++ [n]) (hid : id ≠ "")
    (hnone : h.byId? id = none) (hattached : n.attached = true) (hn : n.id? = some id) :
    h'.byId? id = some h.nodes.length := by
  unfold byId? at hnone ⊢
  rw [if_neg hid] at hnone ⊢
  rw [hnodes, List.findIdx?_append, hnone, List.findIdx?_singleton, hattached, hn]
  simp

end Host

/-! ### Effects -/

namespace HostM

variable {h : Host} {i j : NodeId}

@[simp] theorem node_apply : node i h = (h.nodeAt i, h) := rfl

/-- A call fails and leaves the host as it was, or takes place. -/
theorem attempt_cases {α : Type} (c : Failable) (act : HostM (Except Thrown α)) (h : Host) :
    (∃ t, attempt c act h = (.error t, h)) ∨ attempt c act h = act h := by
  unfold attempt
  rw [bind_apply, get_apply]
  cases h.failures c with
  | some t => exact .inl ⟨t, rfl⟩
  | none => exact .inr rfl

theorem attempt_of_works {α : Type} {c : Failable} (hworks : h.failures c = none)
    (act : HostM (Except Thrown α)) : attempt c act h = act h := by
  unfold attempt
  rw [bind_apply, get_apply, hworks]

theorem attempt_of_fails {α : Type} {c : Failable} {t : Thrown} (hfails : h.failures c = some t)
    (act : HostM (Except Thrown α)) : attempt c act h = (.error t, h) := by
  unfold attempt
  rw [bind_apply, get_apply, hfails]
  rfl

theorem attempt_eq (hs : h.Sound) {α : Type} (c : Failable) (act : HostM (Except Thrown α)) :
    attempt c act h = act h :=
  attempt_of_works (hs c) act

theorem Keeps.attempt {P : Host → Prop} {α : Type} {c : Failable}
    {act : HostM (Except Thrown α)} (hact : Keeps P act) : Keeps P (attempt c act) := by
  unfold HostM.attempt
  refine keeps_get.bind ?_
  intro h
  split
  · exact keeps_pure _
  · exact hact

theorem setAttribute_eq (hs : h.Sound) (name value : String) :
    setAttribute i name value h =
      (.ok (), (h.noted (.setAttribute i name value)).edit i fun n => n.setAttribute name value) :=
  attempt_eq hs _ _

theorem tryAttribute_eq (hs : h.Sound) (name value : String) :
    tryAttribute i name value h =
      ((), (h.noted (.setAttribute i name value)).edit i fun n => n.setAttribute name value) := by
  unfold tryAttribute
  rw [bind_apply, setAttribute_eq hs]
  rfl

theorem classFault?_eq_none {name : String} (hname : Node.IsToken name) :
    classFault? name = none := by
  have hblank : name.toList.any Text.isAsciiBlank = false := by
    rw [List.any_eq_false]
    intro c hc
    rw [hname.2 c hc]
    exact Bool.false_ne_true
  unfold classFault?
  rw [if_neg hname.1, if_neg (by rw [hblank]; exact Bool.false_ne_true)]

theorem isToken_of_classFault? {name : String} (hname : classFault? name = none) :
    Node.IsToken name := by
  unfold classFault? at hname
  split at hname
  · cases hname
  · rename_i hne
    split at hname
    · cases hname
    · rename_i hblank
      exact Node.isToken_of_any hne (Bool.eq_false_iff.mpr hblank)

theorem markClass_of_classList (hclass : h.failures .classList = none) {name : String}
    (hname : Node.IsToken name) (present : Bool) :
    markClass i name present h =
      ((), (h.noted (if present then .addClass i name else .removeClass i name)).edit i
        fun n => n.putClass name present) := by
  unfold markClass putClass attempt
  simp only [bind_apply, get_apply, hclass, classFault?_eq_none hname]
  rfl

theorem markClass_eq (hs : h.Sound) {name : String} (hname : Node.IsToken name) (present : Bool) :
    markClass i name present h =
      ((), (h.noted (if present then .addClass i name else .removeClass i name)).edit i
        fun n => n.putClass name present) :=
  markClass_of_classList (hs _) hname present

theorem listen_of_works {type : String} (hworks : h.failures (.listen type) = none)
    (target : Target) (handler : Handler) :
    listen target type handler h =
      ((), { h.noted (.listen target type) with
        listeners := h.listeners ++ [⟨target, type, handler⟩] }) := by
  unfold listen addListener attempt
  simp only [bind_apply, get_apply, hworks]
  rfl

theorem listen_of_fails {type : String} {t : Thrown} (hfails : h.failures (.listen type) = some t)
    (target : Target) (handler : Handler) :
    listen target type handler h =
      say .warn (type ++ " listener not attached: " ++ t.reason) h := by
  unfold listen addListener attempt
  simp only [bind_apply, get_apply, hfails]
  rfl

theorem listen_eq (hs : h.Sound) (target : Target) (type : String) (handler : Handler) :
    listen target type handler h =
      ((), { h.noted (.listen target type) with
        listeners := h.listeners ++ [⟨target, type, handler⟩] }) :=
  listen_of_works (hs _) target handler

theorem getItem_eq (hs : h.Sound) (key : String) :
    getItem key h = (.ok (h.storage.bind fun t => t.get? key), h.noted (.getItem key)) := by
  have hnoted : (h.noted (.getItem key)).Sound := hs
  exact attempt_eq hnoted _ _

theorem setItem_of_works (hworks : h.failures .setItem = none) (key value : String) :
    setItem key value h =
      (.ok (), { h.noted (.setItem key value) with
        storage := h.storage.map fun t => t.insert key value }) := by
  have hnoted : (h.noted (.setItem key value)).failures .setItem = none := hworks
  exact attempt_of_works hnoted _

theorem setItem_eq (hs : h.Sound) (key value : String) :
    setItem key value h =
      (.ok (), { h.noted (.setItem key value) with
        storage := h.storage.map fun t => t.insert key value }) :=
  setItem_of_works (hs _) key value

theorem findStore_of_works (hworks : h.failures .localStorage = none) :
    findStore h = (h.hasWindow && h.storage.isSome, h) := by
  unfold findStore
  rw [bind_apply, get_apply, hworks]
  rfl

theorem findStore_eq (hs : h.Sound) : findStore h = (h.hasWindow && h.storage.isSome, h) :=
  findStore_of_works (hs _)

theorem querySelectorAll_of_sound (hs : h.Sound) (selector : String) :
    querySelectorAll selector h =
      (match Selector.ofText? selector with
        | some s => .ok (h.select s)
        | none => .error (.object "SyntaxError"), h) := by
  unfold querySelectorAll
  rw [attempt_eq hs]
  cases Selector.ofText? selector <;> rfl

/-- Whether it fails or not, a query answers an error or what a selector selects. -/
theorem querySelectorAll_cases (h : Host) (selector : String) :
    (∃ t, querySelectorAll selector h = (.error t, h)) ∨
      ∃ s, Selector.ofText? selector = some s ∧
        querySelectorAll selector h = (.ok (h.select s), h) := by
  rcases attempt_cases .querySelectorAll _ h with hfails | htakes
  · exact .inl hfails
  · rw [querySelectorAll, htakes]
    cases hs : Selector.ofText? selector with
    | none => exact .inl ⟨_, rfl⟩
    | some s => exact .inr ⟨s, rfl, rfl⟩

end HostM

end Enhance
