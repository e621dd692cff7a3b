/-
  Enhance/Table.lean
  ==================
  **Named entries** — the attributes of an element, its inline style, a
  key/value store.

  A table holds at most one value under a name.  Writing under a name that is
  there replaces the value in place; a new name goes to the end.  Everything
  else about a table is said through `get?`: what a write does to the name
  written (`get?_insert_self`), and that it does nothing to any other
  (`get?_insert_of_ne`).
-/

namespace Enhance

/-- Values under names, in the order in which the names first came. -/
structure Table (α : Type) where
  entries : List (String × α) := []
deriving DecidableEq, Inhabited

namespace Table

variable {α : Type}

/-! ### Operations -/

def empty : Table α := ⟨[]⟩

/-- The value of the first entry named `k`. -/
def lookup (k : String) : List (String × α) → Option α
  | [] => none
  | e :: rest => if k = e.1 then some e.2 else lookup k rest

def get? (t : Table α) (k : String) : Option α := lookup k t.entries

def contains (t : Table α) (k : String) : Bool := (t.get? k).isSome

/-- Replaces the value of the first entry named `k`, or adds one at the end. -/
def put (k : String) (v : α) : List (String × α) → List (String × α)
  | [] => [(k, v)]
  | e :: rest => if k = e.1 then (k, v) :: rest else e :: put k v rest

def insert (t : Table α) (k : String) (v : α) : Table α := ⟨put k v t.entries⟩

def erase (t : Table α) (k : String) : Table α := ⟨t.entries.filter fun e => k ≠ e.1⟩

/-- The table that results from writing each pair in turn. -/
def ofList (l : List (String × α)) : Table α := l.foldl (fun t e => t.insert e.1 e.2) empty

/-! ### What each operation does to a look-up -/

@[simp] theorem get?_empty (k : String) : (empty : Table α).get? k = none := rfl

theorem lookup_put_self (k : String) (v : α) (l : List (String × α)) :
    lookup k (put k v l) = some v := by
  induction l with
  | nil => simp [put, lookup]
  | cons e rest ih =>
    by_cases h : k = e.1
    · simp [put, lookup, h]
    · simp [put, lookup, h, ih]

theorem lookup_put_of_ne {k k' : String} (h : k' ≠ k) (v : α) (l : List (String × α)) :
    lookup k' (put k v l) = lookup k' l := by
  induction l with
  | nil => simp [put, lookup, h]
  | cons e rest ih =>
    by_cases he : k = e.1
    · subst he; simp [put, lookup, h]
    · simp [put, lookup, he, ih]

@[simp] theorem get?_insert_self (t : Table α) (k : String) (v : α) :
    (t.insert k v).get? k = some v := lookup_put_self k v t.entries

theorem get?_insert_of_ne (t : Table α) {k k' : String} (h : k' ≠ k) (v : α) :
    (t.insert k v).get? k' = t.get? k' := lookup_put_of_ne h v t.entries

theorem lookup_filter_self (k : String) (l : List (String × α)) :
    lookup k (l.filter fun e => k ≠ e.1) = none := by
  induction l with
  | nil => rfl
  | cons e rest ih => by_cases h : k = e.1 <;> simp_all [lookup]

theorem lookup_filter_of_ne {k k' : String} (h : k' ≠ k) (l : List (String × α)) :
    lookup k' (l.filter fun e => k ≠ e.1) = lookup k' l := by
  induction l with
  | nil => rfl
  | cons e rest ih =>
    by_cases he : k = e.1
    · subst he; simp_all [lookup]
    · by_cases hk : k' = e.1 <;> simp_all [lookup]

@[simp] theorem get?_erase_self (t : Table α) (k : String) : (t.erase k).get? k = none :=
  lookup_filter_self k t.entries

theorem get?_erase_of_ne (t : Table α) {k k' : String} (h : k' ≠ k) :
    (t.erase k).get? k' = t.get? k' := lookup_filter_of_ne h t.entries

end Table

end Enhance
