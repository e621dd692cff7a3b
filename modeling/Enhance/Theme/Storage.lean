/-
  Enhance/Theme/Storage.lean
  ==========================
  **Where a preference is kept.**

  A store answers reads and writes of texts under keys, and may refuse either;
  `Storage` asks nothing more of it, so a store may fail by any pattern, even a
  different one from call to call.  `MemoryStorage` keeps its entries in a
  table and can be told to refuse; `Guarded` puts a failure in front of any
  store without disturbing what is behind it.
-/
import Enhance.Table
import Enhance.Text.Quoted

namespace Enhance

/-- The two ways of using a store. -/
inductive Access where
  | read | write
deriving DecidableEq

def Access.name : Access → String
  | read => "read"
  | write => "write"

/-- Why a store did not do what was asked. -/
inductive StorageFault where
  /-- There is no store to ask. -/
  | unavailable
  /-- The store refused this access to a key. -/
  | refused (access : Access) (key : String) (reason : String)
deriving DecidableEq

def StorageFault.message : StorageFault → String
  | unavailable => "storage unavailable"
  | refused access key reason =>
    "storage " ++ access.name ++ " failed for key " ++ Text.quote key ++ ": " ++ reason

/-- A store of texts under keys, which any access may change. -/
class Storage (σ : Type) where
  read : String → StateM σ (Except StorageFault (Option String))
  write : String → String → StateM σ (Except StorageFault Unit)

/-! ### A store in memory -/

/-- Entries in a table, two switches that make accesses fail, and the number
    of writes that went through. -/
structure MemoryStorage where
  entries : Table String := .empty
  refusesReads : Bool := false
  refusesWrites : Bool := false
  writes : Nat := 0
deriving DecidableEq, Inhabited

namespace MemoryStorage

def withEntry (key value : String) : MemoryStorage := { entries := Table.empty.insert key value }

/-- The entry under a key, whether reads are refused or not. -/
def get? (m : MemoryStorage) (key : String) : Option String := m.entries.get? key

def read (m : MemoryStorage) (key : String) : Except StorageFault (Option String) :=
  if m.refusesReads then .error .unavailable else .ok (m.get? key)

/-- Writes an entry and counts the write. -/
def write (m : MemoryStorage) (key value : String) : Except StorageFault Unit × MemoryStorage :=
  if m.refusesWrites then (.error (.refused .write key "quota exceeded"), m)
  else (.ok (), { m with entries := m.entries.insert key value, writes := m.writes + 1 })

instance : Storage MemoryStorage where
  read key := do return (← get).read key
  write key value := modifyGet fun m => m.write key value

theorem get?_write_self {m : MemoryStorage} (h : m.refusesWrites = false) (key value : String) :
    (m.write key value).2.get? key = some value := by
  simp [write, h, get?]

theorem get?_write_of_ne (m : MemoryStorage) {key key' : String} (h : key' ≠ key)
    (value : String) : (m.write key value).2.get? key' = m.get? key' := by
  unfold write get?
  split
  · rfl
  · exact Table.get?_insert_of_ne _ h _

end MemoryStorage

/-! ### A failure in front of a store -/

/-- A store behind faults of its own for reads and for writes; while there is
    one, that access meets the fault and does not reach the store. -/
structure Guarded (σ : Type) where
  store : σ
  readFault : Option StorageFault := none
  writeFault : Option StorageFault := none

instance {σ : Type} [Storage σ] : Storage (Guarded σ) where
  read key := fun g =>
    match g.readFault with
    | some fault => (.error fault, g)
    | none =>
      let (answer, store) := Storage.read key g.store
      (answer, { g with store })
  write key value := fun g =>
    match g.writeFault with
    | some fault => (.error fault, g)
    | none =>
      let (answer, store) := Storage.write key value g.store
      (answer, { g with store })

end Enhance
