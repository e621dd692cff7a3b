/-
  Enhance/Theme/Session.lean
  ==========================
  **Runs of switches over one store.**

  A session is a bench with the settings in force, over a store in memory.
  Beside the acts of a bench, its steps are a store that is written from
  outside or starts to fail, a reload that brings a fresh page, and other
  settings.
-/
import Enhance.Theme.Bench

namespace Enhance

/-- How a store is kept from answering. -/
inductive Outage where
  /-- As if there were no store. -/
  | absent
  /-- Every access is refused, for this reason. -/
  | refusing (reason : String)
deriving DecidableEq

/-- The fault that an outage amounts to.  It names the key in use when the
    outage began. -/
def Outage.fault (access : Access) (key : String) : Outage → StorageFault
  | absent => .unavailable
  | refusing reason => .refused access key reason

/-- A switch with its settings on a bench whose store can be kept from
    answering. -/
structure ThemeSession where
  settings : ThemeSettings := {}
  bench : Bench (Guarded MemoryStorage)

namespace ThemeSession

/-- One thing that can happen. -/
inductive Step where
  | act (a : Bench.Act)
  /-- Something else writes the store. -/
  | writeEntry (key value : String)
  /-- Reads fail from now on, or work again. -/
  | readOutage (o : Option Outage)
  /-- Writes fail from now on, or work again. -/
  | writeOutage (o : Option Outage)
  /-- The store refuses every read from now on. -/
  | refuseReads
  /-- The store refuses every write from now on. -/
  | refuseWrites
  /-- A fresh page over the same store. -/
  | reload (page : BarePage)
  /-- Other settings over the same page and store. -/
  | reconfigure (settings : ThemeSettings)

inductive Answer where
  | theme (t : Option Theme)
  | written (w : Except StorageFault Unit)

def memory (s : ThemeSession) : MemoryStorage := s.bench.store.store

/-- The entry that the switch would read. -/
def stored (s : ThemeSession) : Option String := s.memory.get? s.settings.storageKey

/-- Changes the store behind the faults. -/
def withMemory (s : ThemeSession) (f : MemoryStorage → MemoryStorage) : ThemeSession :=
  { s with bench := { s.bench with store := { s.bench.store with store := f s.memory } } }

/-- Sets the faults in front of the store. -/
def withFaults (s : ThemeSession) (read write : Option StorageFault) : ThemeSession :=
  { s with bench := { s.bench with store := ⟨s.memory, read, write⟩ } }

def step (s : ThemeSession) : Step → Answer × ThemeSession
  | .act a =>
    let (theme, bench) := Bench.act s.settings a s.bench
    (.theme theme, { s with bench })
  | .writeEntry key value =>
    let (outcome, memory) := s.memory.write key value
    (.written outcome, s.withMemory fun _ => memory)
  | .readOutage o =>
    let fault := o.map fun o => o.fault .read s.settings.storageKey
    (.theme none, s.withFaults fault s.bench.store.writeFault)
  | .writeOutage o =>
    let fault := o.map fun o => o.fault .write s.settings.storageKey
    (.theme none, s.withFaults s.bench.store.readFault fault)
  | .refuseReads => (.theme none, s.withMemory fun m => { m with refusesReads := true })
  | .refuseWrites => (.theme none, s.withMemory fun m => { m with refusesWrites := true })
  | .reload page => (.theme none, { s with bench := { s.bench with page } })
  | .reconfigure settings => (.theme none, { s with settings })

/-- Forgets the requests and messages so far. -/
def cleared (s : ThemeSession) : ThemeSession :=
  { s with bench := { s.bench with calls := [], log := [] } }

def run (s : ThemeSession) (steps : List Step) : ThemeSession :=
  steps.foldl (fun s step => (s.step step).2) s

end ThemeSession

end Enhance
