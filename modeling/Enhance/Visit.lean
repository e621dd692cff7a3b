/-
  Enhance/Visit.lean
  ==================
  **A visit to a configured site, without a document.**

  The settings come from attributes.  The theme switch, the scroll gate, the
  stagger, the typewriter and the refresh then run side by side on a bench,
  each driven by what a visitor does; a keystroke flips the theme when the
  configured chord matches it.
-/
import Enhance.Commit.Status
import Enhance.Reveal
import Enhance.Scroll
import Enhance.Settings.Attribute
import Enhance.Theme.Bench
import Enhance.Typewriter

namespace Enhance

structure Visit where
  settings : Settings
  bench : Bench MemoryStorage
  gate : ScrollGate

/-- A refresh as a visitor meets it: whether the page has the element, what the
    request will bring, and how far the clock is behind UTC. -/
structure CommitVisit where
  elementPresent : Bool
  reply : Except FetchFault Reply
  minutesBehind : Binary64

namespace Visit

/-- What a visitor does. -/
inductive Step where
  | click
  | press (k : Keystroke)
  | scroll (offset : Binary64)
  /-- So many elements come into view together. -/
  | reveal (count : Nat)
  | type (line : String)
  | commit (c : CommitVisit)

inductive Answer where
  | theme (t : Theme)
  | matched (m : Bool)
  | visibility (v : Option Bool)
  | delays (l : List String)
  | frames (l : List String)
  /-- Nothing was asked. -/
  | skipped
  | refreshed (outcome : Except Overrun CommitStatus) (bench : CommitBench)

/-- The entry that holds the preference. -/
def stored (v : Visit) : Option String := v.bench.store.get? v.settings.theme.storageKey

def theme (v : Visit) : Theme := .ofDark v.bench.page.dark

def flip (v : Visit) : Theme × Visit :=
  let (theme, bench) := Bench.surface.flip v.settings.theme v.bench
  (theme, { v with bench })

/-- A visit begins with the preferred theme. -/
def begin (settings : Settings) (store : MemoryStorage) (page : BarePage) : Visit :=
  let (_, bench) := Bench.surface.start settings.theme { store, page }
  { settings, bench, gate := { threshold := settings.backToTop.threshold } }

/-- Asks for the newest commit, if there is anything to ask. -/
def refresh (v : Visit) (c : CommitVisit) : Answer × Visit :=
  match lastUpdatedUrl v.settings.commits c.elementPresent with
  | .error skip =>
    (.skipped,
      { v with bench := { v.bench with log := v.bench.log ++ [⟨.debug, skip.message⟩] } })
  | .ok url =>
    let (outcome, bench) :=
      CommitBench.port.refresh url (offsetOfMinutesBehind c.minutesBehind) { reply := c.reply }
    (.refreshed outcome bench, v)

def step (v : Visit) : Step → Answer × Visit
  | .click =>
    let (theme, v) := v.flip
    (.theme theme, v)
  | .press k =>
    if v.settings.shortcut.matched k then (.matched true, v.flip.2) else (.matched false, v)
  | .scroll offset =>
    let (answer, gate) := v.gate.update offset
    (.visibility answer, { v with gate })
  | .reveal count =>
    let r := v.settings.reveal
    (.delays ((List.range count).map fun i => Reveal.delayText (Reveal.delay i r.step r.cap)), v)
  | .type line => (.frames (Typewriter.ofText line).frames, v)
  | .commit c => v.refresh c

end Visit

end Enhance
