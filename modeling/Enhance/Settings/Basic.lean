/-
  Enhance/Settings/Basic.lean
  ===========================
  **Everything about the enhancements that a page can choose,** with the values
  that hold when it chooses nothing.
-/
import Enhance.Log
import Enhance.Number.Binary64
import Enhance.Shortcut
import Enhance.Theme.Basic

namespace Enhance

/-- The class of a revealed element, and of the back-to-top button while it
    shows. -/
def visibleClass : String := "visible"

/-- The back-to-top button and the scroll offset past which it shows. -/
structure BackToTopSettings where
  elementId : String := "back-to-top"
  threshold : Binary64 := .ofInt 300
deriving DecidableEq

/-- The elements that fade in, their stagger, and how much of one must be in
    view. -/
structure RevealSettings where
  selector : String := ".fade-in"
  step : UInt32 := 100
  cap : UInt32 := 800
  threshold : Binary64 := .ofRatio false 1 10
deriving DecidableEq

/-- The element whose text is typed, and the milliseconds before each
    character. -/
structure TypingSettings where
  elementId : String := "tagline"
  delay : UInt32 := 100
deriving DecidableEq

/-- The element that shows the time of the newest commit, the repository as
    `owner/name`, and where to ask. -/
structure CommitSettings where
  elementId : String := "last-updated"
  /-- Nothing is shown while there is none. -/
  repo : Option String := none
  apiBase : String := "https://api.github.com"
deriving DecidableEq

structure Settings where
  theme : ThemeSettings := {}
  backToTop : BackToTopSettings := {}
  reveal : RevealSettings := {}
  typing : TypingSettings := {}
  shortcut : Chord := .standard
  commits : CommitSettings := {}
  logLevel : Log.Level := .info
deriving DecidableEq

end Enhance
