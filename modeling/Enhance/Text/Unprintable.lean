/-
  Enhance/Text/Unprintable.lean
  =============================
  **The characters that quoted text never shows as they are.**

  A character that shows nothing could not be told from its absence, and a
  mark that extends the character before it would change the looks of a
  quote; both are written by their code points.
-/
import Enhance.Text.Extending
import Enhance.Text.Hidden

namespace Enhance.Text

/-- Whether quoted text writes a character by its code point. -/
def isUnprintable (c : Char) : Bool := isExtending c || isHidden c

/-- The printable characters of ASCII stand for themselves. -/
theorem isUnprintable_of_ascii {c : Char} (h : ' ' ≤ c) (h' : c ≤ '~') :
    isUnprintable c = false := by
  simp [isUnprintable, isHidden_of_ascii h h', isExtending_of_ascii h']

end Enhance.Text
