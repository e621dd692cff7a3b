/-
  Enhance/Page/Selector.lean
  ==========================
  **Selecting elements by class, id or tag.**

  A selector is one name of letters, digits, hyphens and underscores, with a
  point before it for a class, a number sign for an id, and nothing for a tag.
-/
import Enhance.Page.Node

namespace Enhance

/-- What the elements to select have in common. -/
inductive Selector where
  | withClass (name : String)
  | withId (name : String)
  | withTag (name : String)
deriving DecidableEq

namespace Selector

def isNameChar (c : Char) : Bool := c.isAlphanum || c == '-' || c == '_'

/-- A name, if these characters are one. -/
def readName? (l : List Char) : Option String :=
  if l ≠ [] ∧ l.all isNameChar then some (String.ofList l) else none

def ofText? (s : String) : Option Selector :=
  match s.toList with
  | '.' :: name => (readName? name).map withClass
  | '#' :: name => (readName? name).map withId
  | name => (readName? name).map withTag

def selects (n : Node) : Selector → Bool
  | withClass name => n.hasClass name
  | withId name => n.id? == some name
  | withTag name => n.tag == name

end Selector

end Enhance
