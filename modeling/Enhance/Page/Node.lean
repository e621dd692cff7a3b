/-
  Enhance/Page/Node.lean
  ======================
  **One element of a page.**

  An element has a tag, attributes, an inline style, and either text or markup
  inside it.  Its classes are the words of its `class` attribute; adding or
  removing one writes the attribute anew, single spaces between the words,
  except that an element without classes gets no attribute by losing one.
-/
import Enhance.Table
import Enhance.Text.Blank
import Enhance.Text.Pieces

namespace Enhance

structure Node where
  tag : String := "div"
  attributes : Table String := .empty
  text : String := ""
  /-- The markup inside, as last set; none while the element holds text. -/
  markup : Option String := none
  style : Table String := .empty
  /-- Of HTML, and not of a drawing or the like. -/
  isHtml : Bool := true
  /-- Its content can be edited by the visitor. -/
  isEditable : Bool := false
  /-- Part of the page. -/
  attached : Bool := true
deriving DecidableEq, Inhabited

namespace Node

/-! ### Attributes, text, style -/

def setAttribute (n : Node) (name value : String) : Node :=
  { n with attributes := n.attributes.insert name value }

def removeAttribute (n : Node) (name : String) : Node :=
  { n with attributes := n.attributes.erase name }

/-- Puts markup in place of whatever is inside. -/
def setMarkup (n : Node) (html : String) : Node := { n with markup := some html, text := "" }

/-- Puts text in place of whatever is inside. -/
def setText (n : Node) (text : String) : Node := { n with text, markup := none }

def setStyle (n : Node) (property value : String) : Node :=
  { n with style := n.style.insert property value }

/-- The id; an empty one is none. -/
def id? (n : Node) : Option String := (n.attributes.get? "id").filter fun i => i ≠ ""

/-- The tag's name: in capitals for an element of HTML. -/
def tagName (n : Node) : String :=
  if n.isHtml then String.ofList (n.tag.toList.map Char.toUpper) else n.tag

/-- Whether what is typed into the element goes into a field. -/
def isField (n : Node) : Bool :=
  n.isHtml && (n.isEditable || n.tagName ∈ ["INPUT", "TEXTAREA", "SELECT"])

/-! ### Classes -/

/-- The classes, each once, in the order in which they first stand. -/
def classes (n : Node) : List String :=
  let words := Text.pieces Text.isAsciiBlank ((n.attributes.get? "class").getD "").toList
  ((words.filter fun w => w ≠ []).map String.ofList).eraseDups

def hasClass (n : Node) (c : String) : Bool := n.classes.contains c

/-- Writes the classes anew; an element without the attribute keeps none if it
    has no classes. -/
def setClasses (n : Node) (l : List String) : Node :=
  if l.isEmpty && !n.attributes.contains "class" then n
  else n.setAttribute "class" (" ".intercalate l)

/-- Adds a class at the end, unless it is there. -/
def addClass (n : Node) (c : String) : Node :=
  n.setClasses (if n.hasClass c then n.classes else n.classes ++ [c])

def removeClass (n : Node) (c : String) : Node := n.setClasses (n.classes.filter fun d => d ≠ c)

def putClass (n : Node) (c : String) (present : Bool) : Node :=
  if present then n.addClass c else n.removeClass c

end Node

end Enhance
