/-
  Enhance/Typewriter.lean
  =======================
  **Typing a line one character at a time.**

  A typewriter has typed the beginning of its line and has the rest left.
  Each frame is one character longer than the one before; after the last one,
  which is the whole line, there are no more.
-/

namespace Enhance

/-- The part of a line that is typed and the part that is left. -/
structure Typewriter where
  typed : List Char
  left : List Char
deriving DecidableEq, Inhabited

namespace Typewriter

/-- A line before its first character. -/
def ofText (s : String) : Typewriter := ⟨[], s.toList⟩

/-- The text on the page. -/
def frame (w : Typewriter) : String := String.ofList w.typed

/-- Types one more character. -/
def next? (w : Typewriter) : Option Typewriter :=
  match w.left with
  | [] => none
  | c :: rest => some ⟨w.typed ++ [c], rest⟩

/-- Frames still to come, from a typed part and a rest. -/
def framesFrom (typed : List Char) : List Char → List String
  | [] => []
  | c :: rest => String.ofList (typed ++ [c]) :: framesFrom (typed ++ [c]) rest

def frames (w : Typewriter) : List String := framesFrom w.typed w.left

/-- Bytes of UTF-8 still to type. -/
def bytesLeft (w : Typewriter) : Nat := w.left.foldr (fun c sum => c.utf8Size + sum) 0

/-- Bounds on the number of frames still to come, from the bytes alone: a
    character has one to four. -/
def frameBounds (w : Typewriter) : Nat × Nat := ((w.bytesLeft + 3) / 4, w.bytesLeft)

theorem frames_of_next?_eq_none {w : Typewriter} (h : w.next? = none) : w.frames = [] := by
  obtain ⟨typed, left⟩ := w
  cases left <;> simp_all [next?, frames, framesFrom]

theorem frames_of_next?_eq_some {w w' : Typewriter} (h : w.next? = some w') :
    w.frames = w'.frame :: w'.frames := by
  obtain ⟨typed, left⟩ := w
  cases left with
  | nil => simp [next?] at h
  | cons c rest =>
    simp only [next?, Option.some.injEq] at h
    subst h
    simp [frames, framesFrom, frame]

theorem length_framesFrom (typed left : List Char) :
    (framesFrom typed left).length = left.length := by
  induction left generalizing typed with
  | nil => rfl
  | cons c rest ih => simp [framesFrom, ih]

end Typewriter

end Enhance
