/-
  Enhance/Proofs/Typewriter.lean
  ==============================
  **What a typewriter shows, call after call.**

  After `k` calls the first `k` characters of the line are typed (`after_ofText`), so
  that the frames are the beginnings of the line, each a character longer than the one
  before.  The same is read off the bytes of the line by a reader that walks them and
  shows the line up to the byte that it has come to: it never comes to stand inside a
  character, and answers what the typewriter answers (`answer_callAt`).
-/
import Enhance.Typewriter

namespace Enhance.Typewriter

/-! ### Call after call -/

section Calls

variable {σ : Type} (call : σ → Option String × σ) (s : σ)

/-- The state after so many calls. -/
def after : Nat → σ
  | 0 => s
  | k + 1 => (call (after k)).2

/-- The answer to the call after `k` others. -/
def answer (k : Nat) : Option String := (call (after call s k)).1

theorem after_add (k j : Nat) : after call s (k + j) = after call (after call s k) j := by
  induction j with
  | zero => rfl
  | succ j ih => exact congrArg (fun t => (call t).2) ih

theorem answer_after (k j : Nat) : answer call (after call s k) j = answer call s (k + j) := by
  simp only [answer, after_add]

theorem answer_succ (k : Nat) : answer call s (k + 1) = answer call (call s).2 k := by
  rw [Nat.add_comm, ← answer_after]
  rfl

end Calls

/-- A call: the next frame, if there is one, and the typewriter behind it. -/
def call (w : Typewriter) : Option String × Typewriter :=
  match w.next? with
  | none => (none, w)
  | some w' => (some w'.frame, w')

theorem call_of_none {w : Typewriter} (h : w.next? = none) : call w = (none, w) := by
  simp only [call, h]

theorem call_of_some {w w' : Typewriter} (h : w.next? = some w') :
    call w = (some w'.frame, w') := by
  simp only [call, h]

/-- The frames to come are the answers to the calls to come. -/
theorem getElem?_frames (w : Typewriter) (k : Nat) : w.frames[k]? = answer call w k := by
  induction k generalizing w with
  | zero =>
    cases h : w.next? with
    | none => simp [answer, after, call_of_none h, frames_of_next?_eq_none h]
    | some w' => simp [answer, after, call_of_some h, frames_of_next?_eq_some h]
  | succ k ih =>
    rw [answer_succ, ← ih]
    cases h : w.next? with
    | none => simp [call_of_none h, frames_of_next?_eq_none h]
    | some w' => simp [call_of_some h, frames_of_next?_eq_some h]

theorem frames_after (w : Typewriter) (k : Nat) : (after call w k).frames = w.frames.drop k := by
  apply List.ext_getElem?
  intro j
  simp only [List.getElem?_drop, getElem?_frames, answer_after]

/-! ### The first characters of a line -/

/-- The first `k` characters of a line are typed. -/
def upTo (line : List Char) (k : Nat) : Typewriter := ⟨line.take k, line.drop k⟩

variable {line : List Char} {k : Nat}

theorem next?_upTo (hk : k < line.length) : (upTo line k).next? = some (upTo line (k + 1)) := by
  have hdrop := List.drop_eq_getElem_cons hk
  unfold upTo next?
  simp only [hdrop, List.take_append_getElem hk]

theorem upTo_of_le (hk : line.length ≤ k) : upTo line k = ⟨line, []⟩ := by
  simp only [upTo, List.take_of_length_le hk, List.drop_of_length_le hk]

theorem call_upTo_of_lt (hk : k < line.length) :
    call (upTo line k) = (some (upTo line (k + 1)).frame, upTo line (k + 1)) :=
  call_of_some (next?_upTo hk)

theorem call_upTo_of_le (hk : line.length ≤ k) :
    call (upTo line k) = (none, upTo line (k + 1)) := by
  rw [upTo_of_le hk, upTo_of_le (Nat.le_succ_of_le hk)]
  rfl

theorem frame_upTo_of_le {line : String} (hk : line.toList.length ≤ k) :
    (upTo line.toList k).frame = line := by
  simp only [upTo_of_le hk, frame, String.ofList_toList]

/-- A character more is typed than before. -/
theorem frame_upTo_succ {l : List Char} (hk : k < l.length) :
    (upTo l (k + 1)).frame = (upTo l k).frame.push l[k] := by
  simp only [frame, upTo, List.take_add_one, List.getElem?_eq_getElem hk, Option.toList_some]
  rw [String.ofList_append, ← String.singleton_eq_ofList, ← String.push_eq_append]

theorem after_ofText (line : String) (k : Nat) :
    after call (ofText line) k = upTo line.toList k := by
  induction k with
  | zero => rfl
  | succ k ih =>
    rw [after, ih]
    rcases Nat.lt_or_ge k line.toList.length with hk | hk
    · rw [call_upTo_of_lt hk]
    · rw [call_upTo_of_le hk]

/-- The frame after `k` others is the first `k + 1` characters, as long as there are so many. -/
theorem answer_ofText (line : String) (k : Nat) : answer call (ofText line) k =
    if k < line.length then some (String.ofList (line.toList.take (k + 1))) else none := by
  rw [answer, after_ofText, ← String.length_toList]
  rcases Nat.lt_or_ge k line.toList.length with hk | hk
  · rw [call_upTo_of_lt hk, if_pos hk]
    rfl
  · rw [call_upTo_of_le hk, if_neg (Nat.not_lt.mpr hk)]

/-- The frame before is followed by the next character. -/
theorem answer_eq_push (line : String) (k : Nat) : answer call (ofText line) k =
    line.toList[k]?.map (after call (ofText line) k).frame.push := by
  rw [answer, after_ofText]
  rcases Nat.lt_or_ge k line.toList.length with hk | hk
  · simp only [call_upTo_of_lt hk, frame_upTo_succ hk, List.getElem?_eq_getElem hk,
      Option.map_some]
  · simp only [call_upTo_of_le hk, List.getElem?_eq_none hk, Option.map_none]

theorem length_frames_ofText (line : String) : (ofText line).frames.length = line.length := by
  simp only [frames, length_framesFrom, ofText, String.length_toList]

/-- The last frame is the whole line; only an empty line has none. -/
theorem getLast?_frames_ofText (line : String) :
    (ofText line).frames.getLast? = if line = "" then none else some line := by
  rw [List.getLast?_eq_getElem?, length_frames_ofText, getElem?_frames, answer_ofText]
  by_cases hempty : line = ""
  · simp [hempty]
  · have hpos : 0 < line.length :=
      Nat.pos_of_ne_zero fun h => hempty (String.length_eq_zero_iff.mp h)
    have hall : line.toList.take (line.length - 1 + 1) = line.toList := by
      rw [Nat.sub_add_cancel hpos, ← String.length_toList, List.take_length]
    rw [if_pos (Nat.sub_lt hpos Nat.one_pos), hall, String.ofList_toList, if_neg hempty]

/-! ### Bounds from the bytes alone -/

theorem bytesLeft_cons (typed : List Char) (c : Char) (rest : List Char) :
    bytesLeft ⟨typed, c :: rest⟩ = c.utf8Size + bytesLeft ⟨typed, rest⟩ := rfl

theorem bytesLeft_eq (w : Typewriter) : w.bytesLeft = (String.ofList w.left).utf8ByteSize := by
  obtain ⟨typed, left⟩ := w
  induction left with
  | nil => rfl
  | cons c rest ih =>
    rw [bytesLeft_cons, ih, String.ofList_cons, String.utf8ByteSize_append,
      String.utf8ByteSize_singleton]

/-- A character has one to four bytes. -/
theorem bytesLeft_bounds (w : Typewriter) :
    w.left.length ≤ w.bytesLeft ∧ w.bytesLeft ≤ 4 * w.left.length := by
  obtain ⟨typed, left⟩ := w
  induction left with
  | nil => exact ⟨Nat.le_refl _, Nat.le_refl _⟩
  | cons c rest ih =>
    have hpos := c.utf8Size_pos
    have hle := c.utf8Size_le_four
    simp only [bytesLeft_cons, List.length_cons] at ih ⊢
    omega

/-- The bounds are right at every moment, and zero at the end only. -/
theorem frameBounds_frames (w : Typewriter) :
    w.frameBounds.1 ≤ w.frames.length ∧ w.frames.length ≤ w.frameBounds.2 ∧
      (w.frameBounds.1 = 0 ↔ w.frames.length = 0) ∧
      (w.frameBounds.2 = 0 ↔ w.frames.length = 0) := by
  have hlength : w.frames.length = w.left.length := length_framesFrom w.typed w.left
  obtain ⟨hlower, hupper⟩ := w.bytesLeft_bounds
  simp only [frameBounds, hlength]
  omega

/-! ### The line as bytes -/

/-- What the first bytes of a line say, unless they end inside a character. -/
def cut? (line : String) (bytes : Nat) : Option String :=
  String.fromUTF8? (line.toByteArray.extract 0 bytes)

/-- A call on the bytes of a line, at one of them: the character that begins there is read, and
    the line is cut behind it. -/
def callAt (line : String) (start : Nat) : Option String × Nat :=
  match line.toByteArray.utf8DecodeChar? start with
  | none => (none, start)
  | some c => (cut? line (start + c.utf8Size), start + c.utf8Size)

theorem cut?_append (s t : String) : cut? (s ++ t) s.utf8ByteSize = some s := by
  have hbytes : (s ++ t).toByteArray.extract 0 s.utf8ByteSize = s.toByteArray := by
    rw [String.toByteArray_append]
    exact ByteArray.extract_append_eq_left rfl
  rw [cut?, hbytes, String.fromUTF8?, dif_pos s.isValidUTF8]
  rfl

theorem utf8DecodeChar?_append (s t : String) (c : Char) :
    (s ++ String.singleton c ++ t).toByteArray.utf8DecodeChar? s.utf8ByteSize = some c := by
  have hbytes : (s ++ String.singleton c ++ t).toByteArray =
      s.toByteArray ++ ([c].utf8Encode ++ t.toByteArray) := by
    simp only [String.toByteArray_append, String.singleton_eq_ofList, String.toByteArray_ofList,
      ByteArray.append_assoc]
  have hrest : (s.toByteArray ++ ([c].utf8Encode ++ t.toByteArray)).extract s.utf8ByteSize
      (s.toByteArray ++ ([c].utf8Encode ++ t.toByteArray)).size =
        [c].utf8Encode ++ t.toByteArray :=
    ByteArray.extract_append_eq_right rfl ByteArray.size_append
  rw [hbytes, ByteArray.utf8DecodeChar?_eq_utf8DecodeChar?_extract, hrest,
    List.utf8DecodeChar?_utf8Encode_singleton_append]

theorem utf8DecodeChar?_utf8ByteSize (s : String) :
    s.toByteArray.utf8DecodeChar? s.utf8ByteSize = none := by
  cases h : s.toByteArray.utf8DecodeChar? s.utf8ByteSize with
  | none => rfl
  | some c =>
    have hlt := ByteArray.lt_size_of_isSome_utf8DecodeChar? (Option.isSome_of_eq_some h)
    exact absurd hlt (Nat.lt_irrefl _)

/-- Behind the bytes of `s`, the next character is read, and `s` is shown with it. -/
theorem callAt_append (s t : String) (c : Char) :
    callAt (s ++ String.singleton c ++ t) s.utf8ByteSize =
      (some (s.push c), (s.push c).utf8ByteSize) := by
  have hsize : s.utf8ByteSize + c.utf8Size = (s ++ String.singleton c).utf8ByteSize := by
    rw [String.utf8ByteSize_append, String.utf8ByteSize_singleton]
  simp only [callAt, utf8DecodeChar?_append, hsize, cut?_append, String.push_eq_append]

theorem callAt_utf8ByteSize (line : String) :
    callAt line line.utf8ByteSize = (none, line.utf8ByteSize) := by
  simp only [callAt, utf8DecodeChar?_utf8ByteSize]

/-- The bytes of the line are read in step with its characters. -/
theorem callAt_upTo (line : String) (k : Nat) :
    callAt line (upTo line.toList k).frame.utf8ByteSize =
      ((call (upTo line.toList k)).1, (upTo line.toList (k + 1)).frame.utf8ByteSize) := by
  rcases Nat.lt_or_ge k line.toList.length with hk | hk
  · have hline : (upTo line.toList k).frame ++ String.singleton line.toList[k] ++
        String.ofList (line.toList.drop (k + 1)) = line := by
      rw [String.singleton_eq_ofList, frame, ← String.ofList_append, ← String.ofList_append]
      simp [upTo]
    have hcall := callAt_append (upTo line.toList k).frame
      (String.ofList (line.toList.drop (k + 1))) line.toList[k]
    rw [hline, ← frame_upTo_succ hk] at hcall
    rw [hcall, call_upTo_of_lt hk]
  · rw [frame_upTo_of_le hk, frame_upTo_of_le (Nat.le_succ_of_le hk), call_upTo_of_le hk]
    exact callAt_utf8ByteSize line

theorem after_callAt (line : String) (k : Nat) :
    after (callAt line) 0 k = (upTo line.toList k).frame.utf8ByteSize := by
  induction k with
  | zero => rfl
  | succ k ih => rw [after, ih, callAt_upTo]

theorem answer_callAt (line : String) (k : Nat) :
    answer (callAt line) 0 k = answer call (ofText line) k := by
  simp only [answer, after_callAt, callAt_upTo, after_ofText]

/-- The bytes left are those behind the place that the reader has come to. -/
theorem bytesLeft_after (line : String) (k : Nat) :
    (after call (ofText line) k).bytesLeft = line.utf8ByteSize - after (callAt line) 0 k := by
  have hline : (upTo line.toList k).frame ++ String.ofList (upTo line.toList k).left = line := by
    rw [frame, ← String.ofList_append, upTo, List.take_append_drop, String.ofList_toList]
  have hsize := congrArg String.utf8ByteSize hline
  rw [String.utf8ByteSize_append] at hsize
  rw [after_ofText, after_callAt, bytesLeft_eq]
  omega

/-- **A typewriter shows the beginnings of its line, and then nothing.**  There are as many
    frames as the line has characters, and the last one is the line.  The call after `k` others
    answers with the first `k + 1` characters, which are those on the page and one more, and all
    calls after the last frame answer nothing.  A reader of the bytes answers the same: none of
    its cuts is inside a character.  At every moment the bounds, which are drawn from the bytes
    not read yet, hold the number of frames still to come between them, and each of them is zero
    exactly when there are no more. -/
theorem frames_ofText (line : String) :
    let frames := (ofText line).frames
    frames.length = line.length ∧
    frames.getLast? = (if line = "" then none else some line) ∧
    ∀ k, let w := after call (ofText line) k
      answer call (ofText line) k = frames[k]? ∧
      answer (callAt line) 0 k = frames[k]? ∧
      frames[k]? =
        (if k < line.length then some (String.ofList (line.toList.take (k + 1))) else none) ∧
      frames[k]? = line.toList[k]?.map w.frame.push ∧
      w.frames = frames.drop k ∧
      w.bytesLeft = line.utf8ByteSize - after (callAt line) 0 k ∧
      w.frameBounds.1 ≤ w.frames.length ∧ w.frames.length ≤ w.frameBounds.2 ∧
      (w.frameBounds.1 = 0 ↔ w.frames.length = 0) ∧
      (w.frameBounds.2 = 0 ↔ w.frames.length = 0) := by
  intro frames
  refine ⟨length_frames_ofText line, getLast?_frames_ofText line, ?_⟩
  intro k w
  have hshown : frames[k]? = answer call (ofText line) k := getElem?_frames _ k
  rw [hshown]
  exact ⟨rfl, answer_callAt line k, answer_ofText line k, answer_eq_push line k,
    frames_after (ofText line) k, bytesLeft_after line k, w.frameBounds_frames⟩

/-- Seven characters in eleven bytes, among them one of two bytes and one of four. -/
example : (ofText "héllo 🚀").frames.length = 7 ∧ (ofText "héllo 🚀").frameBounds = (3, 11) := by
  decide

end Enhance.Typewriter
