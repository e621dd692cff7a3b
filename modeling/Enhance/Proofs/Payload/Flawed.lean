/-
  Enhance/Proofs/Payload/Flawed.lean
  ==================================
  **A record without its one proper field is refused.**

  A flawed value is written up to its first flaw: a value of another kind
  where a record or a string should be, an object that closes without the
  field, a key that names the field a second time, or a flaw further inside
  (`FlawedText`).  A reader of the shape that was asked for fails there, so
  it does not matter how the text goes on.  Nor does it matter how many rounds
  are left, since running out of them is a failure too.
-/
import Enhance.Proofs.Payload.Shape

namespace Enhance.Payload

open Text

/-! ### Flawed values -/

/-- A value without brackets that is no string. -/
structure NoStringText where
  scalar : ScalarText
  other : ∀ l, scalar ≠ .string l

def NoStringText.chars (t : NoStringText) : List Char := t.scalar.chars

/-- The members of an object up to its field. -/
structure FieldText (shape : RecordShape) (α : Type) where
  earlier : List (Gap × OtherMember shape.field)
  gap : Gap
  name : StringText
  named : name.means = shape.field.toList
  colon : ColonText
  value : α

def FieldText.chars {shape : RecordShape} {α : Type} (write : α → List Char)
    (t : FieldText shape α) : List Char :=
  row OtherMember.chars true t.earlier ++ (t.gap.chars t.earlier.isEmpty ++ (t.name.chars ++
    (t.colon.chars ++ write t.value)))

/-- What stands in place of a record, up to the first flaw.  Fields that are
    as they should be are an `α`, flawed ones a `β`. -/
inductive FlawedText (shape : RecordShape) (α β : Type) where
  /-- A value without brackets. -/
  | scalar (s : ScalarText)
  /-- An object that does not have the field. -/
  | lacking (others : List (Gap × OtherMember shape.field)) (close : List Blank)
  /-- An object that has the field, and names it again. -/
  | again (field : FieldText shape α) (between : List (Gap × OtherMember shape.field)) (gap : Gap)
      (name : StringText) (named : name.means = shape.field.toList)
  /-- An object in whose field there is a flaw. -/
  | within (field : FieldText shape β)

def FlawedText.chars {shape : RecordShape} {α β : Type} (write : α → List Char)
    (writeFlawed : β → List Char) : FlawedText shape α β → List Char
  | scalar s => s.chars
  | lacking others close =>
    '\x7b' :: (row OtherMember.chars true others ++ (blanks close ++ ['\x7d']))
  | again field between gap name _ =>
    '\x7b' :: (field.chars write ++ (row OtherMember.chars false between ++
      (gap.chars false ++ name.chars)))
  | within field => '\x7b' :: field.chars writeFlawed

/-- A list up to the first flawed item. -/
structure FlawedListText (α β : Type) where
  earlier : List (Gap × α)
  gap : Gap
  item : β

def FlawedListText.chars {α β : Type} (write : α → List Char) (writeFlawed : β → List Char)
    (t : FlawedListText α β) : List Char :=
  '[' :: (row write true t.earlier ++ (t.gap.chars t.earlier.isEmpty ++ writeFlawed t.item))

namespace Reader

variable {α β γ : Type}

/-! ### Failing -/

/-- The reader fails on these bytes. -/
def Fails (r : Reader α) (l : List UInt8) : Prop := ∃ fault, (r l).1 = .error fault

theorem Fails.bind {x : Reader α} {l : List UInt8} (h : Fails x l) (f : α → Reader β) :
    Fails (x >>= f) l := by
  obtain ⟨fault, hfault⟩ := h
  refine ⟨fault, ?_⟩
  rw [bind_apply]
  rcases hx : x l with ⟨fault' | a, m⟩
  · rw [hx] at hfault
    exact congrArg Except.error (Except.error.inj hfault)
  · rw [hx] at hfault
    cases hfault

theorem Fails.of_ok {x : Reader α} {l m : List UInt8} {a : α} {f : α → Reader β}
    (hx : x l = (.ok a, m)) (h : Fails (f a) m) : Fails (x >>= f) l := by
  obtain ⟨fault, hfault⟩ := h
  exact ⟨fault, by rw [bind_of_ok hx, hfault]⟩

theorem Fails.of_eq {x y : Reader α} {l m : List UInt8} (hxy : x l = y m) (h : Fails y m) :
    Fails x l := by
  rw [Fails, hxy]
  exact h

/-- What always fails in the end fails. -/
theorem fails_bind {x : Reader α} {f : α → Reader β} (h : ∀ a m, Fails (f a) m)
    (l : List UInt8) : Fails (x >>= f) l := by
  rcases hx : x l with ⟨fault | a, m⟩
  · exact Fails.bind ⟨fault, by rw [hx]⟩ f
  · exact .of_ok hx (h a m)

theorem fails_refuseHere (why : Misshapen) (l : List UInt8) :
    Fails (refuseHere why : Reader α) l := ⟨_, rfl⟩

theorem fails_refuse (why : Misshapen) (l : List UInt8) : Fails (refuse why : Reader α) l :=
  ⟨_, rfl⟩

theorem fails_failNext (why : Malformed) (l : List UInt8) : Fails (failNext why : Reader α) l :=
  ⟨_, rfl⟩

theorem Fails.enclosed {inside : Reader α} {l : List UInt8} (h : Fails inside l)
    (close : Reader Unit) : Fails (enclosed inside close) l := by
  obtain ⟨fault, hfault⟩ := h
  rcases hinside : inside l with ⟨fault' | a, m⟩
  · rw [Fails, Reader.enclosed, hinside]
    exact ⟨_, rfl⟩
  · rw [hinside] at hfault
    cases hfault

/-- A value of the wrong kind is refused, whatever it turns out to be. -/
theorem fails_refuseValue (expected : String) (b : UInt8) (l : List UInt8) :
    Fails (refuseValue expected b : Reader α) l := by
  unfold refuseValue
  repeat' split
  · exact fails_bind (fun _ => fails_bind fun _ => fails_refuseHere _) l
  · exact fails_bind (fun _ => fails_bind fun _ => fails_refuseHere _) l
  · exact fails_bind (fun _ => fails_bind fun _ => fails_refuseHere _) l
  · exact fails_bind (fun _ => fails_bind fun _ => fails_refuseHere _) l
  · refine fails_bind (fun number m => ?_) l
    split
    · exact fails_refuseHere _ m
    · exact fails_refuseHere _ m
    · exact ⟨_, rfl⟩
  · exact fails_refuseHere _ l
  · exact fails_refuseHere _ l
  · exact fails_failNext _ l

/-- The text begins as a value does, and behind any blanks the reader fails on
    it, whatever follows. -/
structure Refuses (r : Reader α) (text : List Char) : Prop where
  start : ∃ b l, isStart b ∧ encode text = b :: l
  fails : ∀ (before : List Blank) (rest : List UInt8),
    Fails r (encode (blanks before) ++ (encode text ++ rest))

theorem refuses_textValue (t : NoStringText) : Refuses textValue t.chars := by
  obtain ⟨b, l, hb, -, -, hstring, hbytes⟩ := t.scalar.exists_encode_chars
  have hquote : b ≠ byte '"' := by
    intro hq
    obtain ⟨m, hm⟩ := hstring hq
    exact t.other m hm
  refine ⟨⟨b, l, hb, hbytes⟩, fun before rest => ?_⟩
  rw [NoStringText.chars, hbytes, List.cons_append, textValue]
  refine .of_ok (firstByte_apply before hb _) ?_
  rw [if_neg hquote]
  exact fails_refuseValue _ _ _

/-! ### Members up to a flaw -/

section Records

variable {shape : RecordShape} {value : Reader γ}

theorem fails_members_others (l : List (Gap × OtherMember shape.field)) (first : Bool)
    (found : Option γ) {rest : List UInt8} (hrest : l ≠ [] → Delimited rest)
    (h : ∀ n, Fails (members shape value n (first && l.isEmpty) found) rest) (n : Nat) :
    Fails (members shape value n first found)
      (encode (row OtherMember.chars first l) ++ rest) := by
  induction l generalizing first n with
  | nil =>
    rw [List.isEmpty_nil, Bool.and_true] at h
    exact h n
  | cons item l ih =>
    obtain ⟨gap, m⟩ := item
    have hdelimited : Delimited rest := hrest (List.cons_ne_nil _ _)
    rw [List.isEmpty_cons, Bool.and_false] at h
    cases n with
    | zero => exact ⟨_, rfl⟩
    | succ n =>
      rw [row, encode_append, encode_append, List.append_assoc, List.append_assoc]
      refine .of_eq (members_other gap m n first found (delimited_row l hdelimited)) ?_
      exact ih false (fun _ => hdelimited) (by rwa [Bool.false_and]) n

theorem fails_members_key (gap : Gap) (name : StringText) (first : Bool) (found : Option γ)
    (rest : List UInt8) (h : ∀ n, Fails (keyedMember shape value n found (encode name.means)) rest)
    (n : Nat) :
    Fails (members shape value n first found)
      (encode (gap.chars first) ++ (encode name.chars ++ rest)) := by
  cases n with
  | zero => exact ⟨_, rfl⟩
  | succ n => exact .of_eq (members_key gap name n first found rest) (h n)

/-- An object fails at its field if reading the field's value, or what follows
    it, does. -/
theorem fails_members_field {write : α → List Char} (t : FieldText shape α) {rest : List UInt8}
    (h : ∀ n, Fails (do
        let a ← value
        members shape value n false (some a))
      (encode (blanks t.colon.after) ++ (encode (write t.value) ++ rest))) (n : Nat) :
    Fails (members shape value n true none) (encode (t.chars write) ++ rest) := by
  have hname : encode t.name.means = Text.bytes shape.field := congrArg encode t.named
  simp only [FieldText.chars, encode_append, List.append_assoc]
  refine fails_members_others t.earlier true none ?_ ?_ n
  · intro hne
    rw [List.isEmpty_eq_false_iff.mpr hne]
    exact delimited_gap t.gap _
  · rw [Bool.true_and]
    refine fails_members_key t.gap t.name _ none _ fun m => ?_
    rw [keyedMember, if_pos hname]
    simp only [Option.isSome_none, Bool.false_eq_true, if_false]
    exact .of_ok (colon_apply t.colon _) (h m)

variable {a : α} {write : α → List Char} {writeFlawed : β → List Char}

theorem fails_members_within {t : FieldText shape β} (h : Refuses value (writeFlawed t.value))
    (rest : List UInt8) (n : Nat) :
    Fails (members shape value n true none) (encode (t.chars writeFlawed) ++ rest) :=
  fails_members_field t (fun _ => (h.fails t.colon.after rest).bind _) n

theorem fails_members_again {t : FieldText shape α} {c : γ} (h : Takes value (write t.value) c)
    (between : List (Gap × OtherMember shape.field)) (gap : Gap) {name : StringText}
    (named : name.means = shape.field.toList) (rest : List UInt8) (n : Nat) :
    Fails (members shape value n true none)
      (encode (t.chars write) ++ (encode (row OtherMember.chars false between) ++
        (encode (gap.chars false) ++ (encode name.chars ++ rest)))) := by
  have hname : encode name.means = Text.bytes shape.field := congrArg encode named
  have hbetween : Delimited (encode (row OtherMember.chars false between) ++
      (encode (gap.chars false) ++ (encode name.chars ++ rest))) :=
    delimited_row between (delimited_gap gap _)
  refine fails_members_field t (fun m => ?_) n
  refine .of_ok (h.apply t.colon.after _ hbetween) ?_
  refine fails_members_others between false _ (fun _ => delimited_gap gap _) (fun k => ?_) m
  rw [Bool.false_and]
  refine fails_members_key gap name false _ rest (fun j => ?_) k
  rw [keyedMember, if_pos hname]
  exact (fails_refuse _ _).bind _

/-- An object that closes without the field is at fault. -/
theorem fails_soleField_lacking (others : List (Gap × OtherMember shape.field))
    (close : List Blank) (rest : List UInt8) :
    Fails (soleField shape value) (encode (row OtherMember.chars true others) ++
      (encode (blanks close) ++ byte '\x7d' :: rest)) := by
  have hclose : Delimited (encode (blanks close) ++ byte '\x7d' :: rest) :=
    .blanks close (.closing .object rest)
  obtain ⟨n, hn⟩ := exists_rounds_left (length_le_others true others)
    (encode (blanks close) ++ byte '\x7d' :: rest)
  have hmembers : members shape value (n + 1 + others.length) true none _ = _ :=
    members_others others (n + 1) true none fun _ => hclose
  rw [members_closing] at hmembers
  rw [soleField]
  refine .of_ok (get_apply _) ?_
  rw [hn]
  exact .of_ok hmembers (fails_refuse _ _)

theorem fails_soleField {l : List UInt8} (h : ∀ n, Fails (members shape value n true none) l) :
    Fails (soleField shape value) l := by
  rw [soleField]
  exact .of_ok (get_apply l) ((h _).bind _)

/-- **A record with a flaw** is refused, if its field is read when it is as it
    should be and refused when it has a flaw. -/
theorem refuses_recordValue {read : α → γ} (hfield : ∀ a, Takes value (write a) (read a))
    (hflawed : ∀ b, Refuses value (writeFlawed b)) (t : FlawedText shape α β) :
    Refuses (recordValue shape value) (t.chars write writeFlawed) := by
  -- an object is entered, and its inside fails
  have hobject : ∀ {chars : List Char},
      (∀ rest, Fails (soleField shape value) (encode chars ++ rest)) →
      Refuses (recordValue shape value) ('\x7b' :: chars) := by
    intro chars hinside
    have hbytes : encode ('\x7b' :: chars) = byte '\x7b' :: encode chars :=
      encode_cons_ascii (by decide) _
    refine ⟨⟨_, _, by decide, hbytes⟩, fun before rest => ?_⟩
    rw [hbytes, List.cons_append, recordValue]
    refine .of_ok (firstByte_apply before (by decide) _) ?_
    rw [if_neg (by decide), if_pos rfl]
    exact .of_ok (skip_cons _ _) ((hinside rest).enclosed closeObject)
  cases t with
  | scalar s =>
    obtain ⟨b, l, hb, hlist, hbrace, -, hbytes⟩ := s.exists_encode_chars
    refine ⟨⟨b, l, hb, hbytes⟩, fun before rest => ?_⟩
    rw [FlawedText.chars, hbytes, List.cons_append, recordValue]
    refine .of_ok (firstByte_apply before hb _) ?_
    rw [if_neg hlist, if_neg hbrace]
    exact fails_refuseValue _ _ _
  | lacking others close =>
    refine hobject fun rest => ?_
    simp only [encode_append, List.append_assoc]
    exact fails_soleField_lacking others close rest
  | again field between gap name named =>
    refine hobject fun rest => fails_soleField fun n => ?_
    simp only [encode_append, List.append_assoc]
    exact fails_members_again (hfield field.value) between gap named rest n
  | within field =>
    exact hobject fun rest =>
      fails_soleField fun n => fails_members_within (hflawed field.value) rest n

end Records

/-! ### Lists up to a flaw -/

section Lists

variable {element : Reader γ} {write : α → List Char} {writeFlawed : β → List Char} {read : α → γ}

theorem fails_elements_gap (gap : Gap) {b : β} (h : Refuses element (writeFlawed b))
    (sofar : List γ) (rest : List UInt8) (n : Nat) :
    Fails (elements element n sofar)
      (encode (gap.chars sofar.isEmpty) ++ (encode (writeFlawed b) ++ rest)) := by
  obtain ⟨c, l, hc, hbytes⟩ := h.start
  have hfails := h.fails [] rest
  rw [blanks_nil, encode_nil, List.nil_append, hbytes, List.cons_append] at hfails
  cases n with
  | zero => exact ⟨_, rfl⟩
  | succ n =>
    rw [hbytes, List.cons_append]
    exact .of_eq (elements_gap gap hc n sofar _) (hfails.bind _)

theorem fails_elements_row (items : List (Gap × α))
    (h : ∀ a, Takes element (write a) (read a)) (gap : Gap) {b : β}
    (hflawed : Refuses element (writeFlawed b)) (sofar : List γ) (rest : List UInt8) (n : Nat) :
    Fails (elements element n sofar) (encode (row write sofar.isEmpty items) ++
      (encode (gap.chars (sofar.isEmpty && items.isEmpty)) ++ (encode (writeFlawed b) ++ rest))) := by
  induction items generalizing sofar n with
  | nil =>
    rw [List.isEmpty_nil, Bool.and_true]
    exact fails_elements_gap gap hflawed sofar rest n
  | cons item items ih =>
    obtain ⟨gap', a⟩ := item
    cases n with
    | zero => exact ⟨_, rfl⟩
    | succ n =>
      have hitems := ih (read a :: sofar) n
      rw [List.isEmpty_cons, Bool.false_and] at hitems
      rw [List.isEmpty_cons, Bool.and_false, row, encode_append, encode_append, List.append_assoc,
        List.append_assoc]
      have hrest : Delimited (encode (row write false items) ++ _) :=
        delimited_row items (delimited_gap gap (encode (writeFlawed b) ++ rest))
      exact .of_eq (elements_item gap' (h a) n sofar hrest) hitems

/-- **A list with a flawed item** is refused. -/
theorem refuses_listValue (h : ∀ a, Takes element (write a) (read a))
    (hflawed : ∀ b, Refuses element (writeFlawed b)) (t : FlawedListText α β) :
    Refuses (listValue element) (t.chars write writeFlawed) := by
  have hbytes : encode (t.chars write writeFlawed) = byte '[' :: encode (row write true t.earlier ++
      (t.gap.chars t.earlier.isEmpty ++ writeFlawed t.item)) :=
    encode_cons_ascii (by decide) _
  refine ⟨⟨_, _, by decide, hbytes⟩, fun before rest => ?_⟩
  rw [hbytes, List.cons_append, listValue]
  refine .of_ok (firstByte_apply before (by decide) _) ?_
  rw [if_pos rfl]
  refine .of_ok (skip_cons _ _) (Fails.enclosed (.of_ok (get_apply _) ?_) closeList)
  simp only [encode_append, List.append_assoc]
  exact fails_elements_row t.earlier h t.gap (hflawed t.item) [] rest _

end Lists

theorem Fails.document {value : Reader α} {l : List UInt8} (h : Fails value l) :
    Fails (document value) l := h.bind _

end Reader

end Enhance.Payload
