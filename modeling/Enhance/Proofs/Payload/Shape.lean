/-
  Enhance/Proofs/Payload/Shape.lean
  =================================
  **Written values of a given shape are read as they are meant.**

  Every shape is read if its parts are: a reader that takes the items of a list
  makes one that takes the list (`takes_listValue`), and a reader that takes
  the field of a record makes one that takes the record, whatever other members
  stand beside the field (`takes_recordValue`).  Lists and objects are read in
  rounds, one for each item, and each item leaves a byte behind.
-/
import Enhance.Proofs.Payload.Skim

namespace Enhance.Payload

open Text

namespace Reader

variable {α β : Type}

/-! ### Rows of items -/

theorem delimited_row {write : α → List Char} (items : List (Gap × α)) {rest : List UInt8}
    (h : Delimited rest) : Delimited (encode (row write false items) ++ rest) := by
  cases items with
  | nil => exact h
  | cons item items =>
    obtain ⟨gap, a⟩ := item
    rw [row, encode_append, List.append_assoc]
    exact delimited_gap gap _

theorem length_le_row {write : α → List Char} (first : Bool) (items : List (Gap × α))
    (h : ∀ item ∈ items, encode (write item.2) ≠ []) :
    items.length ≤ (encode (row write first items)).length := by
  induction items generalizing first with
  | nil => exact Nat.zero_le _
  | cons item items ih =>
    obtain ⟨gap, a⟩ := item
    have ha : 0 < (encode (write a)).length :=
      List.length_pos_iff.mpr (h (gap, a) List.mem_cons_self)
    have hitems := ih false fun x hx => h x (List.mem_cons_of_mem _ hx)
    rw [row, encode_append, encode_append, List.length_append, List.length_append,
      List.length_cons]
    omega

/-! ### Strings -/

theorem firstByte_apply (before : List Blank) {b : UInt8} (hb : isStart b) (rest : List UInt8) :
    firstByte (encode (blanks before) ++ b :: rest) = (.ok b, b :: rest) := by
  rw [firstByte, skipBlanks_bind_blanks, bind_of_ok (skipBlanks_start hb rest)]
  rfl

/-- A string is read as the characters that are meant. -/
theorem takes_textValue (t : StringText) : Takes textValue t.chars (encode t.means) := by
  refine ⟨⟨byte '"', _, by decide, t.encode_chars⟩, ?_⟩
  intro before rest _
  rw [t.encode_chars, List.cons_append, textValue,
    bind_of_ok (firstByte_apply before (by decide) _), if_pos rfl, bind_of_ok (skip_cons _ _),
    text_apply]

/-! ### Lists -/

theorem skipBlanks_comma (rest : List UInt8) :
    skipBlanks (byte ',' :: rest) = (.ok (), byte ',' :: rest) := rfl

/-- The comma before a later element is passed over, with the blanks behind it. -/
theorem elementComma_apply (after : List Blank) {b : UInt8} (hb : isStart b) (rest : List UInt8) :
    elementComma (byte ',' :: (encode (blanks after) ++ b :: rest)) = (.ok (), b :: rest) := by
  have hsees : sees ',' (byte ',' :: (encode (blanks after) ++ b :: rest)) =
      (.ok true, byte ',' :: (encode (blanks after) ++ b :: rest)) := rfl
  rw [elementComma, bind_of_ok hsees, if_pos rfl, bind_of_ok (skip_cons _ _),
    skipBlanks_bind_blanks, bind_of_ok (skipBlanks_start hb rest), bind_of_ok (peek?_cons _ _)]
  simp only [if_neg hb.2.2.1, pure_apply]

section Lists

variable {element : Reader β} {write : α → List Char} {value : α → β}

/-- A round leaves what stands before an element behind, and reads it. -/
theorem elements_gap (gap : Gap) {b : UInt8} (hb : isStart b) (n : Nat) (sofar : List β)
    (rest : List UInt8) :
    elements element (n + 1) sofar (encode (gap.chars sofar.isEmpty) ++ b :: rest) =
      (do
        let a ← element
        elements element n (a :: sofar)) (b :: rest) := by
  cases sofar with
  | nil =>
    rw [List.isEmpty_nil, encode_gap_first, elements, skipBlanks_bind_blanks,
      bind_of_ok (skipBlanks_start hb _), bind_of_ok (peek?_cons _ _)]
    simp only [if_neg hb.2.2.1]
    rw [if_neg (by simp)]
  | cons x sofar =>
    rw [List.isEmpty_cons, encode_gap_later, List.append_assoc, elements, skipBlanks_bind_blanks,
      List.cons_append, bind_of_ok (skipBlanks_comma _), bind_of_ok (peek?_cons _ _)]
    simp only [if_neg (show byte ',' ≠ byte ']' by decide)]
    rw [if_pos (by simp), bind_of_ok (elementComma_apply gap.after hb _)]

theorem elements_item (gap : Gap) {a : α} (h : Takes element (write a) (value a)) (n : Nat)
    (sofar : List β) {rest : List UInt8} (hrest : Delimited rest) :
    elements element (n + 1) sofar
        (encode (gap.chars sofar.isEmpty) ++ (encode (write a) ++ rest)) =
      elements element n (value a :: sofar) rest := by
  obtain ⟨b, l, hb, hbytes⟩ := h.start
  have helement := h.apply [] rest hrest
  rw [blanks_nil, encode_nil, List.nil_append] at helement
  rw [hbytes, List.cons_append] at helement ⊢
  rw [elements_gap gap hb, bind_of_ok helement]

theorem elements_row (items : List (Gap × α))
    (h : ∀ item ∈ items, Takes element (write item.2) (value item.2)) (n : Nat) (sofar : List β)
    {rest : List UInt8} (hrest : Delimited rest) :
    elements element (n + items.length) sofar
        (encode (row write sofar.isEmpty items) ++ rest) =
      elements element n ((items.map fun item => value item.2).reverse ++ sofar) rest := by
  induction items generalizing sofar with
  | nil => rfl
  | cons item items ih =>
    obtain ⟨gap, a⟩ := item
    have ha : Takes element (write a) (value a) := h (gap, a) List.mem_cons_self
    have hitems := ih (fun x hx => h x (List.mem_cons_of_mem _ hx)) (value a :: sofar)
    rw [List.isEmpty_cons] at hitems
    rw [row, encode_append, encode_append, List.append_assoc, List.append_assoc,
      List.length_cons, ← Nat.add_assoc, elements_item gap ha _ _ (delimited_row items hrest),
      hitems, List.map_cons, List.reverse_cons, List.append_assoc]
    rfl

theorem elements_closing (n : Nat) (sofar : List β) (close : List Blank) (rest : List UInt8) :
    elements element (n + 1) sofar (encode (blanks close) ++ byte ']' :: rest) =
      (.ok sofar.reverse, byte ']' :: rest) := by
  rw [elements, skipBlanks_bind_blanks]
  rfl

/-- **A list** is read if its items are. -/
theorem takes_listValue (value : α → β) {t : ListText α}
    (h : ∀ item ∈ t.items, Takes element (write item.2) (value item.2)) :
    Takes (listValue element) (t.chars write) (t.items.map fun item => value item.2) := by
  have hbytes : encode (t.chars write) = byte '[' :: (encode (row write true t.items) ++
      (encode (blanks t.close) ++ [byte ']'])) := by
    rw [ListText.chars, encode_cons_ascii (by decide), encode_append, encode_append]
    rfl
  refine ⟨⟨byte '[', _, by decide, hbytes⟩, ?_⟩
  intro before rest _
  have hlen : t.items.length ≤ (encode (row write true t.items)).length := by
    apply length_le_row
    intro item hitem hnil
    obtain ⟨b, l, -, hstart⟩ := (h item hitem).start
    rw [hnil] at hstart
    cases hstart
  obtain ⟨n, hn⟩ := exists_rounds_left hlen (encode (blanks t.close) ++ byte ']' :: rest)
  have hdelimited : Delimited (encode (blanks t.close) ++ byte ']' :: rest) :=
    .blanks t.close (.closing .list rest)
  have hinside : (do elements element ((← get).length + 1) [])
      (encode (row write true t.items) ++ (encode (blanks t.close) ++ byte ']' :: rest)) =
      (.ok (t.items.map fun item => value item.2), byte ']' :: rest) := by
    have hrow := elements_row t.items h (n + 1) [] hdelimited
    rw [List.isEmpty_nil, List.append_nil] at hrow
    rw [bind_of_ok (get_apply _), hn, hrow, elements_closing, List.reverse_reverse]
  rw [hbytes, List.cons_append, listValue, bind_of_ok (firstByte_apply before (by decide) _),
    if_pos rfl, bind_of_ok (skip_cons _ _), List.append_assoc, List.append_assoc]
  exact enclosed_of_ok hinside rfl

end Lists

/-! ### Members -/

section Records

variable {shape : RecordShape} {value : Reader β}

/-- What a round of `members` does behind the key. -/
def keyedMember (shape : RecordShape) (value : Reader β) (n : Nat) (found : Option β)
    (key : List UInt8) : Reader (Option β) := do
  if key = Text.bytes shape.field then
    if found.isSome then refuse (.duplicateField shape.field)
    colon
    let a ← value
    members shape value n false (some a)
  else
    colon
    skim
    members shape value n false found

/-- A round reads a key and what stands before it. -/
theorem members_key (gap : Gap) (name : StringText) (n : Nat) (first : Bool) (found : Option β)
    (rest : List UInt8) :
    members shape value (n + 1) first found
        (encode (gap.chars first) ++ (encode name.chars ++ rest)) =
      keyedMember shape value n found (encode name.means) rest := by
  rw [name.encode_chars, List.cons_append]
  cases first with
  | true =>
    have hcomma : ∀ m, keyComma true (byte '"') (byte '"' :: m) = (.ok (), byte '"' :: m) :=
      fun _ => rfl
    rw [encode_gap_first, members, skipBlanks_bind_blanks,
      bind_of_ok (skipBlanks_start (by decide) _), bind_of_ok (peek?_cons _ _)]
    simp only [if_neg (show byte '"' ≠ byte '\x7d' by decide)]
    rw [bind_of_ok (hcomma _), bind_of_ok (skip_cons _ _), bind_of_ok (text_apply name rest)]
    rfl
  | false =>
    have hcomma : ∀ m, keyComma false (byte ',') (byte ',' :: (encode (blanks gap.after) ++
        byte '"' :: m)) = (.ok (), byte '"' :: m) := by
      intro m
      simp only [keyComma, Bool.false_eq_true, if_false, if_true]
      rw [bind_of_ok (skip_cons _ _), skipBlanks_bind_blanks]
      rfl
    rw [encode_gap_later, List.append_assoc, members, skipBlanks_bind_blanks, List.cons_append,
      bind_of_ok (skipBlanks_comma _), bind_of_ok (peek?_cons _ _)]
    simp only [if_neg (show byte ',' ≠ byte '\x7d' by decide)]
    rw [bind_of_ok (hcomma _), bind_of_ok (skip_cons _ _), bind_of_ok (text_apply name rest)]
    rfl

theorem members_other (gap : Gap) (m : OtherMember shape.field) (n : Nat) (first : Bool)
    (found : Option β) {rest : List UInt8} (hrest : Delimited rest) :
    members shape value (n + 1) first found
        (encode (gap.chars first) ++ (encode m.chars ++ rest)) =
      members shape value n false found rest := by
  have hname : encode m.name.means ≠ Text.bytes shape.field := fun h => m.other (encode_injective h)
  rw [OtherMember.chars, encode_append, encode_append, List.append_assoc, List.append_assoc,
    members_key, keyedMember, if_neg hname, bind_of_ok (colon_apply m.colon _),
    bind_of_ok ((takes_skim m.value).apply m.colon.after rest hrest)]

theorem members_others (l : List (Gap × OtherMember shape.field)) (n : Nat) (first : Bool)
    (found : Option β) {rest : List UInt8} (hrest : l ≠ [] → Delimited rest) :
    members shape value (n + l.length) first found
        (encode (row OtherMember.chars first l) ++ rest) =
      members shape value n (first && l.isEmpty) found rest := by
  induction l generalizing first with
  | nil =>
    rw [List.isEmpty_nil, Bool.and_true]
    rfl
  | cons item l ih =>
    obtain ⟨gap, m⟩ := item
    rw [row, encode_append, encode_append, List.append_assoc, List.append_assoc, List.length_cons,
      ← Nat.add_assoc, members_other gap m _ _ _ (delimited_row l (hrest (List.cons_ne_nil _ _))),
      ih false fun _ => hrest (List.cons_ne_nil _ _), List.isEmpty_cons, Bool.false_and,
      Bool.and_false]

theorem members_field (gap : Gap) (name : StringText) (named : name.means = shape.field.toList)
    (t : ColonText) {text : List Char} {b : β} (h : Takes value text b) (n : Nat) (first : Bool)
    {rest : List UInt8} (hrest : Delimited rest) :
    members shape value (n + 1) first none
        (encode (gap.chars first) ++ (encode name.chars ++ (encode t.chars ++
          (encode text ++ rest)))) =
      members shape value n false (some b) rest := by
  have hname : encode name.means = Text.bytes shape.field := congrArg encode named
  rw [members_key, keyedMember, if_pos hname]
  simp only [Option.isSome_none, Bool.false_eq_true, if_false]
  rw [bind_of_ok (colon_apply t _), bind_of_ok (h.apply t.after rest hrest)]

theorem members_closing (n : Nat) (first : Bool) (found : Option β) (close : List Blank)
    (rest : List UInt8) :
    members shape value (n + 1) first found (encode (blanks close) ++ byte '\x7d' :: rest) =
      (.ok found, byte '\x7d' :: rest) := by
  rw [members, skipBlanks_bind_blanks]
  rfl

/-! ### Records -/

variable {a : α} {write : α → List Char} {b : β}

theorem soleElement_apply (h : Takes value (write a) b) (before : List Blank) {rest : List UInt8}
    (hrest : Delimited rest) :
    soleElement shape value (encode (blanks before) ++ (encode (write a) ++ rest)) =
      (.ok b, rest) := by
  obtain ⟨c, l, hc, hbytes⟩ := h.start
  have hvalue := h.apply [] rest hrest
  rw [blanks_nil, encode_nil, List.nil_append] at hvalue
  rw [hbytes, List.cons_append] at hvalue ⊢
  rw [soleElement, skipBlanks_bind_blanks, bind_of_ok (skipBlanks_start hc _),
    bind_of_ok (peek?_cons _ _)]
  simp only [if_neg hc.2.2.1]
  exact hvalue

theorem length_le_others (first : Bool) (l : List (Gap × OtherMember shape.field)) :
    l.length ≤ (encode (row OtherMember.chars first l)).length := by
  apply length_le_row
  intro item _ hnil
  rw [OtherMember.chars, encode_append, StringText.encode_chars] at hnil
  cases hnil

/-- The field of a record written as an object is read, whatever stands around
    it. -/
theorem soleField_apply (earlier : List (Gap × OtherMember shape.field)) (gap : Gap)
    (name : StringText) (named : name.means = shape.field.toList) (t : ColonText)
    (h : Takes value (write a) b) (later : List (Gap × OtherMember shape.field))
    (close : List Blank) (rest : List UInt8) :
    soleField shape value (encode (row OtherMember.chars true earlier) ++
        (encode (gap.chars earlier.isEmpty) ++ (encode name.chars ++ (encode t.chars ++
          (encode (write a) ++ (encode (row OtherMember.chars false later) ++
            (encode (blanks close) ++ byte '\x7d' :: rest))))))) =
      (.ok b, byte '\x7d' :: rest) := by
  have hclose : Delimited (encode (blanks close) ++ byte '\x7d' :: rest) :=
    .blanks close (.closing .object rest)
  have hlater : Delimited (encode (row OtherMember.chars false later) ++
      (encode (blanks close) ++ byte '\x7d' :: rest)) := delimited_row later hclose
  have hfirst := length_le_others true earlier
  obtain ⟨n, hn⟩ := exists_rounds_left hfirst
    (encode (gap.chars earlier.isEmpty) ++ (encode name.chars ++ (encode t.chars ++
      (encode (write a) ++ (encode (row OtherMember.chars false later) ++
        (encode (blanks close) ++ byte '\x7d' :: rest))))))
  -- the rounds left over are enough for the field and the later members
  obtain ⟨m, rfl⟩ : ∃ m, n = m + 1 + later.length := by
    have hle := length_le_others false later
    refine ⟨n - (later.length + 1), ?_⟩
    simp only [List.length_append, StringText.encode_chars, List.length_cons] at hn
    omega
  have hearlier : earlier ≠ [] → Delimited (encode (gap.chars earlier.isEmpty) ++
      (encode name.chars ++ (encode t.chars ++ (encode (write a) ++
        (encode (row OtherMember.chars false later) ++
          (encode (blanks close) ++ byte '\x7d' :: rest)))))) := by
    intro hne
    rw [List.isEmpty_eq_false_iff.mpr hne]
    exact delimited_gap gap _
  have hmembers : members shape value (m + 1 + later.length + 1 + earlier.length) true none _ = _ :=
    members_others earlier (m + 1 + later.length + 1) true none hearlier
  rw [Bool.true_and, members_field gap name named t h _ _ hlater,
    members_others later _ _ _ fun _ => hclose, Bool.false_and, members_closing] at hmembers
  rw [soleField, bind_of_ok (get_apply _), hn, bind_of_ok hmembers]
  rfl

/-- **A record** is read if its field is. -/
theorem takes_recordValue {t : RecordText shape α} (h : Takes value (write t.field) b) :
    Takes (recordValue shape value) (t.chars write) b := by
  cases t with
  | sole before a close =>
    have hbytes : encode ((RecordText.sole before a close : RecordText shape α).chars write) =
        byte '[' :: (encode (blanks before) ++ (encode (write a) ++
          (encode (blanks close) ++ [byte ']']))) := by
      rw [RecordText.chars, encode_cons_ascii (by decide), encode_append, encode_append,
        encode_append]
      rfl
    refine ⟨⟨byte '[', _, by decide, hbytes⟩, ?_⟩
    intro front rest _
    have hend : Delimited (encode (blanks close) ++ byte ']' :: rest) :=
      .blanks close (.closing .list rest)
    have hinside : soleElement shape value (encode (blanks before) ++ (encode (write a) ++
        (encode (blanks close) ++ byte ']' :: rest))) = (.ok b, _) :=
      soleElement_apply h before hend
    have hclose : closeList (encode (blanks close) ++ byte ']' :: rest) = (.ok (), rest) := by
      rw [closeList, skipBlanks_bind_blanks]
      rfl
    rw [hbytes, List.cons_append, recordValue, bind_of_ok (firstByte_apply front (by decide) _),
      if_pos rfl, bind_of_ok (skip_cons _ _)]
    simp only [List.append_assoc]
    exact enclosed_of_ok hinside hclose
  | object earlier gap name named colon a later close =>
    have hbytes : encode ((RecordText.object earlier gap name named colon a later close).chars
        write) = byte '\x7b' :: (encode (row OtherMember.chars true earlier) ++
          (encode (gap.chars earlier.isEmpty) ++ (encode name.chars ++ (encode colon.chars ++
            (encode (write a) ++ (encode (row OtherMember.chars false later) ++
              (encode (blanks close) ++ [byte '\x7d']))))))) := by
      rw [RecordText.chars, encode_cons_ascii (by decide)]
      simp only [encode_append]
      rfl
    refine ⟨⟨byte '\x7b', _, by decide, hbytes⟩, ?_⟩
    intro front rest _
    have hinside := soleField_apply earlier gap name named colon h later close rest
    have hclose : closeObject (byte '\x7d' :: rest) = (.ok (), rest) := rfl
    rw [hbytes, List.cons_append, recordValue, bind_of_ok (firstByte_apply front (by decide) _),
      if_neg (by decide), if_pos rfl, bind_of_ok (skip_cons _ _)]
    simp only [List.append_assoc]
    exact enclosed_of_ok hinside hclose

end Records

/-! ### Documents -/

/-- **A value with blanks around it** is a document. -/
theorem document_apply {value : Reader β} {write : α → List Char} {t : DocumentText α} {b : β}
    (h : Takes value (write t.value) b) :
    document value (encode (t.chars write)) = (.ok b, []) := by
  have hback : Delimited (encode (blanks t.back)) := by
    have hnil := Delimited.blanks t.back .nil
    rwa [List.append_nil] at hnil
  have hrest : skipBlanks (encode (blanks t.back)) = (.ok (), []) := by
    have hdrop := dropWhile_blanks t.back []
    rw [List.append_nil] at hdrop
    rw [skipBlanks_apply, hdrop]
    rfl
  rw [DocumentText.chars, encode_append, encode_append, document,
    bind_of_ok (h.apply t.front _ hback), bind_of_ok hrest]
  rfl

end Reader

end Enhance.Payload
