/-
  Enhance/Proofs/Payload/Skim.lean
  ================================
  **Values that nobody asks for are passed over to their last byte.**

  A number ends where its digits do, so it needs something behind it that could
  not carry it on.  Between brackets, the skimmer keeps a stack of its own; but
  whatever is written between two partners, it leaves the stack below them as
  it was (`skimOpen_inside`).  The induction is on the written value: a
  bracketed value inside another one is the same statement with one bracket
  more on the stack.
-/
import Enhance.Payload.Skim
import Enhance.Proofs.Payload.Quotation

namespace Enhance.Payload

open Text

namespace Reader

/-! ### Digits -/

/-- The bytes left do not begin with a digit. -/
def NoDigit (rest : List UInt8) : Prop := ∀ b ∈ rest.head?, isDigitByte b = false

theorem digits_encode {l : List Char} (hl : ∀ c ∈ l, c.isDigit = true) {rest : List UInt8}
    (h : NoDigit rest) : digits (encode l ++ rest) = (.ok (encode l), rest) := by
  rw [digits_apply, takeWhile_digits hl h, dropWhile_digits hl h]

/-- A digit is not a byte of another kind. -/
theorem byte_ne_of_isDigit {c d : Char} (hc : c.isDigit = true)
    (hd : isDigitByte (byte d) = false) : byte c ≠ byte d := by
  intro h
  have hdigit := isDigitByte_byte hc
  rw [h, hd] at hdigit
  cases hdigit

/-! ### Numbers -/

variable {rest : List UInt8} (atEnd : Malformed)

theorem powerDigits_apply (p : PowerText) (h : NoDigit rest) :
    powerDigits atEnd ((encode p.chars ++ rest).drop 1) =
      (.ok (p.minus == some true, encode p.row.chars), rest) := by
  obtain ⟨c, cs, -, hc, hcs, hrow⟩ := p.row.exists_encode
  have hdigits := digits_encode hcs h
  have hdigit := isDigitByte_byte hc
  have hminus : (byte c == byte '-') = false :=
    beq_false_of_ne (byte_ne_of_isDigit hc (by decide))
  have hplus : (byte c == byte '+') = false :=
    beq_false_of_ne (byte_ne_of_isDigit hc (by decide))
  have hsigns : (byte '+' == byte '-') = false := by decide
  have hletter : (if p.capital then 'E' else 'e').toNat < 128 := by
    cases p.capital <;> decide
  rw [PowerText.chars, encode_cons_ascii hletter, encode_append, hrow, List.cons_append,
    List.drop_succ_cons, List.drop_zero]
  match p.minus with
  | none => simp [powerDigits, bind_apply, map_apply, hminus, hplus, hdigit, hdigits]
  | some true => simp [powerDigits, bind_apply, map_apply, hdigit, hdigits, encode_cons_ascii]
  | some false =>
    simp [powerDigits, bind_apply, map_apply, hsigns, hdigit, hdigits, encode_cons_ascii]

theorem power?_apply (p : Option PowerText) (h : Delimited rest) :
    power? atEnd (encode (p.elim [] PowerText.chars) ++ rest) =
      (.ok (p.map fun p => (p.minus == some true, encode p.row.chars)), rest) := by
  cases p with
  | none =>
    have hlower : (rest.head? == some (byte 'e')) = false :=
      beq_false_of_ne fun hb => (h.not_numeral (Option.mem_def.mpr hb)).2.2.1 rfl
    have hupper : (rest.head? == some (byte 'E')) = false :=
      beq_false_of_ne fun hb => (h.not_numeral (Option.mem_def.mpr hb)).2.2.2 rfl
    simp only [power?, bind_apply, sees_apply, pure_apply, Option.elim_none, encode_nil,
      List.nil_append, hlower, hupper, Bool.or_false, Bool.false_eq_true, if_false, Option.map_none]
  | some p =>
    have hdigits := powerDigits_apply atEnd p fun b hb => (h.not_numeral hb).1
    have hsees : ((encode p.chars ++ rest).head? == some (byte 'e') ||
        (encode p.chars ++ rest).head? == some (byte 'E')) = true := by
      rw [PowerText.chars]
      cases p.capital <;> simp [encode_cons_ascii]
    simp only [power?, bind_apply, sees_apply, skip_apply, pure_apply, Option.elim_some, hsees,
      if_true, hdigits, Option.map_some]

/-- A power's letter carries on neither the digits before it nor a fraction. -/
theorem head_power (p : Option PowerText) (h : Delimited rest) {b : UInt8}
    (hb : b ∈ (encode (p.elim [] PowerText.chars) ++ rest).head?) :
    isDigitByte b = false ∧ b ≠ byte '.' := by
  cases p with
  | none => exact ⟨(h.not_numeral hb).1, (h.not_numeral hb).2.1⟩
  | some p =>
    rw [Option.elim_some, PowerText.chars] at hb
    cases hcapital : p.capital with
    | false =>
      rw [hcapital, if_neg Bool.false_ne_true, encode_cons_ascii (by decide)] at hb
      cases hb
      decide
    | true =>
      rw [hcapital, if_pos rfl, encode_cons_ascii (by decide)] at hb
      cases hb
      decide

theorem fraction?_apply (row : Option DigitRow)
    (h : ∀ b ∈ rest.head?, isDigitByte b = false ∧ b ≠ byte '.') :
    fraction? atEnd (encode (row.elim [] fun row => '.' :: row.chars) ++ rest) =
      (.ok (row.map fun row => encode row.chars), rest) := by
  cases row with
  | none =>
    have hpoint : (rest.head? == some (byte '.')) = false :=
      beq_false_of_ne fun hb => (h _ (Option.mem_def.mpr hb)).2 rfl
    simp only [fraction?, bind_apply, sees_apply, pure_apply, Option.elim_none, encode_nil,
      List.nil_append, hpoint, Bool.false_eq_true, if_false, Option.map_none]
  | some row =>
    have hdigits := digits_encode row.digits fun b hb => (h b hb).1
    simp only [fraction?, fractionDigits, bind_apply, sees_apply, skip_apply, pure_apply,
      Option.elim_some, encode_cons_ascii (show '.'.toNat < 128 by decide), List.cons_append,
      List.head?_cons, List.drop_succ_cons, List.drop_zero, BEq.rfl, if_true, hdigits,
      row.isEmpty_encode, Bool.false_eq_true, if_false, Option.map_some]

/-- The digits before the point are read; a leading zero stands alone. -/
theorem wholeDigits_apply (row : DigitRow) (hlead : row.chars.head? = some '0' → row.chars = ['0'])
    (h : NoDigit rest) :
    wholeDigits atEnd (encode row.chars ++ rest) = (.ok (encode row.chars), rest) := by
  obtain ⟨c, cs, hchars, hc, hcs, hrow⟩ := row.exists_encode
  have hdigit := isDigitByte_byte hc
  have hdigits := digits_encode hcs h
  rw [hrow]
  by_cases hzero : c = '0'
  · have hnil : cs = [] := by
      subst hzero
      have hone := hlead (by rw [hchars]; rfl)
      rw [hchars] at hone
      exact (List.cons.inj hone).2
    subst hzero hnil
    cases rest with
    | nil => simp [wholeDigits, bind_apply, hdigit]
    | cons b rest =>
      have hb : isDigitByte b = false := h b rfl
      simp [wholeDigits, bind_apply, hdigit, hb]
  · have hne : byte c ≠ byte '0' := by
      rwa [ne_eq, byte_eq_byte_iff (ascii_of_isDigit hc) (by decide)]
    simp [wholeDigits, bind_apply, map_apply, hdigit, hne, hdigits]

end Reader

/-- The number taken apart, as it is written. -/
def NumberText.numeral (n : NumberText) : Numeral where
  negative := n.minus
  whole := encode n.whole.chars
  fraction := n.fraction.map fun row => encode row.chars
  power := n.power.map fun p => (p.minus == some true, encode p.row.chars)

/-- A number begins with a minus sign or a digit. -/
theorem NumberText.exists_encode_chars (n : NumberText) :
    ∃ b l, (b = byte '-' ∨ isDigitByte b = true) ∧ encode n.chars = b :: l := by
  obtain ⟨c, cs, -, hc, -, hrow⟩ := n.whole.exists_encode
  rw [chars, encode_append, encode_append, encode_append, hrow]
  cases n.minus with
  | true => exact ⟨_, _, .inl rfl, rfl⟩
  | false => exact ⟨_, _, .inr (isDigitByte_byte hc), rfl⟩

namespace Reader

variable {rest : List UInt8} (atEnd : Malformed)

/-- **A number** is read to its last digit. -/
theorem numeral_apply (n : NumberText) (h : Delimited rest) :
    numeral atEnd (encode n.chars ++ rest) = (.ok n.numeral, rest) := by
  have hpower := power?_apply atEnd n.power h
  have hfraction := fraction?_apply atEnd n.fraction fun b hb => head_power n.power h hb
  -- behind the whole digits there is a point, a power's letter or the value's end
  have hfollow : NoDigit (encode (n.fraction.elim [] fun row => '.' :: row.chars) ++
      (encode (n.power.elim [] PowerText.chars) ++ rest)) := by
    intro b hb
    cases hrow : n.fraction with
    | none =>
      rw [hrow] at hb
      exact (head_power n.power h hb).1
    | some row =>
      rw [hrow, Option.elim_some, encode_cons_ascii (by decide)] at hb
      cases hb
      decide
  have hwhole := wholeDigits_apply atEnd n.whole n.lead hfollow
  obtain ⟨c, cs, -, hc, -, hrow⟩ := n.whole.exists_encode
  have hminus : (byte c == byte '-') = false :=
    beq_false_of_ne (byte_ne_of_isDigit hc (by decide))
  rw [NumberText.chars, encode_append, encode_append, encode_append]
  simp only [List.append_assoc]
  cases hn : n.minus with
  | false =>
    have hsees : ((encode n.whole.chars ++
        (encode (n.fraction.elim [] fun row => '.' :: row.chars) ++
          (encode (n.power.elim [] PowerText.chars) ++ rest))).head? == some (byte '-')) = false := by
      rw [hrow]
      exact hminus
    simp only [numeral, bind_apply, sees_apply, pure_apply, Bool.false_eq_true, if_false,
      encode_nil, List.nil_append, hsees, hwhole, hfraction, hpower]
    rw [NumberText.numeral, hn]
  | true =>
    simp only [numeral, bind_apply, sees_apply, skip_apply, pure_apply, if_true, encode_nil,
      encode_cons_ascii (show '-'.toNat < 128 by decide), List.cons_append, List.nil_append,
      List.head?_cons, List.drop_succ_cons, List.drop_zero, BEq.rfl, hwhole, hfraction, hpower]
    rw [NumberText.numeral, hn]

/-! ### Values without brackets -/

theorem skimHead_blanks (l : List Blank) (rest : List UInt8) :
    skimHead (encode (blanks l) ++ rest) = skimHead rest :=
  skipBlanks_bind_blanks _ l rest

/-- A value that begins with a digit or a minus sign is a number. -/
theorem skimHead_number {b : UInt8} (hb : b = byte '-' ∨ isDigitByte b = true) (l : List UInt8) :
    skimHead (b :: l) = (numeral .invalidNumber >>= fun _ => pure none) (b :: l) := by
  have hother : ∀ d : UInt8, d ≠ byte '-' → isDigitByte d = false → b ≠ d := by
    rintro d hminus hdigit rfl
    rcases hb with hb | hb
    · exact hminus hb
    · rw [hdigit] at hb
      cases hb
  have hstart : isStart b := by
    rcases hb with rfl | hb
    · decide
    · exact isStart_of_isDigitByte hb
  have hnull : b ≠ byte 'n' := hother _ (by decide) (by decide)
  have htrue : b ≠ byte 't' := hother _ (by decide) (by decide)
  have hfalse : b ≠ byte 'f' := hother _ (by decide) (by decide)
  have hquote : b ≠ byte '"' := hother _ (by decide) (by decide)
  simp [skimHead, bind_apply, map_apply, hstart.1, hnull, htrue, hfalse, hquote, hb]

theorem skimHead_scalar (s : ScalarText) {rest : List UInt8} (h : Delimited rest) :
    skimHead (encode s.chars ++ rest) = (.ok none, rest) := by
  cases s with
  | null => rfl
  | bool b => cases b <;> rfl
  | string l =>
    have hquote : ∀ m, skimHead (byte '"' :: m) = (skipText >>= fun _ => pure none) m :=
      fun _ => rfl
    rw [ScalarText.chars, encode_quoted, List.cons_append, hquote,
      bind_of_ok (skipText_apply l rest), pure_apply]
  | number n =>
    obtain ⟨b, l, hb, hbytes⟩ := n.exists_encode_chars
    have hnumeral := numeral_apply .invalidNumber n h
    rw [ScalarText.chars]
    rw [hbytes, List.cons_append] at hnumeral ⊢
    rw [skimHead_number hb, bind_of_ok hnumeral, pure_apply]

theorem skimHead_bracket (b : Bracket) (l : List UInt8) :
    skimHead (byte b.opening :: l) = (.ok (some b), l) := by
  cases b <;> rfl

/-- The colon behind a key is passed over; blanks behind it stay. -/
theorem colon_apply (t : ColonText) (l : List UInt8) :
    colon (encode t.chars ++ l) = (.ok (), encode (blanks t.after) ++ l) := by
  rw [ColonText.chars, encode_append, List.append_assoc, colon, skipBlanks_bind_blanks,
    encode_cons_ascii (by decide)]
  rfl

end Reader

/-! ### Values with brackets -/

theorem Bracket.ascii_opening (b : Bracket) : b.opening.toNat < 128 := by cases b <;> decide

theorem Bracket.ascii_closing (b : Bracket) : b.closing.toNat < 128 := by cases b <;> decide

/-- A value without brackets begins with none, and with a quotation mark only if
    it is a string. -/
theorem ScalarText.exists_encode_chars (s : ScalarText) :
    ∃ b l, Reader.isStart b ∧ b ≠ byte '[' ∧ b ≠ byte '\x7b' ∧
      (b = byte '"' → ∃ m, s = .string m) ∧ encode s.chars = b :: l := by
  cases s with
  | null => exact ⟨_, _, by decide, by decide, by decide, fun h => absurd h (by decide), rfl⟩
  | bool b =>
    cases b
    · exact ⟨_, _, by decide, by decide, by decide, fun h => absurd h (by decide), rfl⟩
    · exact ⟨_, _, by decide, by decide, by decide, fun h => absurd h (by decide), rfl⟩
  | string l =>
    exact ⟨_, _, by decide, by decide, by decide, fun _ => ⟨l, rfl⟩, encode_quoted l⟩
  | number n =>
    obtain ⟨b, l, hb, hbytes⟩ := n.exists_encode_chars
    rcases hb with rfl | hb
    · exact ⟨_, l, by decide, by decide, by decide, fun h => absurd h (by decide), hbytes⟩
    · have hother : ∀ {d : UInt8}, isDigitByte d = false → b ≠ d := Reader.ne_of_isDigitByte hb
      exact ⟨b, l, Reader.isStart_of_isDigitByte hb, hother (by decide), hother (by decide),
        fun h => absurd h (hother (by decide)), hbytes⟩

theorem JsonText.exists_encode_chars (j : JsonText) :
    ∃ b l, Reader.isStart b ∧ encode j.chars = b :: l := by
  cases j with
  | bracketed b inside =>
    refine ⟨byte b.opening, encode (inside.chars true), ?_, ?_⟩
    · cases b <;> decide
    · rw [chars, encode_cons_ascii b.ascii_opening]
  | scalar s =>
    obtain ⟨b, l, hb, -, -, -, hbytes⟩ := s.exists_encode_chars
    exact ⟨b, l, hb, hbytes⟩

mutual

/-- The rounds that passing over a value takes. -/
def JsonText.rounds : JsonText → Nat
  | .scalar _ => 0
  | .bracketed _ inside => inside.rounds

/-- The rounds up to the closing bracket. -/
def InsideText.rounds {b : Bracket} : InsideText b → Nat
  | .close _ => 1
  | .item _ _ value later => value.rounds + later.rounds + 1

end

mutual

/-- A value has a byte more than it takes rounds. -/
theorem JsonText.rounds_lt : ∀ j : JsonText, j.rounds < (encode j.chars).length
  | .scalar s => by
    obtain ⟨b, l, -, hbytes⟩ := JsonText.exists_encode_chars (.scalar s)
    rw [hbytes, JsonText.rounds]
    exact Nat.succ_pos _
  | .bracketed b inside => by
    have hinside := InsideText.rounds_le true inside
    rw [JsonText.chars, JsonText.rounds, encode_cons_ascii b.ascii_opening]
    exact Nat.lt_succ_of_le hinside

theorem InsideText.rounds_le (first : Bool) {b : Bracket} :
    ∀ t : InsideText b, t.rounds ≤ (encode (t.chars first)).length
  | .close before => by
    rw [InsideText.chars, InsideText.rounds, encode_append, encode_cons_ascii b.ascii_closing,
      List.length_append]
    exact Nat.le_add_left _ _
  | .item gap key value later => by
    have hvalue := JsonText.rounds_lt value
    have hlater := InsideText.rounds_le false later
    simp only [InsideText.chars, encode_append, List.length_append, InsideText.rounds]
    omega

end

/-- What follows a value between brackets begins as it should. -/
theorem InsideText.delimited {b : Bracket} (t : InsideText b) (rest : List UInt8) :
    Reader.Delimited (encode (t.chars false) ++ rest) := by
  cases t with
  | close before =>
    rw [chars, encode_append, encode_cons_ascii b.ascii_closing, List.append_assoc]
    exact .blanks before (.closing b _)
  | item gap key value later =>
    rw [chars, encode_append, List.append_assoc]
    exact Reader.delimited_gap gap _

namespace Reader

/-- Passes over a value inside these brackets, and then to their partners. -/
def skimValue (rounds : Nat) (stack : List Bracket) : Reader Unit := do
  match ← skimHead with
  | some bracket => skimOpen rounds (bracket :: stack) true
  | none => skimOpen rounds stack false

theorem skimValue_blanks (n : Nat) (stack : List Bracket) (l : List Blank) (rest : List UInt8) :
    skimValue n stack (encode (blanks l) ++ rest) = skimValue n stack rest := by
  rw [skimValue, bind_apply, bind_apply, skimHead_blanks]

/-- The key before a value is passed over, up to blanks. -/
theorem skimKey_apply {b : Bracket} (key : KeyText b) (before : List Blank) (l : List UInt8) :
    ∃ after, skimKey b (encode (blanks before) ++ (encode key.chars ++ l)) =
      (.ok (), encode (blanks after) ++ l) := by
  cases key with
  | absent => exact ⟨before, rfl⟩
  | named name colon =>
    refine ⟨colon.after, ?_⟩
    have hkey : ∀ m, skimKey .object (byte '"' :: m) = (skipText >>= fun _ => Reader.colon) m :=
      fun _ => rfl
    have hblanks : ∀ m, skimKey .object (encode (blanks before) ++ m) = skimKey .object m :=
      fun m => skipBlanks_bind_blanks _ before m
    rw [hblanks, KeyText.chars, encode_append, encode_quoted, List.append_assoc, List.cons_append,
      hkey, bind_of_ok (skipText_apply name _), colon_apply]

/-! ### Rounds of the skimmer -/

variable (n : Nat) (b : Bracket) (below : List Bracket) (first : Bool)

theorem skimOpen_blanks (l : List Blank) (rest : List UInt8) :
    skimOpen (n + 1) (b :: below) first (encode (blanks l) ++ rest) =
      skimOpen (n + 1) (b :: below) first rest := by
  simp only [skimOpen, skipBlanks_bind_blanks]

theorem skimOpen_nil (rest : List UInt8) : skimOpen n [] first rest = (.ok (), rest) := by
  cases n <;> rfl

/-- A closing bracket ends what its partner opened. -/
theorem skimOpen_closing (rest : List UInt8) :
    skimOpen (n + 1) (b :: below) first (byte b.closing :: rest) = skimOpen n below false rest := by
  cases b <;> cases first <;> rfl

/-- The first item follows the bracket. -/
theorem skimOpen_first {c : UInt8} (hc : isStart c) (rest : List UInt8) :
    skimOpen (n + 1) (b :: below) true (c :: rest) =
      (skimKey b >>= fun _ => skimValue n (b :: below)) (c :: rest) := by
  have hclosing : c ≠ byte b.closing := by
    cases b
    · exact hc.2.2.1
    · exact hc.2.2.2
  simp only [skimOpen]
  rw [bind_of_ok (skipBlanks_start hc rest), bind_of_ok (peek?_cons _ _)]
  simp only [not_true_eq_false, and_false, if_false, if_neg hclosing, if_true]
  rfl

/-- A later item follows a comma. -/
theorem skimOpen_comma (rest : List UInt8) :
    skimOpen (n + 1) (b :: below) false (byte ',' :: rest) =
      (skimKey b >>= fun _ => skimValue n (b :: below)) rest := rfl

end Reader

open Reader

/-- The key and the value of an item begin as a value does. -/
theorem exists_encode_item {b : Bracket} (key : KeyText b) (value : JsonText) (l : List UInt8) :
    ∃ c m, isStart c ∧ encode key.chars ++ (encode value.chars ++ l) = c :: m := by
  cases key with
  | absent =>
    obtain ⟨c, m, hc, hbytes⟩ := value.exists_encode_chars
    exact ⟨c, m ++ l, hc, by rw [hbytes]; rfl⟩
  | named name colon =>
    refine ⟨byte '"', name.flatMap Piece.bytes ++ ([byte '"'] ++ (encode colon.chars ++
      (encode value.chars ++ l))), by decide, ?_⟩
    rw [KeyText.chars, encode_append, encode_quoted]
    simp only [List.cons_append, List.append_assoc]

mutual

/-- A value is passed over up to the brackets around it. -/
theorem skimValue_value (n : Nat) (stack : List Bracket) :
    ∀ (j : JsonText) {rest : List UInt8}, Delimited rest →
      skimValue (n + j.rounds) stack (encode j.chars ++ rest) = skimOpen n stack false rest
  | .scalar s, rest, h => by
    rw [JsonText.chars, JsonText.rounds, skimValue, bind_of_ok (skimHead_scalar s h)]
    rfl
  | .bracketed b inside, rest, h => by
    have hinside := skimOpen_inside n stack true inside rest
    rw [JsonText.chars, JsonText.rounds, encode_cons_ascii b.ascii_opening, List.cons_append,
      skimValue, bind_of_ok (skimHead_bracket b _)]
    exact hinside

/-- Whatever is written between two partners, it leaves the brackets around
    them as they were. -/
theorem skimOpen_inside (n : Nat) (below : List Bracket) (first : Bool) {b : Bracket} :
    ∀ (t : InsideText b) (rest : List UInt8),
      skimOpen (n + t.rounds) (b :: below) first (encode (t.chars first) ++ rest) =
        skimOpen n below false rest
  | .close before, rest => by
    rw [InsideText.chars, InsideText.rounds, encode_append, List.append_assoc, skimOpen_blanks,
      encode_cons_ascii b.ascii_closing]
    exact skimOpen_closing n b below first rest
  | .item gap key value later, rest => by
    have hlater := skimOpen_inside n below false later rest
    have hvalue := skimValue_value (n + later.rounds) (b :: below) value (later.delimited rest)
    -- a round reads the key and the value, and leaves what is later
    have hitem : ∀ before : List Blank,
        (skimKey b >>= fun _ => skimValue (n + later.rounds + value.rounds) (b :: below))
          (encode (blanks before) ++ (encode key.chars ++ (encode value.chars ++
            (encode (later.chars false) ++ rest)))) = skimOpen n below false rest := by
      intro before
      obtain ⟨after, hkey⟩ := skimKey_apply key before
        (encode value.chars ++ (encode (later.chars false) ++ rest))
      rw [bind_of_ok hkey, skimValue_blanks, hvalue, hlater]
    have hrounds : n + (InsideText.item gap key value later).rounds =
        n + later.rounds + value.rounds + 1 := by
      rw [InsideText.rounds]
      omega
    rw [InsideText.chars, hrounds]
    simp only [encode_append, List.append_assoc]
    cases first with
    | true =>
      obtain ⟨c, m, hc, hbytes⟩ := exists_encode_item key value (encode (later.chars false) ++ rest)
      have hfirst := hitem []
      rw [blanks_nil, encode_nil, List.nil_append] at hfirst
      rw [encode_gap_first, skimOpen_blanks]
      rw [hbytes] at hfirst ⊢
      rw [skimOpen_first _ _ _ hc, hfirst]
    | false =>
      rw [encode_gap_later, List.append_assoc, skimOpen_blanks, List.cons_append, skimOpen_comma,
        hitem]

end

namespace Reader

/-- **A value of any kind** is passed over to its last byte. -/
theorem takes_skim (j : JsonText) : Takes skim j.chars () := by
  refine ⟨j.exists_encode_chars, ?_⟩
  intro before rest h
  rw [skim, bind_apply, skimHead_blanks, ← bind_apply]
  cases j with
  | scalar s =>
    rw [JsonText.chars, bind_of_ok (skimHead_scalar s h)]
    rfl
  | bracketed b inside =>
    have hle := inside.rounds_le true
    obtain ⟨n, hn⟩ := exists_rounds_left hle rest
    rw [JsonText.chars, encode_cons_ascii b.ascii_opening, List.cons_append,
      bind_of_ok (skimHead_bracket b _)]
    simp only [bind_of_ok (get_apply _), hn]
    rw [skimOpen_inside, skimOpen_nil]

end Reader

end Enhance.Payload
