/-
  Enhance/Proofs/Shortcut/Canonical.lean
  ======================================
  **A chord is read from many texts, and written as one of them.**

  A text reads as a chord exactly if its tokens are names of modifiers, at least
  one, and then a single letter or digit (`parse_eq_ok_iff`).  Which of its
  names a modifier goes by, how often, in which place and in which case does
  not show in the chord.  The written form of a chord is such a text again, so
  it can stand for all of them (`parse_canonical`).
-/
import Enhance.Shortcut
import Mathlib.Data.Fintype.Basic

namespace Enhance

/-! ### Names of modifiers -/

namespace Modifier

/-- The token is a name of the modifier, in any case. -/
def Named (m : Modifier) (token : List Char) : Prop :=
  String.ofList (token.map Char.toLower) ∈ m.names

instance (m : Modifier) (token : List Char) : Decidable (m.Named token) :=
  inferInstanceAs (Decidable (_ ∈ m.names))

theorem mem_all (m : Modifier) : m ∈ all := by cases m <;> decide

instance : Fintype Modifier := ⟨⟨all, by decide⟩, mem_all⟩

/-- No two modifiers share a name. -/
theorem ofName?_of_mem_names (m : Modifier) : ∀ s ∈ m.names, ofName? s = some m := by
  cases m <;> decide

theorem ofName?_eq_some_iff {s : String} {m : Modifier} : ofName? s = some m ↔ s ∈ m.names := by
  constructor
  · intro h
    simpa using List.find?_some h
  · exact ofName?_of_mem_names m s

theorem ofName?_eq_none_iff {s : String} : ofName? s = none ↔ ∀ m : Modifier, s ∉ m.names := by
  constructor
  · intro h m hm
    rw [ofName?_of_mem_names m s hm] at h
    cases h
  · intro h
    exact List.find?_eq_none.mpr fun m _ => by simpa using h m

/-- A name has no plus sign, and no blank at either end. -/
theorem name_isToken (m : Modifier) :
    (∀ c ∈ m.name.toList, (c == '+') = false) ∧ Text.trimChars m.name.toList = m.name.toList ∧
      m.name.toList ≠ [] := by
  have hplus : '+' ∉ m.name.toList := by cases m <;> decide
  have hedges : Text.trimChars m.name.toList = m.name.toList ∧ m.name.toList ≠ [] := by
    cases m <;> decide
  exact ⟨fun c hc => beq_eq_false_iff_ne.mpr fun h => hplus (h ▸ hc), hedges⟩

theorem named_name (m : Modifier) : m.Named m.name.toList := by cases m <;> decide

theorem named_name_iff {m n : Modifier} : n.Named m.name.toList ↔ n = m := by
  cases m <;> cases n <;> decide

end Modifier

namespace Modifiers

theorem ext_holds {h h' : Modifiers} (hsame : ∀ m, h.holds m = h'.holds m) : h = h' := by
  obtain ⟨ctrl, alt, shift, command⟩ := h
  obtain ⟨ctrl', alt', shift', command'⟩ := h'
  obtain rfl : ctrl = ctrl' := hsame .ctrl
  obtain rfl : alt = alt' := hsame .alt
  obtain rfl : shift = shift' := hsame .shift
  obtain rfl : command = command' := hsame .command
  rfl

/-- Any modifiers can be held together. -/
theorem exists_holds (p : Modifier → Prop) : ∃ h : Modifiers, ∀ m, h.holds m = true ↔ p m := by
  classical
  refine ⟨⟨decide (p .ctrl), decide (p .alt), decide (p .shift), decide (p .command)⟩, ?_⟩
  intro m
  cases m <;> exact decide_eq_true_iff

theorem holds_empty (m : Modifier) : ({} : Modifiers).holds m = false := by cases m <;> rfl

theorem any_iff {h : Modifiers} : h.any = true ↔ ∃ m, h.holds m = true := by
  unfold any
  rw [List.any_eq_true]
  exact ⟨fun ⟨m, _, hm⟩ => ⟨m, hm⟩, fun ⟨m, hm⟩ => ⟨m, m.mem_all, hm⟩⟩

theorem mem_toList {h : Modifiers} {m : Modifier} : m ∈ h.toList ↔ h.holds m = true := by
  unfold toList
  rw [List.mem_filter]
  exact ⟨fun hm => hm.2, fun hm => ⟨m.mem_all, hm⟩⟩

end Modifiers

/-! ### Letters and digits -/

theorem ascii_of_isAlphanum {c : Char} (hc : c.isAlphanum = true) : c.toNat < 128 := by
  unfold Char.isAlphanum Char.isAlpha Char.isUpper Char.isLower Char.isDigit at hc
  simp only [Bool.or_eq_true, Bool.and_eq_true, decide_eq_true_eq, ge_iff_le,
    UInt32.le_iff_toNat_le] at hc
  have hval : c.val.toNat = c.toNat := rfl
  simp only [hval] at hc
  rcases hc with (⟨-, h⟩ | ⟨-, h⟩) | ⟨-, h⟩ <;> exact Nat.lt_of_le_of_lt h (by decide)

/-- What holds of every letter and digit, checked one by one. -/
theorem forall_isAlphanum {P : Char → Prop}
    (h : ∀ n, n < 128 → (Char.ofNat n).isAlphanum = true → P (Char.ofNat n)) {c : Char}
    (hc : c.isAlphanum = true) : P c := by
  have hchar := h c.toNat (ascii_of_isAlphanum hc)
  rw [Char.ofNat_toNat] at hchar
  exact hchar hc

/-- A letter or digit in lower case is one still. -/
theorem toLower_of_isAlphanum {c : Char} (hc : c.isAlphanum = true) :
    (c.toLower.isLower = true ∨ c.toLower.isDigit = true) ∧ c.toLower.isAlphanum = true ∧
      c.toLower.toLower = c.toLower :=
  forall_isAlphanum (P := fun c => (c.toLower.isLower = true ∨ c.toLower.isDigit = true) ∧
    c.toLower.isAlphanum = true ∧ c.toLower.toLower = c.toLower) (by decide +kernel) hc

/-- A character that a letter or digit agrees with in lower case is one itself. -/
theorem isAlphanum_of_toLower {c : Char} (hc : c.toLower.isAlphanum = true) :
    c.isAlphanum = true := by
  unfold Char.toLower at hc
  split at hc
  · have hupper : c.isUpper = true := decide_eq_true ‹_›
    unfold Char.isAlphanum Char.isAlpha
    rw [hupper]
    rfl
  · exact hc

/-- A letter or digit is a token by itself. -/
theorem isToken_of_isAlphanum {c : Char} (hc : c.isAlphanum = true) :
    (c == '+') = false ∧ Text.trimChars [c] = [c] :=
  forall_isAlphanum (P := fun c => (c == '+') = false ∧ Text.trimChars [c] = [c])
    (by decide +kernel) hc

namespace Chord

/-! ### Texts that read as a chord -/

/-- The modifiers held after a list of names are the ones held before and the
    ones named; a token that names none stops the reading. -/
theorem readModifiers_eq_ok_iff {held held' : Modifiers} {l : List (List Char)} :
    readModifiers held l = .ok held' ↔
      (∀ token ∈ l, ∃ m, Modifier.Named m token) ∧
        ∀ m, held'.holds m = true ↔ held.holds m = true ∨ ∃ token ∈ l, Modifier.Named m token := by
  induction l generalizing held with
  | nil =>
    constructor
    · rintro ⟨⟩
      simp
    · rintro ⟨-, hholds⟩
      have hsame : held = held' := Modifiers.ext_holds fun m =>
        Bool.eq_iff_iff.mpr (by simpa using (hholds m).symm)
      rw [hsame, readModifiers]
  | cons token rest ih =>
    simp only [readModifiers]
    split
    · rename_i n hn
      have hname : ∀ m : Modifier, m.Named token ↔ m = n := fun m =>
        Modifier.ofName?_eq_some_iff.symm.trans (by rw [hn, Option.some.injEq, eq_comm])
      rw [ih]
      simp only [List.forall_mem_cons, List.exists_mem_cons_iff, Modifiers.holds_hold, hname,
        Bool.or_eq_true, decide_eq_true_eq, exists_eq, true_and, or_assoc, or_left_comm]
    · rename_i hn
      have hnone := Modifier.ofName?_eq_none_iff.mp hn
      refine iff_of_false (by rintro ⟨⟩) fun h => ?_
      obtain ⟨m, hm⟩ := h.1 token List.mem_cons_self
      exact hnone m hm

theorem readKey_eq_ok_iff {token : List Char} {key : Char} :
    readKey token = .ok key ↔ ∃ c, token = [c] ∧ c.isAlphanum = true ∧ key = c.toLower := by
  unfold readKey
  split
  · rename_i c
    by_cases hc : c.isAlphanum = true
    · rw [if_pos hc, Except.ok.injEq]
      constructor
      · rintro rfl
        exact ⟨c, rfl, hc, rfl⟩
      · rintro ⟨_, ⟨⟩, -, rfl⟩
        rfl
    · rw [if_neg hc]
      refine iff_of_false (by rintro ⟨⟩) ?_
      rintro ⟨_, ⟨⟩, hc', -⟩
      exact hc hc'
  · rename_i hlong
    refine iff_of_false (by rintro ⟨⟩) ?_
    rintro ⟨c, rfl, -⟩
    exact hlong c rfl

/-- A text reads as a chord exactly if its tokens are names of the chord's
    modifiers, at least one, and then its key in either case. -/
theorem parse_eq_ok_iff {s : String} {c : Chord} :
    parse s = .ok c ↔
      ∃ names key, tokens s = names ++ [[key]] ∧ names ≠ [] ∧
        (∀ token ∈ names, ∃ m, Modifier.Named m token) ∧
        (∀ m, c.modifiers.holds m = true ↔ ∃ token ∈ names, Modifier.Named m token) ∧
        key.isAlphanum = true ∧ c.key = key.toLower := by
  unfold parse
  constructor
  · intro h
    split at h
    · cases h
    · rename_i last hlast
      split at h
      · cases h
      · rename_i modifiers hmodifiers
        split at h
        · rename_i hany
          obtain ⟨hnamed, hholds⟩ := readModifiers_eq_ok_iff.mp hmodifiers
          cases hkey : readKey last with
          | error fault => rw [hkey] at h; cases h
          | ok k =>
            rw [hkey] at h
            cases h
            obtain ⟨key, rfl, halnum, rfl⟩ := readKey_eq_ok_iff.mp hkey
            refine ⟨(tokens s).dropLast, key, ?_, ?_, hnamed, ?_, halnum, rfl⟩
            · exact (List.dropLast_append_getLast? [key] hlast).symm
            · rintro hnil
              obtain ⟨m, hm⟩ := Modifiers.any_iff.mp hany
              simpa [Modifiers.holds_empty, hnil] using (hholds m).mp hm
            · simpa [Modifiers.holds_empty] using hholds
        · cases h
  · rintro ⟨names, key, htokens, hne, hnamed, hholds, halnum, hkey⟩
    have hread : readModifiers {} names = .ok c.modifiers :=
      readModifiers_eq_ok_iff.mpr ⟨hnamed, by simpa [Modifiers.holds_empty] using hholds⟩
    have hany : c.modifiers.any = true := by
      obtain ⟨token, htoken⟩ := List.exists_mem_of_ne_nil names hne
      obtain ⟨m, hm⟩ := hnamed token htoken
      exact Modifiers.any_iff.mpr ⟨m, (hholds m).mpr ⟨token, htoken, hm⟩⟩
    have hlast : readKey [key] = .ok c.key := readKey_eq_ok_iff.mpr ⟨key, rfl, halnum, hkey⟩
    simp only [htokens, List.getLast?_concat, List.dropLast_concat, hread, hany, if_true, hlast,
      Except.map]

/-! ### The written form -/

/-- Words with a plus sign after each, and a last one, are cut into these words. -/
theorem pieces_joined {words : List (List Char)} {last : List Char}
    (hwords : ∀ w ∈ words, ∀ c ∈ w, (c == '+') = false) (hlast : ∀ c ∈ last, (c == '+') = false) :
    Text.pieces (· == '+') ((words.flatMap fun w => w ++ ['+']) ++ last) = words ++ [last] := by
  induction words with
  | nil => exact Text.pieces_of_no_separator hlast
  | cons w rest ih =>
    have hrest := ih fun w hw => hwords w (List.mem_cons_of_mem _ hw)
    rw [List.flatMap_cons, List.append_assoc, List.append_assoc, List.singleton_append,
      Text.pieces_append_separator _ (hwords w List.mem_cons_self) rfl, hrest, List.cons_append]

/-- A chord is written in names of its modifiers and its key. -/
theorem tokens_render {c : Chord} (hkey : c.key.isAlphanum = true) :
    tokens c.render = (c.modifiers.toList.map fun m => m.name.toList) ++ [[c.key]] := by
  obtain ⟨hplus, htrim⟩ := isToken_of_isAlphanum hkey
  have hwords : c.render.toList =
      ((c.modifiers.toList.map fun m => m.name.toList).flatMap fun w => w ++ ['+']) ++ [c.key] := by
    simp only [render, String.toList_ofList, List.flatMap_map]
  have hnoplus : ∀ w ∈ c.modifiers.toList.map fun m => m.name.toList,
      ∀ d ∈ w, (d == '+') = false :=
    List.forall_mem_map.mpr fun m _ => m.name_isToken.1
  rw [tokens, hwords, pieces_joined hnoplus (by simpa using hplus)]
  have hnames : (c.modifiers.toList.map fun m => m.name.toList).map Text.trimChars =
      c.modifiers.toList.map fun m => m.name.toList := by
    rw [List.map_map]
    exact List.map_congr_left fun m _ => m.name_isToken.2.1
  rw [List.map_append, hnames, List.map_singleton, htrim, List.filter_eq_self]
  simp only [List.mem_append, List.mem_map, List.mem_singleton, decide_eq_true_eq]
  rintro _ (⟨m, -, rfl⟩ | rfl)
  · exact m.name_isToken.2.2
  · simp

/-- A chord of a lower case key and some modifier is what its written form reads as. -/
theorem parse_render {c : Chord} (hany : c.modifiers.any = true) (hkey : c.key.isAlphanum = true)
    (hlower : c.key.toLower = c.key) : parse c.render = .ok c := by
  refine parse_eq_ok_iff.mpr ⟨_, c.key, tokens_render hkey, ?_, ?_, ?_, hkey, hlower.symm⟩
  · obtain ⟨m, hm⟩ := Modifiers.any_iff.mp hany
    exact List.ne_nil_of_mem (List.mem_map_of_mem (Modifiers.mem_toList.mpr hm))
  · simp only [List.forall_mem_map]
    exact fun m _ => ⟨m, m.named_name⟩
  · intro m
    simp only [List.mem_map, exists_exists_and_eq_and, Modifier.named_name_iff,
      Modifiers.mem_toList, exists_eq_right']

/-! ### One chord of many texts -/

/-- The texts have the same words as far as a chord tells them apart: one last
    token in either case, and names of the same modifiers before it. -/
structure SameWords (s t : String) : Prop where
  last : (tokens t).getLast?.map (fun token => token.map Char.toLower) =
    (tokens s).getLast?.map fun token => token.map Char.toLower
  named : ∀ token ∈ (tokens t).dropLast, ∃ m, Modifier.Named m token
  modifiers : ∀ m, (∃ token ∈ (tokens t).dropLast, Modifier.Named m token) ↔
    ∃ token ∈ (tokens s).dropLast, Modifier.Named m token

theorem parse_eq_of_sameWords {s t : String} {c : Chord} (hs : parse s = .ok c)
    (hst : SameWords s t) : parse t = .ok c := by
  obtain ⟨names, key, htokens, hne, hnamed, hholds, halnum, hkey⟩ := parse_eq_ok_iff.mp hs
  have hlast := hst.last
  have hmodifiers := hst.modifiers
  simp only [htokens, List.getLast?_concat, List.dropLast_concat, Option.map_some] at hlast hmodifiers
  obtain ⟨token, htoken, hlower⟩ := Option.map_eq_some_iff.mp hlast
  obtain ⟨key', rfl, hkey'⟩ := List.map_eq_singleton_iff.mp hlower
  refine parse_eq_ok_iff.mpr ⟨(tokens t).dropLast, key', ?_, ?_, hst.named, ?_, ?_, ?_⟩
  · exact (List.dropLast_append_getLast? [key'] htoken).symm
  · obtain ⟨name, hname⟩ := List.exists_mem_of_ne_nil names hne
    obtain ⟨m, hm⟩ := hnamed name hname
    obtain ⟨name', hname', -⟩ := (hmodifiers m).mpr ⟨name, hname, hm⟩
    exact List.ne_nil_of_mem hname'
  · exact fun m => (hholds m).trans (hmodifiers m).symm
  · exact isAlphanum_of_toLower (hkey' ▸ (toLower_of_isAlphanum halnum).2.1)
  · rw [hkey, hkey']

/-- What a text reads as can be written, and is read back. -/
theorem parse_render_of_parse {s : String} {c : Chord} (hs : parse s = .ok c) :
    c.modifiers.any = true ∧ (c.key.isLower = true ∨ c.key.isDigit = true) ∧
      parse c.render = .ok c := by
  obtain ⟨names, key, -, hne, hnamed, hholds, halnum, hkey⟩ := parse_eq_ok_iff.mp hs
  obtain ⟨hlower, hkeyAlnum, hidem⟩ := toLower_of_isAlphanum halnum
  rw [← hkey] at hlower hkeyAlnum hidem
  have hany : c.modifiers.any = true := by
    obtain ⟨name, hname⟩ := List.exists_mem_of_ne_nil names hne
    obtain ⟨m, hm⟩ := hnamed name hname
    exact Modifiers.any_iff.mpr ⟨m, (hholds m).mpr ⟨name, hname, hm⟩⟩
  exact ⟨hany, hlower, parse_render hany hkeyAlnum hidem⟩

/-- The texts that read as no chord. -/
theorem parse_eq_error_iff {s : String} :
    (∃ fault, parse s = .error fault) ↔
      tokens s = [] ∨ (tokens s).length = 1 ∨
        (∃ token ∈ (tokens s).dropLast, ∀ m, ¬ Modifier.Named m token) ∨
        ∀ key, key.isAlphanum = true → (tokens s).getLast? ≠ some [key] := by
  constructor
  · -- A text free of the four defects reads as the chord of the modifiers it names.
    rintro ⟨fault, hfault⟩
    by_contra hsound
    push Not at hsound
    obtain ⟨hne, hlength, hnamed, key, halnum, hlast⟩ := hsound
    have htokens := (List.dropLast_append_getLast? [key] hlast).symm
    have hnames : (tokens s).dropLast ≠ [] := by
      intro hnil
      rw [hnil] at htokens
      exact hlength (by rw [htokens]; rfl)
    obtain ⟨held, hheld⟩ : ∃ held : Modifiers, ∀ m, held.holds m = true ↔
        ∃ token ∈ (tokens s).dropLast, Modifier.Named m token :=
      Modifiers.exists_holds _
    have hok : parse s = .ok ⟨held, key.toLower⟩ :=
      parse_eq_ok_iff.mpr ⟨_, key, htokens, hnames, hnamed, hheld, halnum, rfl⟩
    rw [hok] at hfault
    cases hfault
  · intro hdefect
    cases hs : parse s with
    | error fault => exact ⟨fault, rfl⟩
    | ok c =>
      obtain ⟨names, key, htokens, hne, hnamed, -, halnum, -⟩ := parse_eq_ok_iff.mp hs
      rw [htokens] at hdefect
      rcases hdefect with hnil | hone | ⟨token, htoken, hnone⟩ | hkey
      · simp at hnil
      · simp at hone
        exact absurd hone hne
      · rw [List.dropLast_concat] at htoken
        obtain ⟨m, hm⟩ := hnamed token htoken
        exact absurd hm (hnone m)
      · exact absurd List.getLast?_concat (hkey key halnum)

/-- **One chord, one written form.**  A text that reads as a chord reads as one
    of at least one modifier and a lower case letter or digit; the written form
    of the chord reads as the chord again, as does every text of the same words;
    and chords that are written alike are equal.  A text is refused exactly if
    it has no token or only one, a token before the last that names no modifier,
    or a last token other than one letter or digit. -/
theorem parse_canonical (s : String) :
    (∀ c, parse s = .ok c →
      c.modifiers.any = true ∧ (c.key.isLower = true ∨ c.key.isDigit = true) ∧
      parse c.render = .ok c ∧
      (∀ t, SameWords s t → parse t = .ok c) ∧
      ∀ t d, parse t = .ok d → d.render = c.render → d = c) ∧
    ((∃ fault, parse s = .error fault) ↔
      tokens s = [] ∨ (tokens s).length = 1 ∨
        (∃ token ∈ (tokens s).dropLast, ∀ m, ¬ Modifier.Named m token) ∨
        ∀ key, key.isAlphanum = true → (tokens s).getLast? ≠ some [key]) := by
  refine ⟨fun c hs => ?_, parse_eq_error_iff⟩
  obtain ⟨hany, hkey, hback⟩ := parse_render_of_parse hs
  refine ⟨hany, hkey, hback, fun t hst => parse_eq_of_sameWords hs hst, fun t d ht halike => ?_⟩
  have hd : parse d.render = .ok d := (parse_render_of_parse ht).2.2
  rw [halike, hback] at hd
  cases hd
  rfl

/-- Aliases, cases, blanks and repetitions leave the standard chord as it is. -/
theorem parse_canonical_aliases : parse " Option+ SHIFT ++alt +D" = .ok standard :=
  ((parse_canonical "alt+shift+d").1 standard (by decide +kernel)).2.2.2.1 _
    ⟨by decide +kernel, by decide +kernel, by decide +kernel⟩

end Chord

end Enhance
