/-
  Enhance/Proofs/Shortcut/Firing.lean
  ===================================
  **Which keystrokes fire the shortcut that a page asks for.**

  The key of a chord is put in lower case when it is read, in upper case when
  it is compared with a place on the keyboard, and is compared with the lower
  case of what a key types.  The three agree on every letter and digit, so an
  accepted shortcut fires exactly for the key that was written, in whichever
  case, and for the modifiers that were named (`matched_ofAttributes`).
-/
import Enhance.Proofs.Settings.Independence
import Enhance.Proofs.Shortcut.Canonical

namespace Enhance

/-! ### The key of a keystroke -/

namespace Keystroke

/-- The keystroke is neither a repetition nor meant for a field. -/
structure Fresh (k : Keystroke) : Prop where
  once : k.repeated = false
  elsewhere : k.inEditable = false

/-- The keystroke holds the modifiers that the words name, and no others. -/
def HoldsNamed (k : Keystroke) (words : List (List Char)) : Prop :=
  ∀ m, k.modifiers.holds m = true ↔ ∃ word ∈ words, Modifier.Named m word

/-- The keystroke is at the place of a letter or digit. -/
def At (k : Keystroke) (key : Char) : Prop :=
  (key.isDigit = true ∧ k.code = "Digit" ++ key.toString) ∨
    (key.isAlpha = true ∧ k.code = "Key" ++ key.toUpper.toString)

/-- The keystroke types one character, which is the given one in either case. -/
def Types (k : Keystroke) (key : Char) : Prop :=
  ∃ c, k.key.toList = [c] ∧ c.toLower = key.toLower

end Keystroke

/-- A digit has no case; a letter is no digit, and has one upper case. -/
theorem digit_or_letter {c : Char} (hc : c.isAlphanum = true) :
    (c.isDigit = true ∧ c.isAlpha = false ∧ c.toLower = c) ∨
      (c.isDigit = false ∧ c.isAlpha = true ∧ c.toLower.isDigit = false ∧
        c.toLower.toUpper = c.toUpper) :=
  forall_isAlphanum (P := fun c => (c.isDigit = true ∧ c.isAlpha = false ∧ c.toLower = c) ∨
    (c.isDigit = false ∧ c.isAlpha = true ∧ c.toLower.isDigit = false ∧
      c.toLower.toUpper = c.toUpper)) (by decide +kernel) hc

theorem toLower_toUpper {c : Char} (hc : c.isAlphanum = true) : c.toUpper.toLower = c.toLower :=
  forall_isAlphanum (P := fun c => c.toUpper.toLower = c.toLower) (by decide +kernel) hc

namespace Chord

variable {chord : Chord} {key : Char} {k : Keystroke}

theorem isKey_iff (hlower : chord.key.toLower = chord.key) {text : String} :
    chord.isKey text = true ↔ ∃ c, text.toList = [c] ∧ c.toLower = chord.key.toLower := by
  unfold isKey
  rw [hlower]
  split
  · rename_i c htext
    rw [htext, beq_iff_eq]
    constructor
    · exact fun hc => ⟨c, rfl, hc⟩
    · rintro ⟨_, ⟨⟩, hc⟩
      exact hc
  · rename_i hlong
    refine iff_of_false Bool.false_ne_true ?_
    rintro ⟨c, htext, -⟩
    exact hlong c htext

/-- The place that a chord looks for is the one of the key as it was written. -/
theorem code_iff (halnum : key.isAlphanum = true) (hkey : chord.key = key.toLower) :
    k.code = chord.code ↔ k.At key := by
  unfold code Keystroke.At
  rw [hkey]
  rcases digit_or_letter halnum with ⟨hdigit, halpha, hlower⟩ | ⟨hdigit, halpha, hlower, hupper⟩
  · rw [hlower, if_pos hdigit, hdigit, halpha]
    simp [String.ext_iff]
  · rw [hlower, hupper, hdigit, halpha]
    simp [String.ext_iff]

/-- A chord that a text reads as fires for the modifiers and the key that the
    text names. -/
theorem matched_iff_of_parse {s : String} (hs : parse s = .ok chord) {words : List (List Char)}
    (htokens : tokens s = words ++ [[key]]) (hk : k.Fresh) :
    chord.matched k = true ↔ k.HoldsNamed words ∧ (k.At key ∨ k.Types key) := by
  obtain ⟨words', key', htokens', -, -, hholds, halnum, hkey⟩ := parse_eq_ok_iff.mp hs
  obtain ⟨rfl, hlast⟩ := List.append_inj' (htokens'.symm.trans htokens) rfl
  obtain rfl : key' = key := by simpa using hlast
  have hlower : chord.key.toLower = chord.key := by
    rw [hkey]
    exact (toLower_of_isAlphanum halnum).2.2
  have hmodifiers : k.modifiers = chord.modifiers ↔ k.HoldsNamed words' := by
    constructor
    · rintro hsame m
      rw [hsame, hholds]
    · exact fun hnamed => Modifiers.ext_holds fun m =>
        Bool.eq_iff_iff.mpr ((hnamed m).trans (hholds m).symm)
  have htypes : chord.isKey k.key = true ↔ k.Types key' := by
    rw [isKey_iff hlower, hlower, hkey]
    rfl
  simp only [matched, hk.once, hk.elsewhere, Bool.not_false, Bool.true_and, Bool.and_eq_true,
    Bool.or_eq_true, decide_eq_true_eq, beq_iff_eq, hmodifiers, code_iff halnum hkey, htypes]

end Chord

/-! ### The shortcut among the settings -/

namespace Settings

open Attribute

variable {lookup : String → Option String} {value : String}

/-- A value that reads as a chord is the shortcut. -/
theorem shortcut_of_parse {c : Chord}
    (hvalue : presentValue? (lookup "data-theme-shortcut") = some value)
    (hread : Chord.parse value = .ok c) : (ofAttributes lookup).1.shortcut = c := by
  have hown : (ofAttributes lookup).1.shortcut = (heed lookup {} themeShortcut).shortcut :=
    own_ofAttributes (fun _ _ => rfl) lookup
  rw [hown]
  simp only [heed, name, hvalue, overlay, hread]

/-- A value that is not rejected reads as a chord. -/
theorem parse_of_accepted (hvalue : presentValue? (lookup "data-theme-shortcut") = some value)
    (haccepted : themeShortcut ∉ (ofAttributes lookup).2.map Rejection.subject) :
    Chord.parse value = .ok (ofAttributes lookup).1.shortcut := by
  cases hread : Chord.parse value with
  | ok c => rw [shortcut_of_parse hvalue hread]
  | error fault =>
    have hreads : reads value themeShortcut = false := by
      rw [reads, hread]
      rfl
    have hsome := isSome_refusal?_iff.mpr ⟨value, hvalue, hreads⟩
    exact absurd (mem_subjects_iff.mpr hsome) haccepted

/-- **No accepted shortcut is dead, and none fires for another key.**  A value
    that is accepted ends in one letter or digit.  A keystroke fires the shortcut
    exactly if it holds the modifiers named before that and no others, and is at
    the place of the key that was written or types it in either case.  A value
    with the key in the other case is accepted too, and asks for the same
    shortcut; and the key's place and both its cases fire it always. -/
theorem matched_ofAttributes (lookup : String → Option String) (value : String)
    (hvalue : presentValue? (lookup "data-theme-shortcut") = some value)
    (haccepted : themeShortcut ∉ (ofAttributes lookup).2.map Rejection.subject) :
    ∃ words key, Chord.tokens value = words ++ [[key]] ∧ key.isAlphanum = true ∧
      (∀ k : Keystroke, k.Fresh → ((ofAttributes lookup).1.shortcut.matched k = true ↔
        k.HoldsNamed words ∧ (k.At key ∨ k.Types key))) ∧
      (∀ (other : String → Option String) (value' : String) (key' : Char),
        presentValue? (other "data-theme-shortcut") = some value' →
        Chord.tokens value' = words ++ [[key']] → key'.toLower = key.toLower →
        themeShortcut ∉ (ofAttributes other).2.map Rejection.subject ∧
          (ofAttributes other).1.shortcut = (ofAttributes lookup).1.shortcut) ∧
      ∀ k : Keystroke, k.Fresh → k.HoldsNamed words →
        k.At key ∨ k.key = key.toLower.toString ∨ k.key = key.toUpper.toString →
        (ofAttributes lookup).1.shortcut.matched k = true := by
  have hread := parse_of_accepted hvalue haccepted
  obtain ⟨words, key, htokens, hne, hnamed, hholds, halnum, hkey⟩ := Chord.parse_eq_ok_iff.mp hread
  have hmatched : ∀ k : Keystroke, k.Fresh → ((ofAttributes lookup).1.shortcut.matched k = true ↔
      k.HoldsNamed words ∧ (k.At key ∨ k.Types key)) :=
    fun k hk => Chord.matched_iff_of_parse hread htokens hk
  refine ⟨words, key, htokens, halnum, hmatched, ?_, ?_⟩
  · intro other value' key' hvalue' htokens' hcase
    have halnum' : key'.isAlphanum = true :=
      isAlphanum_of_toLower (hcase ▸ (toLower_of_isAlphanum halnum).2.1)
    have hread' : Chord.parse value' = .ok (ofAttributes lookup).1.shortcut :=
      Chord.parse_eq_ok_iff.mpr
        ⟨words, key', htokens', hne, hnamed, hholds, halnum', hkey.trans hcase.symm⟩
    refine ⟨fun hrejected => ?_, shortcut_of_parse hvalue' hread'⟩
    obtain ⟨value'', hvalue'', hreads⟩ := isSome_refusal?_iff.mp (mem_subjects_iff.mp hrejected)
    obtain rfl : value' = value'' := Option.some.inj (hvalue'.symm.trans hvalue'')
    rw [reads, hread'] at hreads
    cases hreads
  · intro k hk hheld hon
    refine (hmatched k hk).mpr ⟨hheld, hon.imp_right ?_⟩
    rintro (hlow | hup)
    · exact ⟨key.toLower, by rw [hlow, Char.toString, String.toList_singleton],
        (toLower_of_isAlphanum halnum).2.2⟩
    · exact ⟨key.toUpper, by rw [hup, Char.toString, String.toList_singleton],
        toLower_toUpper halnum⟩

/-- `Ctrl+K` fires for the key that types `k`, wherever it is, and not for the
    one that types `x`. -/
theorem matched_ofAttributes_layout :
    let lookup := fun name => if name = "data-theme-shortcut" then some "Ctrl+K " else none
    let stroke := fun key : String =>
      ({ key, code := "KeyV", modifiers := { ctrl := true } } : Keystroke)
    presentValue? (lookup "data-theme-shortcut") = some "Ctrl+K" ∧
      themeShortcut ∉ (ofAttributes lookup).2.map Rejection.subject ∧
      (ofAttributes lookup).1.shortcut.matched (stroke "k") = true ∧
      (ofAttributes lookup).1.shortcut.matched (stroke "x") = false := by
  intro lookup stroke
  have hvalue : presentValue? (lookup "data-theme-shortcut") = some "Ctrl+K" := by decide +kernel
  have haccepted : themeShortcut ∉ (ofAttributes lookup).2.map Rejection.subject := by
    decide +kernel
  obtain ⟨words, key, htokens, -, hmatched, -, hfires⟩ :=
    matched_ofAttributes lookup "Ctrl+K" hvalue haccepted
  have hwritten : Chord.tokens "Ctrl+K" = ["Ctrl".toList] ++ [['K']] := by decide +kernel
  obtain ⟨rfl, hlast⟩ := List.append_inj' (htokens.symm.trans hwritten) rfl
  obtain rfl : key = 'K' := by simpa using hlast
  have hfresh : ∀ text, (stroke text).Fresh := fun _ => ⟨rfl, rfl⟩
  have hheld : ∀ text, (stroke text).HoldsNamed ["Ctrl".toList] := by
    intro text m
    show ({ ctrl := true } : Modifiers).holds m = true ↔ _
    cases m <;> decide
  refine ⟨hvalue, haccepted, hfires _ (hfresh "k") (hheld "k") (.inr (.inl (by decide))), ?_⟩
  rw [Bool.eq_false_iff]
  intro hfired
  rcases ((hmatched _ (hfresh "x")).mp hfired).2 with (⟨h, -⟩ | ⟨-, h⟩) | ⟨c, h, hc⟩
  · exact absurd h (by decide)
  · exact absurd h (by decide)
  · obtain rfl : 'x' = c := by simpa [stroke] using h
    exact absurd hc (by decide)

end Settings

end Enhance
