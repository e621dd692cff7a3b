/-
  Enhance/Proofs/Settings/Usable.lean
  ===================================
  **Whatever a page says, its settings can be used.**

  Each setting is what its own attribute makes of the standard settings
  (`own_ofAttributes`), so that it is either the standard one or what a value was
  read as.  Both are in range (`ofAttributes_usable`).
-/
import Enhance.Proofs.Number.Whole
import Enhance.Proofs.Scroll
import Enhance.Proofs.Settings.Repo

namespace Enhance

/-! ### Trimmed texts -/

/-- Neither end of a trimmed text is blank. -/
theorem Text.not_blank_at_end {s : String} {c : Char}
    (h : (trim s).toList.head? = some c ∨ (trim s).toList.getLast? = some c) :
    isBlank c = false := by
  rw [toList_trim] at h
  rcases h with h | h
  · obtain ⟨back, hback⟩ := List.rdropWhile_prefix isBlank (l := s.toList.dropWhile isBlank)
    have hfirst : (s.toList.dropWhile isBlank).head? = some c := by
      rw [← hback, List.head?_append]
      exact Option.or_eq_some_iff.mpr (Or.inl h)
    have hnot := List.head?_dropWhile_not isBlank s.toList
    rw [hfirst] at hnot
    exact hnot
  · exact not_of_getLast?_rdropWhile (l := s.toList.dropWhile isBlank) h

theorem presentValue?_eq_some_iff {raw : Option String} {value : String} :
    presentValue? raw = some value ↔ raw.map Text.trim = some value ∧ value ≠ "" := by
  simp [presentValue?, Option.filter_eq_some_iff]

/-! ### Counts -/

/-- A value is written as a number: digits, behind a plus sign or without one. -/
def WritesCount (value : String) (n : Nat) : Prop :=
  ∃ digits : List Char, (value.toList = digits ∨ value.toList = '+' :: digits) ∧ digits ≠ [] ∧
    (∀ c ∈ digits, c.isDigit = true) ∧ Nat.ofDigitChars 10 digits 0 = n

/-- A sign is left out before a count is read. -/
theorem readCount?_eq_ite {value : String} {digits : List Char}
    (h : (value.toList = digits ∧ digits.head? ≠ some '+') ∨ value.toList = '+' :: digits) :
    readCount? value =
      if digits ≠ [] ∧ digits.all Char.isDigit ∧ digitsValue digits < UInt32.size then
        some (UInt32.ofNat (digitsValue digits))
      else none := by
  rcases h with ⟨hvalue, hplain⟩ | hvalue
  · cases digits with
    | nil => simp [readCount?, hvalue]
    | cons c rest =>
      have hc : c ≠ '+' := by simpa using hplain
      simp [readCount?, hvalue, hc]
  · simp [readCount?, hvalue]

/-- A count is read exactly if it is written as a number that fits, and as that number. -/
theorem readCount?_eq_some_iff {value : String} {n : UInt32} :
    readCount? value = some n ↔ WritesCount value n.toNat := by
  constructor
  · intro h
    obtain ⟨digits, hvalue⟩ : ∃ digits, (value.toList = digits ∧ digits.head? ≠ some '+') ∨
        value.toList = '+' :: digits := by
      by_cases hplus : value.toList.head? = some '+'
      · obtain ⟨rest, hrest⟩ := List.head?_eq_some_iff.mp hplus
        exact ⟨rest, Or.inr hrest⟩
      · exact ⟨value.toList, Or.inl ⟨rfl, hplus⟩⟩
    rw [readCount?_eq_ite hvalue] at h
    split at h
    · rename_i hread
      obtain ⟨hne, hall, hfits⟩ := hread
      cases h
      refine ⟨digits, hvalue.imp_left And.left, hne, List.all_eq_true.mp hall, ?_⟩
      rw [UInt32.toNat_ofNat_of_lt' hfits]
      rfl
    · cases h
  · rintro ⟨digits, hvalue, hne, hdigits, hn⟩
    have hplain : digits.head? ≠ some '+' := by
      intro hplus
      have hdigit := hdigits '+' (List.mem_of_head? hplus)
      simp at hdigit
    have hvalueDigits : digitsValue digits = n.toNat := hn
    rw [readCount?_eq_ite (hvalue.imp_left fun h => ⟨h, hplain⟩),
      if_pos ⟨hne, List.all_eq_true.mpr hdigits, hvalueDigits ▸ n.toNat_lt_size⟩, hvalueDigits,
      UInt32.ofNat_toNat]

/-- A number that fits is written as one value is read. -/
theorem isSome_readCount?_iff {value : String} :
    (readCount? value).isSome = true ↔ ∃ n < 2 ^ 32, WritesCount value n := by
  rw [Option.isSome_iff_exists]
  constructor
  · rintro ⟨n, hn⟩
    exact ⟨n.toNat, n.toNat_lt, readCount?_eq_some_iff.mp hn⟩
  · rintro ⟨n, hfits, hn⟩
    refine ⟨UInt32.ofNat n, readCount?_eq_some_iff.mpr ?_⟩
    rwa [UInt32.toNat_ofNat_of_lt' hfits]

namespace Settings

open Attribute

variable {lookup : String → Option String} {a : Attribute}

/-- The attribute `a` is accepted exactly if its trimmed value is written as a number below 2^32,
    and then `setting` is that number. -/
structure Counts (lookup : String → Option String) (a : Attribute) (setting : UInt32) : Prop where
  accepted : ∀ raw, lookup a.name = some raw →
    ((Text.trim raw ≠ "" ∧ a ∉ (ofAttributes lookup).2.map Rejection.subject) ↔
      ∃ n < 2 ^ 32, WritesCount (Text.trim raw) n)
  exact : ∀ raw n, lookup a.name = some raw → n < 2 ^ 32 → WritesCount (Text.trim raw) n →
    setting.toNat = n

/-- A value that is not blank is accepted exactly if it reads. -/
theorem not_rejected_iff {value : String} (hvalue : presentValue? (lookup a.name) = some value) :
    a ∉ (ofAttributes lookup).2.map Rejection.subject ↔ a.reads value = true := by
  rw [mem_subjects_iff, isSome_refusal?_iff, hvalue]
  simp

/-- An attribute whose values are counts governs a count. -/
theorem counts_of_readCount? {f : Settings → UInt32} (hf : ∀ d s, f (a.transfer d s) = f d)
    (hreads : ∀ value, a.reads value = (readCount? value).isSome)
    (hoverlay : ∀ value n, readCount? value = some n →
      ∃ s, a.overlay value {} = .ok s ∧ f s = n) :
    Counts lookup a (f (ofAttributes lookup).1) := by
  have hpresent : ∀ {raw}, lookup a.name = some raw → Text.trim raw ≠ "" →
      presentValue? (lookup a.name) = some (Text.trim raw) := by
    intro raw hraw hne
    exact presentValue?_eq_some_iff.mpr ⟨by rw [hraw, Option.map_some], hne⟩
  have hwritten : ∀ {raw n}, WritesCount (Text.trim raw) n → Text.trim raw ≠ "" := by
    rintro raw n ⟨digits, hvalue, hne, -⟩ hblank
    rw [hblank] at hvalue
    simp_all
  constructor
  · intro raw hraw
    rw [← isSome_readCount?_iff, ← hreads]
    constructor
    · rintro ⟨hne, haccepted⟩
      exact (not_rejected_iff (hpresent hraw hne)).mp haccepted
    · intro hread
      obtain ⟨n, -, hn⟩ := isSome_readCount?_iff.mp ((hreads _).symm.trans hread)
      have hne := hwritten hn
      exact ⟨hne, (not_rejected_iff (hpresent hraw hne)).mpr hread⟩
  · intro raw n hraw hfits hn
    have hread : readCount? (Text.trim raw) = some (UInt32.ofNat n) := by
      apply readCount?_eq_some_iff.mpr
      rwa [UInt32.toNat_ofNat_of_lt' hfits]
    obtain ⟨s, hs, hfs⟩ := hoverlay _ _ hread
    have hown : f (ofAttributes lookup).1 = f s := by
      rw [own_ofAttributes hf lookup, heed, hpresent hraw (hwritten hn)]
      simp only [hs]
    rw [hown, hfs, UInt32.toNat_ofNat_of_lt' hfits]

theorem counts_revealStep : Counts lookup revealStep (ofAttributes lookup).1.reveal.step := by
  apply counts_of_readCount? (f := fun s => s.reveal.step) (fun _ _ => rfl) (fun _ => rfl)
  intro value n hn
  simp [overlay, hn]

theorem counts_typingDelay : Counts lookup typingDelay (ofAttributes lookup).1.typing.delay := by
  apply counts_of_readCount? (f := fun s => s.typing.delay) (fun _ _ => rfl) (fun _ => rfl)
  intro value n hn
  simp [overlay, hn]

/-! ### The other settings -/

/-- The threshold is a finite number that is not below zero. -/
theorem threshold_ofAttributes (lookup : String → Option String) :
    (ofAttributes lookup).1.backToTop.threshold.isFinite = true ∧
      (ofAttributes lookup).1.backToTop.threshold.isNonneg = true := by
  have hwhole : (Binary64.ofInt 300).IsWhole false 300 := Binary64.isWhole_ofInt (by decide)
  refine own_induction (a := backToTopOffset) (f := fun s => s.backToTop.threshold)
    (P := fun x => x.isFinite = true ∧ x.isNonneg = true) (fun _ _ => rfl) lookup
    ⟨hwhole.finite, hwhole.isNonneg⟩ fun value s _ hs => ?_
  rw [overlay] at hs
  split at hs
  · rename_i x hread
    have hx := (Option.filter_eq_some_iff.mp hread).2
    cases hs
    exact Bool.and_eq_true_iff.mp hx
  · cases hs

/-- The key of the store is a text, with no blanks around it. -/
theorem storageKey_ofAttributes (lookup : String → Option String) :
    (ofAttributes lookup).1.theme.storageKey ≠ "" ∧
      ∀ c, (ofAttributes lookup).1.theme.storageKey.toList.head? = some c ∨
        (ofAttributes lookup).1.theme.storageKey.toList.getLast? = some c →
        Text.isBlank c = false := by
  refine own_induction (a := themeKey) (f := fun s => s.theme.storageKey)
    (P := fun key => key ≠ "" ∧ ∀ c, key.toList.head? = some c ∨ key.toList.getLast? = some c →
      Text.isBlank c = false) (fun _ _ => rfl) lookup ⟨by decide, ?_⟩ ?_
  · intro c hc
    rcases hc with hc | hc <;> cases hc <;> decide
  · intro value s hvalue hs
    obtain ⟨htrim, hne⟩ := presentValue?_eq_some_iff.mp hvalue
    obtain ⟨raw, -, rfl⟩ := Option.map_eq_some_iff.mp htrim
    cases hs
    exact ⟨hne, fun c => Text.not_blank_at_end⟩

/-- The shortcut has a modifier and a key. -/
theorem chord_ofAttributes (lookup : String → Option String) :
    (∃ m, (ofAttributes lookup).1.shortcut.modifiers.holds m = true) ∧
      ((ofAttributes lookup).1.shortcut.key.isLower = true ∨
        (ofAttributes lookup).1.shortcut.key.isDigit = true) := by
  rcases shortcut_ofAttributes lookup with hstandard | ⟨value, hread⟩
  · rw [hstandard]
    exact ⟨⟨.alt, rfl⟩, by decide⟩
  · obtain ⟨hany, hkey, -⟩ := Chord.parse_render_of_parse hread
    exact ⟨Modifiers.any_iff.mp hany, hkey⟩

/-- **Whatever a page says, its settings can be used.**  The back-to-top button has a finite
    threshold that is not below zero, and hides at every offset at or below zero and where there
    is no number.  The key of the store is not empty and has no blanks around it; the shortcut has
    a modifier, and a letter in lower case or a digit; a repository is an owner and a name with
    one slash between them.  And the step and the delay are accepted exactly if they are written
    in digits, with a plus sign before them or without, as a number below 2^32, which they then
    are. -/
theorem ofAttributes_usable (lookup : String → Option String) :
    let settings := (ofAttributes lookup).1
    (settings.backToTop.threshold.isFinite = true ∧
      settings.backToTop.threshold.isNonneg = true ∧
      ∀ (g : ScrollGate) (y : Binary64), g.threshold = settings.backToTop.threshold →
        y.isNaN = true ∨ y.key ≤ 0 →
        (g.update y).1 ≠ some true ∧ (g.update y).2.visible = false) ∧
    (settings.theme.storageKey ≠ "" ∧
      ∀ c, settings.theme.storageKey.toList.head? = some c ∨
        settings.theme.storageKey.toList.getLast? = some c → Text.isBlank c = false) ∧
    ((∃ m, settings.shortcut.modifiers.holds m = true) ∧
      (settings.shortcut.key.isLower = true ∨ settings.shortcut.key.isDigit = true)) ∧
    (∀ repo, settings.commits.repo = some repo →
      repo.toList.count '/' = 1 ∧
        ∃ owner name, RepoPart owner ∧ RepoPart name ∧ repo = owner ++ "/" ++ name) ∧
    Counts lookup revealStep settings.reveal.step ∧
    Counts lookup typingDelay settings.typing.delay := by
  intro settings
  obtain ⟨hfinite, hnonneg⟩ := threshold_ofAttributes lookup
  refine ⟨⟨hfinite, hnonneg, ?_⟩, storageKey_ofAttributes lookup, chord_ofAttributes lookup, ?_,
    counts_revealStep, counts_typingDelay⟩
  · intro g y hg hy
    have hpasses : g.passes y = false := by
      rw [ScrollGate.passes, hg]
      rcases hy with hnan | hkey
      · exact Binary64.lt_of_isNaN_right hnan _
      · apply Binary64.lt_eq_false_of_key_le
        simp only [Binary64.isNonneg, Bool.and_eq_true, decide_eq_true_eq] at hnonneg
        exact Int.le_trans hkey hnonneg.2
    constructor
    · rw [ScrollGate.update_fst, hpasses]
      split <;> simp
    · simp [ScrollGate.visible, hpasses]
  · intro repo hrepo
    obtain ⟨owner, name, howner, hname, rfl⟩ :=
      isRepo_iff.mp (repo_ofAttributes_iff.mp ⟨lookup, hrepo⟩)
    refine ⟨?_, owner, name, howner, hname, rfl⟩
    simp [List.count_append, List.count_eq_zero.mpr howner.slash_not_mem,
      List.count_eq_zero.mpr hname.slash_not_mem]

/-- A page with a threshold below which nothing lies, a repository, and a delay with a sign and
    zeros before it. -/
theorem ofAttributes_usable_leading_zeros :
    let page : String → Option String := fun name =>
      if name = backToTopOffset.name then some "-0"
      else if name = commitRepo.name then some " a/b "
      else if name = typingDelay.name then some " +0004294967295 " else none
    let settings := (ofAttributes page).1
    let gate : ScrollGate := { threshold := settings.backToTop.threshold }
    let offset := Binary64.zero false
    (offset.isNaN = true ∨ offset.key ≤ 0) ∧ (gate.update offset).2.visible = false ∧
    settings.theme.storageKey ≠ "" ∧
    settings.commits.repo = some "a/b" ∧ "a/b".toList.count '/' = 1 ∧
    WritesCount "+0004294967295" 4294967295 ∧
    typingDelay ∉ (ofAttributes page).2.map Rejection.subject ∧
    settings.typing.delay.toNat = 4294967295 := by
  intro page settings gate offset
  obtain ⟨⟨-, -, hhides⟩, ⟨hkey, -⟩, -, hrepo, -, hcounts⟩ := ofAttributes_usable page
  have hoffset : offset.isNaN = true ∨ offset.key ≤ 0 := by decide
  have hset : settings.commits.repo = some "a/b" := by decide +kernel
  have hraw : page typingDelay.name = some " +0004294967295 " := by decide
  have htrim : Text.trim " +0004294967295 " = "+0004294967295" := by decide
  have hwrites : WritesCount "+0004294967295" 4294967295 :=
    ⟨"0004294967295".toList, by decide, by decide, by simp, by decide⟩
  have haccepted := (hcounts.accepted _ hraw).mpr ⟨4294967295, by decide, htrim ▸ hwrites⟩
  exact ⟨hoffset, (hhides gate offset rfl hoffset).2, hkey, hset, (hrepo _ hset).1, hwrites,
    haccepted.2, hcounts.exact _ _ hraw (by decide) (htrim ▸ hwrites)⟩

end Settings

end Enhance
