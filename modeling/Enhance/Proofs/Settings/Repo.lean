/-
  Enhance/Proofs/Settings/Repo.lean
  =================================
  **Which repositories a page can name.**

  A value is accepted if it is two names with one slash between them, each of
  one or more letters, digits, dashes, low lines and dots (`isRepo_iff`).  Such a
  value has no blanks to trim, so every pair of names can be asked for
  (`repo_ofAttributes_iff`).
-/
import Mathlib.Data.List.DropRight
import Enhance.Proofs.Page.Classes
import Enhance.Proofs.Settings.Names
import Enhance.Proofs.Shortcut.Canonical

namespace Enhance

/-! ### Two pieces -/

namespace Text

/-- The pieces of a text, with the separator between them again, are the text. -/
theorem intercalate_pieces (c : Char) (l : List Char) :
    [c].intercalate (pieces (· == c) l) = l := by
  induction l with
  | nil => rfl
  | cons d rest ih =>
    cases hp : pieces (· == c) rest with
    | nil =>
      have hlength := length_pieces (· == c) rest
      rw [hp] at hlength
      cases hlength
    | cons w ws =>
      rw [hp] at ih
      by_cases hd : d = c
      · simp [pieces, hd, hp, List.intercalate_cons_cons, ih]
      · have hcons : ∀ vs, [c].intercalate ((d :: w) :: vs) = d :: [c].intercalate (w :: vs) := by
          intro vs
          cases vs <;> simp
        simp [pieces, hd, hp, hcons, ih]

/-- What lies between separators, cut at them again. -/
theorem pieces_intercalate_char {c : Char} {l : List (List Char)} (hl : l ≠ [])
    (h : ∀ w ∈ l, c ∉ w) : pieces (· == c) ([c].intercalate l) = l := by
  apply pieces_intercalate (by simp) hl
  intro w hw x hx
  simp only [beq_eq_false_iff_ne]
  rintro rfl
  exact h w hw hx

/-- Two pieces are what stands before a separator and what stands behind it. -/
theorem pieces_eq_pair_iff {c : Char} {l a b : List Char} :
    pieces (· == c) l = [a, b] ↔ l = a ++ c :: b ∧ c ∉ a ∧ c ∉ b := by
  have hpair : [c].intercalate [a, b] = a ++ c :: b := by simp
  constructor
  · intro hpieces
    have hnone : ∀ w ∈ [a, b], c ∉ w := by
      intro w hw hc
      have hpiece : w ∈ pieces (· == c) l := hpieces ▸ hw
      have hsep := not_separator_of_mem_pieces w hpiece c hc
      simp at hsep
    refine ⟨?_, hnone a (by simp), hnone b (by simp)⟩
    rw [← hpair, ← hpieces, intercalate_pieces]
  · rintro ⟨rfl, ha, hb⟩
    rw [← hpair]
    exact pieces_intercalate_char (by simp) (by simp [ha, hb])

/-- What is dropped from behind is not what is left last. -/
theorem not_of_getLast?_rdropWhile {p : Char → Bool} {l : List Char} {c : Char}
    (h : (l.rdropWhile p).getLast? = some c) : p c = false := by
  have hne : l.rdropWhile p ≠ [] := by
    intro hnil
    simp [hnil] at h
  rw [List.getLast?_eq_some_getLast hne, Option.some.injEq] at h
  simpa [h] using List.rdropWhile_last_not p l hne

end Text

/-! ### Owner and name -/

/-- A name that an owner or a repository can have. -/
structure RepoPart (s : String) : Prop where
  nonempty : s ≠ ""
  chars : ∀ c ∈ s.toList, c.isAlphanum = true ∨ c = '-' ∨ c = '_' ∨ c = '.'

theorem isRepoChar_iff {c : Char} :
    isRepoChar c = true ↔ c.isAlphanum = true ∨ c = '-' ∨ c = '_' ∨ c = '.' := by
  simp [isRepoChar, or_assoc]

theorem repoPart_iff {s : String} :
    RepoPart s ↔ s.toList ≠ [] ∧ s.toList.all isRepoChar = true := by
  have hempty : s ≠ "" ↔ s.toList ≠ [] := by simp
  simp only [List.all_eq_true, isRepoChar_iff]
  constructor
  · rintro ⟨hne, hchars⟩
    exact ⟨hempty.mp hne, hchars⟩
  · rintro ⟨hne, hchars⟩
    exact ⟨hempty.mpr hne, hchars⟩

/-- What holds of letters, digits and the three signs holds of all of a name. -/
theorem RepoPart.forall_chars {P : Char → Prop} {s : String} (hs : RepoPart s)
    (halnum : ∀ n, n < 128 → (Char.ofNat n).isAlphanum = true → P (Char.ofNat n))
    (hsigns : P '-' ∧ P '_' ∧ P '.') : ∀ c ∈ s.toList, P c := by
  intro c hc
  rcases hs.chars c hc with h | rfl | rfl | rfl
  · exact forall_isAlphanum halnum h
  · exact hsigns.1
  · exact hsigns.2.1
  · exact hsigns.2.2

theorem RepoPart.slash_not_mem {s : String} (hs : RepoPart s) : '/' ∉ s.toList := fun hslash =>
  hs.forall_chars (P := fun c => c ≠ '/') (by decide +kernel) (by decide) '/' hslash rfl

/-- A value is accepted as a repository if it is the names of an owner and a repository with a
    slash between them. -/
theorem isRepo_iff {s : String} :
    isRepo s = true ↔ ∃ owner name, RepoPart owner ∧ RepoPart name ∧ s = owner ++ "/" ++ name := by
  constructor
  · intro h
    unfold isRepo at h
    split at h
    · rename_i owner name hpieces
      obtain ⟨hs, -, -⟩ := Text.pieces_eq_pair_iff.mp hpieces
      simp only [Bool.and_eq_true, decide_eq_true_eq] at h
      refine ⟨String.ofList owner, String.ofList name, ?_, ?_, ?_⟩
      · exact repoPart_iff.mpr (by simpa using h.1)
      · exact repoPart_iff.mpr (by simpa using h.2)
      · apply String.toList_inj.mp
        simp [hs]
    · cases h
  · rintro ⟨owner, name, howner, hname, rfl⟩
    have hpieces : Text.pieces (· == '/') (owner ++ "/" ++ name).toList =
        [owner.toList, name.toList] := by
      apply Text.pieces_eq_pair_iff.mpr
      exact ⟨by simp, howner.slash_not_mem, hname.slash_not_mem⟩
    obtain ⟨hone, hall⟩ := repoPart_iff.mp howner
    obtain ⟨hone', hall'⟩ := repoPart_iff.mp hname
    simp only [isRepo, hpieces]
    simp [hone, hall, hone', hall']

/-- A repository is cut in one way only. -/
theorem repo_eq_iff {owner name owner' name' : String} (howner : RepoPart owner)
    (hname : RepoPart name) (howner' : RepoPart owner') (hname' : RepoPart name') :
    owner ++ "/" ++ name = owner' ++ "/" ++ name' ↔ owner = owner' ∧ name = name' := by
  constructor
  · intro h
    have hcut : ∀ {o n : String}, RepoPart o → RepoPart n →
        Text.pieces (· == '/') (o ++ "/" ++ n).toList = [o.toList, n.toList] := fun ho hn =>
      Text.pieces_eq_pair_iff.mpr ⟨by simp, ho.slash_not_mem, hn.slash_not_mem⟩
    have hpieces := hcut howner hname
    rw [h, hcut howner' hname'] at hpieces
    simpa [String.toList_inj, eq_comm] using hpieces
  · rintro ⟨rfl, rfl⟩
    rfl

/-! ### The repository among the settings -/

theorem Text.trim_of_not_blank {s : String} (h : ∀ c ∈ s.toList, isBlank c = false) :
    trim s = s := by
  have hkeep : ∀ {l : List Char}, (∀ c ∈ l, isBlank c = false) → l.dropWhile isBlank = l := by
    intro l hl
    cases l with
    | nil => rfl
    | cons c rest => simp [hl c (by simp)]
  have hchars : trimChars s.toList = s.toList := by
    rw [trimChars, hkeep h, hkeep (by simpa using h), List.reverse_reverse]
  rw [trim, hchars, String.ofList_toList]

theorem not_blank_of_isRepo {s : String} (hs : isRepo s = true) :
    ∀ c ∈ s.toList, Text.isBlank c = false := by
  obtain ⟨owner, name, howner, hname, rfl⟩ := isRepo_iff.mp hs
  have hpart : ∀ {p : String}, RepoPart p → ∀ c ∈ p.toList, Text.isBlank c = false := fun hp =>
    hp.forall_chars (P := fun c => Text.isBlank c = false) (by decide +kernel) (by decide)
  intro c hc
  simp only [String.toList_append, List.mem_append] at hc
  rcases hc with (hc | hc) | hc
  · exact hpart howner c hc
  · have hslash : c = '/' := by simpa using hc
    rw [hslash]
    decide
  · exact hpart hname c hc

/-- Some page asks for a repository exactly if it is an owner and a name. -/
theorem repo_ofAttributes_iff {repo : String} :
    (∃ lookup, (Settings.ofAttributes lookup).1.commits.repo = some repo) ↔ isRepo repo = true := by
  constructor
  · rintro ⟨lookup, hrepo⟩
    rw [Settings.commits_ofAttributes] at hrepo
    exact (Option.filter_eq_some_iff.mp hrepo).2
  · intro hrepo
    have hne : repo ≠ "" := by
      rintro rfl
      exact absurd hrepo (by decide)
    refine ⟨fun _ => some repo, ?_⟩
    simp [Settings.commits_ofAttributes, presentValue?, Option.filter,
      Text.trim_of_not_blank (not_blank_of_isRepo hrepo), hne, hrepo]

end Enhance
