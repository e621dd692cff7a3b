/-
  Enhance/Proofs/Commit/Address.lean
  ==================================
  **The address that a repository leads to.**

  An address is a stem, which is the base without the slashes at its end, and
  the path of the commits behind it.  The path has four slashes, and the last
  two pieces between them are free of slashes, so that owner and name can be
  peeled off from behind whatever the stem is (`append_commitsPath_inj`).
-/
import Enhance.Commit.Status
import Enhance.Proofs.Settings.Repo

namespace Enhance

/-! ### Slashes at the end -/

/-- So many slashes. -/
def slashes (k : Nat) : String := String.ofList (List.replicate k '/')

/-- `stem` is `base` without the slashes at its end. -/
structure IsStem (stem base : String) : Prop where
  padded : ∃ k, base = stem ++ slashes k
  last : stem.toList.getLast? ≠ some '/'

variable {base base' stem stem' repo owner name owner' name' : String}

/-- Every base has a stem. -/
theorem exists_isStem (base : String) : ∃ stem, IsStem stem base := by
  refine ⟨String.ofList (base.toList.rdropWhile (· == '/')), ⟨?_, ?_⟩⟩
  · have hall : ∀ c ∈ base.toList.rtakeWhile (· == '/'), c = '/' := by
      intro c hc
      simpa using List.mem_rtakeWhile_imp hc
    refine ⟨(base.toList.rtakeWhile (· == '/')).length, String.toList_inj.mp ?_⟩
    simp [slashes, ← List.eq_replicate_of_mem hall, List.rdropWhile_append_rtakeWhile]
  · intro hlast
    rw [String.toList_ofList] at hlast
    have hnot := Text.not_of_getLast?_rdropWhile hlast
    simp at hnot

/-- More slashes at the end leave the stem. -/
theorem IsStem.append_slashes (h : IsStem stem base) (m : Nat) :
    IsStem stem (base ++ slashes m) := by
  obtain ⟨k, rfl⟩ := h.padded
  refine ⟨⟨k + m, ?_⟩, h.last⟩
  apply String.toList_inj.mp
  simp [slashes, List.replicate_append_replicate]

/-! ### Stem and path -/

/-- The path of the commits of a repository. -/
def commitsPath (owner name : String) : String :=
  "/repos/" ++ owner ++ "/" ++ name ++ "/commits?per_page=1"

theorem commitsUrl_eq (h : IsStem stem base) :
    commitsUrl base (owner ++ "/" ++ name) = stem ++ commitsPath owner name := by
  obtain ⟨k, rfl⟩ := h.padded
  have hkeep : stem.toList.reverse.dropWhile (· == '/') = stem.toList.reverse := by
    cases hs : stem.toList.reverse with
    | nil => rfl
    | cons c rest =>
      have hlast : stem.toList.getLast? = some c := by
        rw [← List.head?_reverse, hs]
        rfl
      have hc : c ≠ '/' := by
        rintro rfl
        exact h.last hlast
      simp [hc]
  have hdrop : (stem ++ slashes k).toList.reverse.dropWhile (· == '/') = stem.toList.reverse := by
    simp [slashes, hkeep]
  apply String.toList_inj.mp
  simp only [commitsUrl, hdrop]
  simp [commitsPath]

/-- What stands behind the last separator is determined, and so is what stands before it. -/
theorem append_separator_inj {α : Type} {c : α} {a b x y : List α} (hx : c ∉ x) (hy : c ∉ y)
    (h : a ++ c :: x = b ++ c :: y) : a = b ∧ x = y := by
  rcases List.append_eq_append_iff.mp h with ⟨gap, hb, hgap⟩ | ⟨gap, ha, hgap⟩
  · cases gap with
    | nil => simp_all
    | cons d rest =>
      have hmem : c ∈ x := by
        obtain ⟨-, hrest⟩ := List.cons.inj hgap
        simp [hrest]
      exact absurd hmem hx
  · cases gap with
    | nil => simp_all
    | cons d rest =>
      have hmem : c ∈ y := by
        obtain ⟨-, hrest⟩ := List.cons.inj hgap
        simp [hrest]
      exact absurd hmem hy

/-- Stem, owner and name can be read off the address. -/
theorem append_commitsPath_inj (howner : RepoPart owner) (hname : RepoPart name)
    (howner' : RepoPart owner') (hname' : RepoPart name')
    (h : stem ++ commitsPath owner name = stem' ++ commitsPath owner' name') :
    stem = stem' ∧ owner = owner' ∧ name = name' := by
  have hlist : ∀ s o n : String, (s ++ commitsPath o n).toList =
      ((s.toList ++ "/repos".toList ++ '/' :: o.toList) ++ '/' :: n.toList) ++
        "/commits?per_page=1".toList := by
    intro s o n
    simp [commitsPath]
  have hlists := congrArg String.toList h
  rw [hlist, hlist] at hlists
  have hnames := List.append_cancel_right hlists
  obtain ⟨howners, hn⟩ := append_separator_inj hname.slash_not_mem hname'.slash_not_mem hnames
  obtain ⟨hstems, ho⟩ := append_separator_inj howner.slash_not_mem howner'.slash_not_mem howners
  exact ⟨String.toList_inj.mp (List.append_cancel_right hstems), String.toList_inj.mp ho,
    String.toList_inj.mp hn⟩

/-! ### The signs of a path -/

/-- A name has none of the signs that mean something in an address. -/
theorem RepoPart.plain (h : RepoPart name) : ∀ c ∈ name.toList,
    c ≠ '/' ∧ c ≠ '?' ∧ c ≠ '#' ∧ c ≠ '%' ∧ c ≠ '&' ∧ Text.isBlank c = false :=
  h.forall_chars (by decide +kernel) (by decide)

theorem commitsPath_toList (owner name : String) :
    (commitsPath owner name).toList =
      "/repos/".toList ++ owner.toList ++ "/".toList ++ name.toList ++
        "/commits?per_page=1".toList := by
  simp [commitsPath]

/-- The slashes and the question mark of a path are its own. -/
theorem count_commitsPath (howner : RepoPart owner) (hname : RepoPart name) :
    (commitsPath owner name).toList.count '/' = 4 ∧
      (commitsPath owner name).toList.count '?' = 1 := by
  have hnone : ∀ {p : String}, RepoPart p → p.toList.count '/' = 0 ∧ p.toList.count '?' = 0 := by
    intro p hp
    constructor
    · exact List.count_eq_zero.mpr fun hmem => (hp.plain _ hmem).1 rfl
    · exact List.count_eq_zero.mpr fun hmem => (hp.plain _ hmem).2.1 rfl
  simp only [commitsPath_toList, List.count_append, hnone howner, hnone hname]
  decide

theorem commitsPath_plain (howner : RepoPart owner) (hname : RepoPart name) :
    ∀ c ∈ (commitsPath owner name).toList,
      c ≠ '#' ∧ c ≠ '%' ∧ c ≠ '&' ∧ Text.isBlank c = false := by
  have hpart : ∀ {p : String}, RepoPart p →
      ∀ c ∈ p.toList, c ≠ '#' ∧ c ≠ '%' ∧ c ≠ '&' ∧ Text.isBlank c = false := fun hp c hc =>
    (hp.plain c hc).2.2
  intro c hc
  simp only [commitsPath_toList, List.mem_append] at hc
  rcases hc with (((hc | hc) | hc) | hc) | hc
  · revert c
    simp [Text.isBlank]
  · exact hpart howner c hc
  · revert c
    simp [Text.isBlank]
  · exact hpart hname c hc
  · revert c
    simp [Text.isBlank]

/-! ### What is asked for -/

/-- Equal addresses are those of one repository and of one stem. -/
theorem eq_of_commitsUrl_eq (hrepo : isRepo repo = true) (hrepo' : isRepo repo' = true)
    (h : commitsUrl base repo = commitsUrl base' repo') :
    repo = repo' ∧ ∃ stem, IsStem stem base ∧ IsStem stem base' := by
  obtain ⟨owner, name, howner, hname, rfl⟩ := isRepo_iff.mp hrepo
  obtain ⟨owner', name', howner', hname', rfl⟩ := isRepo_iff.mp hrepo'
  obtain ⟨stem, hstem⟩ := exists_isStem base
  obtain ⟨stem', hstem'⟩ := exists_isStem base'
  rw [commitsUrl_eq hstem, commitsUrl_eq hstem'] at h
  obtain ⟨rfl, rfl, rfl⟩ := append_commitsPath_inj howner hname howner' hname' h
  exact ⟨rfl, stem, hstem, hstem'⟩

/-- **The repository that is set is the one asked for.**  Whatever the base is, the address is
    the base without the slashes at its end and a path with the names of the owner and the
    repository, which has four slashes, one question mark and no other sign that means something
    in an address.  Slashes at the end of a base do not matter, and equal addresses are those of
    one repository, with bases that differ in slashes at the end only. -/
theorem commitsUrl_accepted :
    (∀ (lookup : String → Option String) (repo base : String),
      (Settings.ofAttributes lookup).1.commits.repo = some repo →
        presentValue? (lookup Attribute.commitRepo.name) = some repo ∧
        ∃ owner name stem, RepoPart owner ∧ RepoPart name ∧ repo = owner ++ "/" ++ name ∧
          IsStem stem base ∧
          commitsUrl base repo = stem ++ commitsPath owner name ∧
          (commitsPath owner name).toList.count '/' = 4 ∧
          (commitsPath owner name).toList.count '?' = 1 ∧
          (∀ c ∈ (commitsPath owner name).toList,
            c ≠ '#' ∧ c ≠ '%' ∧ c ≠ '&' ∧ Text.isBlank c = false) ∧
          ∀ m, commitsUrl (base ++ slashes m) repo = commitsUrl base repo) ∧
    (∀ (lookup lookup' : String → Option String) (repo repo' base base' : String),
      (Settings.ofAttributes lookup).1.commits.repo = some repo →
      (Settings.ofAttributes lookup').1.commits.repo = some repo' →
      commitsUrl base repo = commitsUrl base' repo' →
        repo = repo' ∧ ∃ stem k k', base = stem ++ slashes k ∧ base' = stem ++ slashes k') := by
  constructor
  · intro lookup repo base hrepo
    have hset := hrepo
    rw [Settings.commits_ofAttributes] at hset
    obtain ⟨hvalue, hrepo⟩ := Option.filter_eq_some_iff.mp hset
    obtain ⟨owner, name, howner, hname, rfl⟩ := isRepo_iff.mp hrepo
    obtain ⟨stem, hstem⟩ := exists_isStem base
    obtain ⟨hslashes, hmarks⟩ := count_commitsPath howner hname
    refine ⟨hvalue, owner, name, stem, howner, hname, rfl, hstem, commitsUrl_eq hstem, hslashes,
      hmarks, commitsPath_plain howner hname, fun m => ?_⟩
    rw [commitsUrl_eq hstem, commitsUrl_eq (hstem.append_slashes m)]
  · intro lookup lookup' repo repo' base base' hrepo hrepo' h
    obtain ⟨hsame, stem, hstem, hstem'⟩ := eq_of_commitsUrl_eq
      (repo_ofAttributes_iff.mp ⟨lookup, hrepo⟩) (repo_ofAttributes_iff.mp ⟨lookup', hrepo'⟩) h
    obtain ⟨k, hk⟩ := hstem.padded
    obtain ⟨k', hk'⟩ := hstem'.padded
    exact ⟨hsame, stem, k, k', hk, hk'⟩

/-- A base that is itself in a place of repositories, and the same with slashes at its end. -/
theorem commitsUrl_accepted_nested :
    let page : String → Option String := fun name =>
      if name = Attribute.commitRepo.name then some " a.b/_-9 " else none
    let base := "https://h/repos/x"
    (Settings.ofAttributes page).1.commits.repo = some "a.b/_-9" ∧
    commitsUrl (base ++ slashes 2) "a.b/_-9" = commitsUrl base "a.b/_-9" ∧
    commitsUrl base "a.b/_-9" = "https://h/repos/x/repos/a.b/_-9/commits?per_page=1" ∧
    ∃ stem k k', base ++ slashes 2 = stem ++ slashes k ∧ base = stem ++ slashes k' := by
  intro page base
  have hrepo : (Settings.ofAttributes page).1.commits.repo = some "a.b/_-9" := by decide +kernel
  obtain ⟨-, _, _, _, -, -, -, -, -, -, -, -, hslashes⟩ :=
    commitsUrl_accepted.1 page "a.b/_-9" base hrepo
  obtain ⟨-, hstem⟩ := commitsUrl_accepted.2 page page "a.b/_-9" "a.b/_-9" (base ++ slashes 2) base
    hrepo hrepo (hslashes 2)
  exact ⟨hrepo, hslashes 2, by decide +kernel, hstem⟩

end Enhance
