/-
  Enhance/Proofs/Commit/Endpoint.lean
  ===================================
  **Where a request ends up.**

  Before an address is asked, the steps in its path are taken: `.` stays in
  place and `..` goes back by one segment (`resolve`).  A path is left as it is
  exactly if none of its segments is such a step.  Since dots are among the
  signs of a name, an owner or a repository can be one, and then the request
  does not go where it was meant to go (`lastUpdatedUrl_endpoint`).
-/
import Enhance.Proofs.Commit.Address

namespace Enhance

/-! ### The path of an address -/

/-- What stands behind the scheme. -/
def afterScheme : List Char → List Char
  | ':' :: '/' :: '/' :: rest => rest
  | _ :: rest => afterScheme rest
  | [] => []

/-- The path of an address: what lies between the authority and the query or the fragment. -/
def addressPath (address : String) : List Char :=
  let rest := (afterScheme address.toList).dropWhile fun c => c ≠ '/' ∧ c ≠ '?' ∧ c ≠ '#'
  rest.takeWhile fun c => c ≠ '?' ∧ c ≠ '#'

/-! ### Steps within a path -/

/-- A segment that is a step within a path and not a name. -/
def isDotSegment (s : List Char) : Bool := s = ['.'] ∨ s = ['.', '.']

/-- The segments entered so far, and one more. -/
def enter (out : List (List Char)) (s : List Char) : List (List Char) :=
  if s = ['.', '.'] then out.dropLast else if s = ['.'] then out else out ++ [s]

/-- The segments once all steps are taken.  Behind a step at the end an empty segment is left. -/
def resolve (segments : List (List Char)) : List (List Char) :=
  segments.foldl enter [] ++ if segments.getLast?.any isDotSegment then [[]] else []

/-- The path that begins with a slash, once all steps within it are taken. -/
def resolvedPath (path : List Char) : List Char :=
  (resolve (Text.pieces (· == '/') path).tail).flatMap ('/' :: ·)

variable {out segments : List (List Char)} {s : List Char}

theorem enter_of_plain (hs : isDotSegment s = false) : enter out s = out ++ [s] := by
  simp only [isDotSegment, decide_eq_false_iff_not, not_or] at hs
  simp [enter, hs]

theorem mem_enter {w : List Char} (h : w ∈ enter out s) :
    w ∈ out ∨ (w = s ∧ isDotSegment w = false) := by
  by_cases hs : isDotSegment s = true
  · simp only [isDotSegment, decide_eq_true_eq] at hs
    rcases hs with rfl | rfl
    · left
      simpa [enter] using h
    · left
      exact List.mem_of_mem_dropLast (by simpa [enter] using h)
  · have hplain : isDotSegment s = false := by simpa using hs
    rw [enter_of_plain hplain] at h
    rcases List.mem_append.mp h with h | h
    · exact Or.inl h
    · obtain rfl := List.mem_singleton.mp h
      exact Or.inr ⟨rfl, hplain⟩

/-- Only names are entered. -/
theorem mem_foldl_enter {w : List Char} (h : w ∈ segments.foldl enter out) :
    w ∈ out ∨ (w ∈ segments ∧ isDotSegment w = false) := by
  induction segments generalizing out with
  | nil => exact Or.inl h
  | cons s rest ih =>
    rcases ih h with hout | ⟨hrest, hplain⟩
    · rcases mem_enter hout with hout | ⟨rfl, hplain⟩
      · exact Or.inl hout
      · exact Or.inr ⟨by simp, hplain⟩
    · exact Or.inr ⟨by simp [hrest], hplain⟩

theorem foldl_enter_of_plain (h : ∀ s ∈ segments, isDotSegment s = false) :
    segments.foldl enter out = out ++ segments := by
  induction segments generalizing out with
  | nil => simp
  | cons s rest ih =>
    rw [List.foldl_cons, enter_of_plain (h s (by simp)), ih fun w hw => h w (by simp [hw])]
    simp

/-- No step is left. -/
theorem mem_resolve {w : List Char} (h : w ∈ resolve segments) :
    (w ∈ segments ∨ w = []) ∧ isDotSegment w = false := by
  rcases List.mem_append.mp h with h | h
  · rcases mem_foldl_enter h with h | ⟨h, hplain⟩
    · cases h
    · exact ⟨Or.inl h, hplain⟩
  · split at h
    · obtain rfl := List.mem_singleton.mp h
      exact ⟨Or.inr rfl, rfl⟩
    · cases h

/-- Segments stay as they are if none of them is a step. -/
theorem resolve_eq_self_iff :
    resolve segments = segments ↔ ∀ s ∈ segments, isDotSegment s = false := by
  constructor
  · intro h s hs
    exact (mem_resolve (h.symm ▸ hs)).2
  · intro h
    have hlast : segments.getLast?.any isDotSegment = false := by
      cases hl : segments.getLast? with
      | none => rfl
      | some s => exact h s (List.mem_of_getLast? hl)
    simp [resolve, hlast, foldl_enter_of_plain h]

/-! ### Segments and paths -/

/-- The pieces of a path are its segments, behind the empty one before the first slash. -/
theorem pieces_path (h : ∀ s ∈ segments, '/' ∉ s) :
    Text.pieces (· == '/') (segments.flatMap ('/' :: ·)) = [] :: segments := by
  have hjoined : segments.flatMap ('/' :: ·) = ['/'].intercalate ([] :: segments) := by
    clear h
    induction segments with
    | nil => rfl
    | cons s rest ih =>
      cases rest <;> simp_all [List.intercalate_cons_cons]
  rw [hjoined]
  exact Text.pieces_intercalate_char (by simp) (by simpa using h)

/-- A path stays as it is if none of its segments is a step. -/
theorem resolvedPath_eq_self_iff (h : ∀ s ∈ segments, '/' ∉ s) :
    resolvedPath (segments.flatMap ('/' :: ·)) = segments.flatMap ('/' :: ·) ↔
      ∀ s ∈ segments, isDotSegment s = false := by
  have hresolved : ∀ s ∈ resolve segments, '/' ∉ s := by
    intro s hs
    rcases (mem_resolve hs).1 with hs | rfl
    · exact h s hs
    · simp
  rw [← resolve_eq_self_iff, resolvedPath, pieces_path h, List.tail_cons]
  constructor
  · intro hpath
    have hpieces := congrArg (Text.pieces (· == '/')) hpath
    rw [pieces_path hresolved, pieces_path h] at hpieces
    exact (List.cons.inj hpieces).2
  · intro hsegments
    rw [hsegments]

example : resolvedPath "/a/b/c/./../../g".toList = "/a/g".toList := by decide

/-! ### The path of a request -/

variable {owner name : String}

/-- The segments of the path of the commits. -/
def commitsSegments (owner name : String) : List (List Char) :=
  ["repos".toList, owner.toList, name.toList, "commits".toList]

theorem slash_not_mem_commitsSegments (howner : RepoPart owner) (hname : RepoPart name) :
    ∀ s ∈ commitsSegments owner name, '/' ∉ s := by
  simp [commitsSegments, howner.slash_not_mem, hname.slash_not_mem]

theorem addressPath_commits (howner : RepoPart owner) (hname : RepoPart name) :
    addressPath ("https://api.github.com" ++ commitsPath owner name) =
      (commitsSegments owner name).flatMap ('/' :: ·) := by
  have hpart : ∀ {p : String}, RepoPart p → ∀ c ∈ p.toList, c ≠ '?' ∧ c ≠ '#' := fun hp c hc =>
    ⟨(hp.plain c hc).2.1, (hp.plain c hc).2.2.1⟩
  have hplain : ∀ c ∈ (commitsSegments owner name).flatMap ('/' :: ·),
      decide (c ≠ '?' ∧ c ≠ '#') = true := by
    have hrepos : ∀ c ∈ "repos".toList, c ≠ '?' ∧ c ≠ '#' := by simp
    have hcommits : ∀ c ∈ "commits".toList, c ≠ '?' ∧ c ≠ '#' := by simp
    intro c hc
    simp only [commitsSegments, List.flatMap_cons, List.flatMap_nil, List.mem_append,
      List.mem_cons, List.not_mem_nil, or_false] at hc
    rw [decide_eq_true_eq]
    rcases hc with (rfl | hc) | (rfl | hc) | (rfl | hc) | (rfl | hc)
    · decide
    · exact hrepos c hc
    · decide
    · exact hpart howner c hc
    · decide
    · exact hpart hname c hc
    · decide
    · exact hcommits c hc
  have hbehind : (afterScheme ("https://api.github.com" ++ commitsPath owner name).toList).dropWhile
      (fun c => c ≠ '/' ∧ c ≠ '?' ∧ c ≠ '#') =
        (commitsSegments owner name).flatMap ('/' :: ·) ++ "?per_page=1".toList := by
    simp [commitsPath_toList, commitsSegments, afterScheme]
  unfold addressPath
  rw [hbehind, List.takeWhile_append_of_pos hplain]
  simp

/-- **Where the request for an accepted repository ends up.**  The path of the address is the
    place of the commits of the repository, and it is still that place once all steps within it
    are taken if, and only if, neither the owner nor the name is a step. -/
theorem lastUpdatedUrl_endpoint (lookup : String → Option String) (repo : String)
    (hrepo : (Settings.ofAttributes lookup).1.commits.repo = some repo) :
    ∃ owner name url, RepoPart owner ∧ RepoPart name ∧ repo = owner ++ "/" ++ name ∧
      lastUpdatedUrl (Settings.ofAttributes lookup).1.commits true = .ok url ∧
      addressPath url = ("/repos/" ++ owner ++ "/" ++ name ++ "/commits").toList ∧
      (resolvedPath (addressPath url) = ("/repos/" ++ owner ++ "/" ++ name ++ "/commits").toList ↔
        isDotSegment owner.toList = false ∧ isDotSegment name.toList = false) := by
  obtain ⟨owner, name, howner, hname, rfl⟩ :=
    isRepo_iff.mp (repo_ofAttributes_iff.mp ⟨lookup, hrepo⟩)
  have hbase : (Settings.ofAttributes lookup).1.commits.apiBase = "https://api.github.com" := by
    rw [Settings.commits_ofAttributes]
  have hstem : IsStem "https://api.github.com" "https://api.github.com" :=
    ⟨⟨0, by decide⟩, by decide⟩
  have hurl : lastUpdatedUrl (Settings.ofAttributes lookup).1.commits true =
      .ok ("https://api.github.com" ++ commitsPath owner name) := by
    simp [lastUpdatedUrl, hrepo, hbase, commitsUrl_eq hstem]
  have hpath : (commitsSegments owner name).flatMap ('/' :: ·) =
      ("/repos/" ++ owner ++ "/" ++ name ++ "/commits").toList := by
    simp [commitsSegments]
  refine ⟨owner, name, _, howner, hname, rfl, hurl, ?_, ?_⟩
  · rw [addressPath_commits howner hname, hpath]
  · rw [addressPath_commits howner hname, ← hpath,
      resolvedPath_eq_self_iff (slash_not_mem_commitsSegments howner hname)]
    simp [commitsSegments, isDotSegment]

/-- Three dots are a name. -/
theorem lastUpdatedUrl_endpoint_three_dots :
    let page : String → Option String := fun name =>
      if name = Attribute.commitRepo.name then some ".../a" else none
    (Settings.ofAttributes page).1.commits.repo = some ".../a" ∧
    ∃ url, lastUpdatedUrl (Settings.ofAttributes page).1.commits true = .ok url ∧
      resolvedPath (addressPath url) = "/repos/.../a/commits".toList := by
  intro page
  have hrepo : (Settings.ofAttributes page).1.commits.repo = some ".../a" := by decide +kernel
  obtain ⟨owner, name, url, howner, hname, hcut, hurl, -, hends⟩ :=
    lastUpdatedUrl_endpoint page ".../a" hrepo
  have hthree : RepoPart "..." ∧ RepoPart "a" :=
    ⟨repoPart_iff.mpr (by decide), repoPart_iff.mpr (by decide)⟩
  have hjoin : ".../a" = "..." ++ "/" ++ "a" := by decide
  rw [hjoin, repo_eq_iff hthree.1 hthree.2 howner hname] at hcut
  obtain ⟨rfl, rfl⟩ := hcut
  exact ⟨hrepo, url, hurl, hends.mpr (by decide)⟩

/-- Two dots are accepted as an owner and as a name, and the request then goes to the root. -/
theorem lastUpdatedUrl_astray :
    let page : String → Option String := fun name =>
      if name = Attribute.commitRepo.name then some "../.." else none
    (Settings.ofAttributes page).1.commits.repo = some "../.." ∧
    (Settings.ofAttributes page).2 = [] ∧
    isDotSegment "..".toList = true ∧
    ∃ url, lastUpdatedUrl (Settings.ofAttributes page).1.commits true = .ok url ∧
      resolvedPath (addressPath url) = "/commits".toList := by
  intro page
  exact ⟨by decide +kernel, by decide +kernel, rfl,
    "https://api.github.com/repos/../../commits?per_page=1", by decide +kernel, by decide +kernel⟩

end Enhance
