/-
  Enhance/Proofs/Settings/Names.lean
  ==================================
  **What no attribute of a page can choose:** which elements the features look
  for, and which class makes the body dark; that the shortcut is some chord that
  can be written; and that a repository to ask about is named by one attribute.
-/
import Enhance.Proofs.Settings.Independence

namespace Enhance.Settings

/-- The settings have the names that hold when nothing is chosen. -/
structure StandardNames (s : Settings) : Prop where
  darkClass : s.theme.darkClass = "dark-mode"
  toggle : s.theme.toggleId = "dark-mode-toggle"
  backToTop : s.backToTop.elementId = "back-to-top"
  selector : s.reveal.selector = ".fade-in"
  typing : s.typing.elementId = "tagline"
  commits : s.commits.elementId = "last-updated"
  apiBase : s.commits.apiBase = "https://api.github.com"

theorem standardNames_overlay {a : Attribute} {value : String} {s s' : Settings}
    (hs : s.StandardNames) (h : a.overlay value s = .ok s') : s'.StandardNames := by
  obtain ⟨h1, h2, h3, h4, h5, h6, h7⟩ := hs
  cases a with
  | themeKey =>
    cases h
    exact ⟨h1, h2, h3, h4, h5, h6, h7⟩
  | commitRepo =>
    rw [Attribute.overlay] at h
    split at h
    · cases h
      exact ⟨h1, h2, h3, h4, h5, h6, h7⟩
    · cases h
  | _ =>
    -- every other value is read first, and refused if it cannot be
    simp only [Attribute.overlay] at h
    split at h
    · cases h
      exact ⟨h1, h2, h3, h4, h5, h6, h7⟩
    · cases h

/-- What holds of the settings that hold when nothing is chosen, and of whatever a value puts
    in their place, holds of the settings that a page asks for. -/
theorem ofAttributes_induction {P : Settings → Prop} (hstandard : P {})
    (hoverlay : ∀ {a : Attribute} {value : String} {s s' : Settings}, P s →
      a.overlay value s = .ok s' → P s') (lookup : String → Option String) :
    P (ofAttributes lookup).1 := by
  have hadopt : ∀ {acc : Settings × List Rejection} (a : Attribute), P acc.1 →
      P (adopt lookup acc a).1 := by
    intro acc a hacc
    unfold adopt
    split
    · exact hacc
    · split
      · rename_i s hs
        exact hoverlay hacc hs
      · exact hacc
  have hfoldl : ∀ (l : List Attribute) {acc : Settings × List Rejection}, P acc.1 →
      P (l.foldl (adopt lookup) acc).1 := by
    intro l
    induction l with
    | nil => exact fun hacc => hacc
    | cons a rest ih => exact fun hacc => ih (hadopt a hacc)
  exact hfoldl Attribute.all hstandard

/-- Whatever the attributes of a page, the names are the standard ones. -/
theorem standardNames_ofAttributes (lookup : String → Option String) :
    (ofAttributes lookup).1.StandardNames :=
  ofAttributes_induction ⟨rfl, rfl, rfl, rfl, rfl, rfl, rfl⟩ standardNames_overlay lookup

/-- The chord is the standard one, or was read off a text. -/
theorem shortcut_ofAttributes (lookup : String → Option String) :
    (ofAttributes lookup).1.shortcut = .standard ∨
      ∃ value, Chord.parse value = .ok (ofAttributes lookup).1.shortcut := by
  refine own_induction (a := .themeShortcut) (f := fun s => s.shortcut)
    (P := fun chord => chord = .standard ∨ ∃ value, Chord.parse value = .ok chord)
    (fun _ _ => rfl) lookup (Or.inl rfl) fun value s _ hs => Or.inr ⟨value, ?_⟩
  rw [Attribute.overlay] at hs
  split at hs
  · rename_i c hread
    cases hs
    exact hread
  · cases hs

/-- The repository is what the body names, if that is one; all else about commits stands. -/
theorem commits_ofAttributes (lookup : String → Option String) :
    (ofAttributes lookup).1.commits =
      { repo := (presentValue? (lookup "data-commit-repo")).filter isRepo } := by
  have hown : (ofAttributes lookup).1.commits.repo = (heed lookup {} .commitRepo).commits.repo :=
    own_ofAttributes (f := fun s => s.commits.repo) (fun _ _ => rfl) lookup
  have hrepo : (heed lookup {} .commitRepo).commits.repo =
      (presentValue? (lookup "data-commit-repo")).filter isRepo := by
    cases hvalue : presentValue? (lookup "data-commit-repo") with
    | none => simp [heed, Attribute.name, hvalue]
    | some value =>
      cases hread : isRepo value <;>
        simp [heed, Attribute.name, Attribute.overlay, Option.filter, hvalue, hread]
  have hnames := standardNames_ofAttributes lookup
  calc (ofAttributes lookup).1.commits
      = ⟨(ofAttributes lookup).1.commits.elementId, (ofAttributes lookup).1.commits.repo,
          (ofAttributes lookup).1.commits.apiBase⟩ := rfl
    _ = { repo := (presentValue? (lookup "data-commit-repo")).filter isRepo } := by
        rw [hnames.commits, hnames.apiBase, hown, hrepo]

end Enhance.Settings
