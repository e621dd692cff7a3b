/-
  Enhance/Proofs/Settings/Independence.lean
  =========================================
  **Each attribute answers for its own setting.**

  Looking at an attribute does two things that can be told apart: it changes
  the setting that the attribute governs (`heed`), and it may add a rejection
  (`refusal?`).  Neither depends on what the other attributes say, so the
  settings come from one fold and the rejections from another
  (`ofAttributes_eq`).

  `Attribute.transfer` puts the one setting that an attribute governs to what it
  is in other settings.  It covers up what its own attribute did and commutes
  with what any other one does, and from these two laws follows all that is
  said here about which settings can differ and which are standard
  (`ofAttributes_independent`).
-/
import Enhance.Settings.Attribute

namespace Enhance

/-! ### Blanks around a value -/

namespace Text

theorem dropWhile_isBlank {w : List Char} (hw : w.all isBlank = true) (l : List Char) :
    (w ++ l).dropWhile isBlank = l.dropWhile isBlank :=
  List.dropWhile_append_of_pos (List.all_eq_true.mp hw)

/-- Blanks around a text are trimmed off. -/
theorem trimChars_padded {front back : List Char} (hfront : front.all isBlank = true)
    (hback : back.all isBlank = true) (l : List Char) :
    trimChars (front ++ l ++ back) = trimChars l := by
  have hreversed : back.reverse.all isBlank = true := by rwa [List.all_reverse]
  unfold trimChars
  rw [List.append_assoc, dropWhile_isBlank hfront, List.dropWhile_append]
  split
  · -- nothing but blanks was there
    rename_i hnil
    have hrest : back.dropWhile isBlank = [] := by
      rw [← List.append_nil back, dropWhile_isBlank hback, List.dropWhile_nil]
    rw [List.isEmpty_iff.mp hnil, hrest]
  · rw [List.reverse_append, dropWhile_isBlank hreversed]

end Text

theorem presentValue?_padded {front back : String} (hfront : front.toList.all Text.isBlank = true)
    (hback : back.toList.all Text.isBlank = true) (raw : Option String) :
    presentValue? (raw.map fun v => front ++ v ++ back) = presentValue? raw := by
  have htrim : ∀ v, Text.trim (front ++ v ++ back) = Text.trim v := by
    intro v
    simp only [Text.trim, String.toList_append, Text.trimChars_padded hfront hback]
  cases raw with
  | none => rfl
  | some v => simp only [presentValue?, Option.map_some, htrim]

/-! ### What an attribute governs -/

namespace Attribute

/-- The attributes whose value can be refused, in the order in which they are
    looked at: any text at all is a storage key. -/
def refusable : List Attribute :=
  [defaultTheme, backToTopOffset, revealStep, typingDelay, themeShortcut, commitRepo, logLevel]

/-- Whether a value reads as what the attribute's setting needs. -/
def reads (value : String) : Attribute → Bool
  | defaultTheme => (Theme.ofText? value).isSome
  | themeKey => true
  | backToTopOffset => (readOffset? value).isSome
  | revealStep | typingDelay => (readCount? value).isSome
  | themeShortcut => (Chord.parse value).isOk
  | commitRepo => isRepo value
  | logLevel => (Log.Level.ofText? value).isSome

/-- The settings `s`, with the one that an attribute governs as it is in `d`. -/
def transfer (d : Settings) : Attribute → Settings → Settings
  | defaultTheme, s => { s with theme := { s.theme with fallback := d.theme.fallback } }
  | themeKey, s => { s with theme := { s.theme with storageKey := d.theme.storageKey } }
  | backToTopOffset, s =>
    { s with backToTop := { s.backToTop with threshold := d.backToTop.threshold } }
  | revealStep, s => { s with reveal := { s.reveal with step := d.reveal.step } }
  | typingDelay, s => { s with typing := { s.typing with delay := d.typing.delay } }
  | themeShortcut, s => { s with shortcut := d.shortcut }
  | commitRepo, s => { s with commits := { s.commits with repo := d.commits.repo } }
  | logLevel, s => { s with logLevel := d.logLevel }

variable {a b : Attribute} {value : String} {d s s' : Settings}

theorem transfer_self (a : Attribute) (s : Settings) : a.transfer s s = s := by cases a <;> rfl

/-- An attribute changes no setting but its own. -/
theorem transfer_overlay (h : a.overlay value s = .ok s') : a.transfer d s' = a.transfer d s := by
  cases a with
  | themeKey =>
    cases h
    rfl
  | _ =>
    simp only [overlay] at h
    split at h
    · cases h
      rfl
    · cases h

/-- An attribute does the same whatever the setting of another one is. -/
theorem overlay_transfer (hab : b ≠ a) :
    b.overlay value (a.transfer d s) = (b.overlay value s).map (a.transfer d) := by
  cases b with
  | themeKey => cases a <;> first | rfl | exact absurd rfl hab
  | _ =>
    simp only [overlay]
    split <;> cases a <;> first | rfl | exact absurd rfl hab

/-- What one attribute governs is not what another one does. -/
theorem transfer_transfer_ne (hab : b ≠ a) (u : Settings) :
    a.transfer (b.transfer d s) u = a.transfer s u := by
  cases a <;> cases b <;> first | rfl | exact absurd rfl hab

/-- Whether a value is refused, and for what, does not depend on the settings. -/
theorem overlay_error {misfit : Misfit} (h : a.overlay value s = .error misfit) (u : Settings) :
    a.overlay value u = .error misfit := by
  cases a with
  | themeKey => cases h
  | commitRepo =>
    simp only [overlay] at h ⊢
    split at h
    · cases h
    · rename_i hread
      rw [if_neg hread]
      exact h
  | _ =>
    simp only [overlay] at h ⊢
    split at h
    · cases h
    · exact h

/-- What a value makes of its setting does not depend on what the setting was. -/
theorem transfer_overlay_self {u u' : Settings} (hs : a.overlay value s = .ok s')
    (hu : a.overlay value u = .ok u') (d : Settings) : a.transfer s' d = a.transfer u' d := by
  cases a with
  | themeKey =>
    cases hs
    cases hu
    rfl
  | _ =>
    simp only [overlay] at hs hu
    split at hs
    · rename_i hread
      simp only [hread, if_true] at hu
      cases hs
      cases hu
      rfl
    · cases hs

theorem reads_eq_isOk (a : Attribute) (value : String) (s : Settings) :
    a.reads value = (a.overlay value s).isOk := by
  cases a with
  | themeKey => rfl
  | _ =>
    simp only [reads, overlay]
    split <;> simp_all [Except.isOk, Except.toBool]

end Attribute

/-! ### Looking at the attributes one after the other -/

namespace Settings

open Attribute

variable {lookup lookup₁ lookup₂ : String → Option String} {a b : Attribute} {d s s₁ s₂ : Settings}

/-- The settings once an attribute was looked at. -/
def heed (lookup : String → Option String) (s : Settings) (a : Attribute) : Settings :=
  match presentValue? (lookup a.name) with
  | none => s
  | some value =>
    match a.overlay value s with
    | .ok s' => s'
    | .error _ => s

/-- The rejection of an attribute, if its value is refused. -/
def refusal? (lookup : String → Option String) (a : Attribute) : Option Rejection :=
  match presentValue? (lookup a.name) with
  | none => none
  | some value =>
    match a.overlay value {} with
    | .ok _ => none
    | .error misfit => some ⟨a, misfit⟩

theorem adopt_eq (lookup : String → Option String) (acc : Settings × List Rejection)
    (a : Attribute) :
    adopt lookup acc a = (heed lookup acc.1 a, acc.2 ++ (refusal? lookup a).toList) := by
  unfold adopt heed refusal?
  cases presentValue? (lookup a.name) with
  | none => simp
  | some value =>
    cases hs : a.overlay value acc.1 with
    | error misfit => simp [hs, overlay_error hs {}]
    | ok s' =>
      cases hd : a.overlay value {} with
      | error misfit =>
        rw [overlay_error hd acc.1] at hs
        cases hs
      | ok d' => simp [hs, hd]

theorem foldl_adopt (l : List Attribute) (acc : Settings × List Rejection) :
    l.foldl (adopt lookup) acc =
      (l.foldl (heed lookup) acc.1, acc.2 ++ l.filterMap (refusal? lookup)) := by
  induction l generalizing acc with
  | nil => simp
  | cons a rest ih =>
    rw [List.foldl_cons, ih, adopt_eq]
    cases h : refusal? lookup a <;> simp [h]

/-- The settings and the rejections come about independently. -/
theorem ofAttributes_eq (lookup : String → Option String) :
    ofAttributes lookup = (all.foldl (heed lookup) {}, all.filterMap (refusal? lookup)) := by
  rw [ofAttributes, foldl_adopt]
  rfl

/-- Nothing but the trimmed values of the recognised attributes matters. -/
theorem ofAttributes_congr
    (h : ∀ a : Attribute, presentValue? (lookup₁ a.name) = presentValue? (lookup₂ a.name)) :
    ofAttributes lookup₁ = ofAttributes lookup₂ := by
  have hadopt : adopt lookup₁ = adopt lookup₂ := by
    funext acc a
    rw [adopt, adopt, h a]
  rw [ofAttributes, ofAttributes, hadopt]

/-! ### The settings -/

theorem heed_congr (h : presentValue? (lookup₁ a.name) = presentValue? (lookup₂ a.name))
    (s : Settings) : heed lookup₁ s a = heed lookup₂ s a := by
  rw [heed, heed, h]

/-- A value that does not read leaves any settings as they are. -/
theorem heed_of_unreadable {value : String} (hvalue : presentValue? (lookup a.name) = some value)
    (hreads : a.reads value = false) (s : Settings) : heed lookup s a = s := by
  rw [reads_eq_isOk a value s] at hreads
  unfold heed
  simp only [hvalue]
  cases ho : a.overlay value s with
  | error misfit => rfl
  | ok s' =>
    rw [ho] at hreads
    cases hreads

theorem transfer_heed (d s : Settings) (a : Attribute) :
    a.transfer d (heed lookup s a) = a.transfer d s := by
  unfold heed
  split
  · rfl
  · split
    · rename_i s' hs
      exact transfer_overlay hs
    · rfl

theorem heed_transfer (hab : b ≠ a) :
    heed lookup (a.transfer d s) b = a.transfer d (heed lookup s b) := by
  unfold heed
  split
  · rfl
  · rw [overlay_transfer hab]
    cases b.overlay _ s <;> rfl

/-- Two look-ups that agree on all attributes but one lead to settings that
    agree but for the one it governs. -/
theorem transfer_foldl_heed
    (h : ∀ b, b ≠ a → presentValue? (lookup₁ b.name) = presentValue? (lookup₂ b.name))
    (hs : a.transfer d s₁ = a.transfer d s₂) (l : List Attribute) :
    a.transfer d (l.foldl (heed lookup₁) s₁) = a.transfer d (l.foldl (heed lookup₂) s₂) := by
  induction l generalizing s₁ s₂ with
  | nil => exact hs
  | cons b rest ih =>
    apply ih
    by_cases hab : b = a
    · subst hab
      rw [transfer_heed, transfer_heed, hs]
    · rw [← heed_transfer hab, ← heed_transfer hab, hs, heed_congr (h b hab)]

/-- A setting stays as it was if looking at its attribute changes nothing. -/
theorem transfer_foldl_of_unheeded (h : ∀ s, heed lookup s a = s) (hs : a.transfer d s = s)
    (l : List Attribute) : a.transfer d (l.foldl (heed lookup) s) = l.foldl (heed lookup) s := by
  induction l generalizing s with
  | nil => exact hs
  | cons b rest ih =>
    apply ih
    by_cases hab : b = a
    · subst hab
      rw [h, hs]
    · rw [← heed_transfer hab, hs]

/-! ### One setting -/

/-- Settings that agree on what an attribute governs still do once it was looked at. -/
theorem transfer_heed_congr (h : ∀ d, a.transfer s₁ d = a.transfer s₂ d) (d : Settings) :
    a.transfer (heed lookup s₁ a) d = a.transfer (heed lookup s₂ a) d := by
  unfold heed
  cases presentValue? (lookup a.name) with
  | none => exact h d
  | some value =>
    dsimp only
    cases h₁ : a.overlay value s₁ with
    | error misfit =>
      rw [overlay_error h₁ s₂]
      exact h d
    | ok s₁' =>
      cases h₂ : a.overlay value s₂ with
      | error misfit =>
        rw [overlay_error h₂ s₁] at h₁
        cases h₁
      | ok s₂' => exact transfer_overlay_self h₁ h₂ d

/-- Looking at another attribute leaves what an attribute governs. -/
theorem transfer_heed_ne (hab : b ≠ a) (s d : Settings) :
    a.transfer (heed lookup s b) d = a.transfer s d := by
  calc a.transfer (heed lookup s b) d
      = a.transfer (b.transfer {} (heed lookup s b)) d := (transfer_transfer_ne hab d).symm
    _ = a.transfer (b.transfer {} s) d := by rw [transfer_heed]
    _ = a.transfer s d := transfer_transfer_ne hab d

theorem transfer_foldl_heed_of_not_mem {l : List Attribute} (hl : a ∉ l) (s d : Settings) :
    a.transfer (l.foldl (heed lookup) s) d = a.transfer s d := by
  induction l generalizing s with
  | nil => rfl
  | cons b rest ih =>
    rw [List.foldl_cons, ih (List.not_mem_of_not_mem_cons hl),
      transfer_heed_ne (List.ne_of_not_mem_cons hl).symm]

theorem transfer_foldl_heed_of_mem {l : List Attribute} (hnodup : l.Nodup) (hl : a ∈ l)
    (s d : Settings) : a.transfer (l.foldl (heed lookup) s) d = a.transfer (heed lookup s a) d := by
  induction l generalizing s with
  | nil => cases hl
  | cons b rest ih =>
    obtain ⟨hb, hrest⟩ := List.nodup_cons.mp hnodup
    by_cases hab : b = a
    · subst hab
      exact transfer_foldl_heed_of_not_mem hb (heed lookup s b) d
    · have hmem : a ∈ rest := (List.mem_cons.mp hl).resolve_left (Ne.symm hab)
      rw [List.foldl_cons, ih hrest hmem]
      exact transfer_heed_congr (transfer_heed_ne hab s) d

/-- An attribute alone decides what it governs. -/
theorem own_ofAttributes {α : Type} {f : Settings → α} (hf : ∀ d s, f (a.transfer d s) = f d)
    (lookup : String → Option String) :
    f (ofAttributes lookup).1 = f (heed lookup {} a) := by
  have hsame : a.transfer (ofAttributes lookup).1 {} = a.transfer (heed lookup {} a) {} := by
    rw [ofAttributes_eq]
    exact transfer_foldl_heed_of_mem (by decide) (mem_all a) {} {}
  calc f (ofAttributes lookup).1
      = f (a.transfer (ofAttributes lookup).1 {}) := (hf _ _).symm
    _ = f (a.transfer (heed lookup {} a) {}) := by rw [hsame]
    _ = f (heed lookup {} a) := hf _ _

/-- What an attribute governs is the standard one, or what its value was read as. -/
theorem own_induction {α : Type} {f : Settings → α} {P : α → Prop}
    (hf : ∀ d s, f (a.transfer d s) = f d) (lookup : String → Option String) (hstandard : P (f {}))
    (hread : ∀ value s, presentValue? (lookup a.name) = some value → a.overlay value {} = .ok s →
      P (f s)) : P (f (ofAttributes lookup).1) := by
  rw [own_ofAttributes hf, heed]
  cases hvalue : presentValue? (lookup a.name) with
  | none => exact hstandard
  | some value =>
    dsimp only
    cases hs : a.overlay value {} with
    | error misfit => exact hstandard
    | ok s => exact hread value s hvalue hs

/-! ### What no attribute governs -/

/-- The standard settings, with all that any attribute governs as it is in
    `s`. -/
def governed (s : Settings) : Settings := all.foldl (fun u a => a.transfer s u) {}

theorem overlay_governed (a : Attribute) (value : String) (s : Settings) :
    a.overlay value s.governed = (a.overlay value s).map governed := by
  cases a with
  | themeKey => rfl
  | _ =>
    simp only [overlay]
    split <;> rfl

theorem governed_foldl_heed (hs : s.governed = s) (l : List Attribute) :
    (l.foldl (heed lookup) s).governed = l.foldl (heed lookup) s := by
  induction l generalizing s with
  | nil => exact hs
  | cons a rest ih =>
    apply ih
    unfold heed
    split
    · exact hs
    · rename_i value hvalue
      have hmap : a.overlay value s = (a.overlay value s).map governed := by
        rw [← overlay_governed, hs]
      cases ho : a.overlay value s with
      | error misfit => exact hs
      | ok s' =>
        rw [ho] at hmap
        exact (Except.ok.inj hmap).symm

/-! ### The rejections -/

theorem subject_of_refusal? {r : Rejection} (h : refusal? lookup a = some r) : r.subject = a := by
  unfold refusal? at h
  split at h
  · cases h
  · split at h
    · cases h
    · cases h
      rfl

/-- An attribute is rejected exactly if it has a value that does not read. -/
theorem isSome_refusal?_iff :
    (refusal? lookup a).isSome = true ↔
      ∃ value, presentValue? (lookup a.name) = some value ∧ a.reads value = false := by
  unfold refusal?
  cases presentValue? (lookup a.name) with
  | none => simp
  | some value =>
    simp only [Option.some.injEq, exists_eq_left', reads_eq_isOk a value {}]
    cases a.overlay value {} <;> simp [Except.isOk, Except.toBool]

theorem refusal?_themeKey : refusal? lookup .themeKey = none := by
  unfold refusal?
  cases presentValue? (lookup themeKey.name) <;> rfl

theorem subjects_sublist (l : List Attribute) :
    ((l.filterMap (refusal? lookup)).map Rejection.subject).Sublist l := by
  induction l with
  | nil => exact List.Sublist.refl _
  | cons a rest ih =>
    cases h : refusal? lookup a with
    | none =>
      rw [List.filterMap_cons_none h]
      exact ih.cons a
    | some r =>
      rw [List.filterMap_cons_some h, List.map_cons, subject_of_refusal? h]
      exact ih.cons_cons a

theorem mem_subjects_iff :
    a ∈ (ofAttributes lookup).2.map Rejection.subject ↔ (refusal? lookup a).isSome = true := by
  rw [ofAttributes_eq]
  simp only [List.mem_map, List.mem_filterMap]
  constructor
  · rintro ⟨r, ⟨b, -, hb⟩, rfl⟩
    rw [subject_of_refusal? hb, hb]
    rfl
  · intro h
    obtain ⟨r, hr⟩ := Option.isSome_iff_exists.mp h
    exact ⟨r, ⟨a, mem_all a, hr⟩, subject_of_refusal? hr⟩

theorem filter_refusal? (hab : b = a) :
    (refusal? lookup b).filter (fun r => r.subject ≠ a) = none := by
  cases hr : refusal? lookup b with
  | none => rfl
  | some r => simp [subject_of_refusal? hr, hab]

/-- The rejections of the other attributes do not depend on one of them. -/
theorem filter_filterMap_refusal?
    (h : ∀ b, b ≠ a → presentValue? (lookup₁ b.name) = presentValue? (lookup₂ b.name))
    (l : List Attribute) :
    (l.filterMap (refusal? lookup₁)).filter (fun r => r.subject ≠ a) =
      (l.filterMap (refusal? lookup₂)).filter (fun r => r.subject ≠ a) := by
  have hsame : (fun b => (refusal? lookup₁ b).filter fun r => r.subject ≠ a) =
      fun b => (refusal? lookup₂ b).filter fun r => r.subject ≠ a := by
    funext b
    by_cases hab : b = a
    · rw [filter_refusal? hab, filter_refusal? hab]
    · rw [refusal?, refusal?, h b hab]
  rw [List.filter_filterMap, List.filter_filterMap, hsame]

/-! ### All of it -/

/-- **Each attribute answers for its own setting, and every rejection is
    accounted for.**  Settings and rejections depend on the trimmed values of
    the recognised attributes and on nothing else, a blank value counting as
    none.  Look-ups that differ on one attribute lead to settings that differ
    at most in the one it governs, and to the same rejections of the others.
    An attribute is rejected at most once, in a fixed order, exactly if it has a
    value that does not read, and then its setting is the standard one; so is
    every setting that no attribute governs. -/
theorem ofAttributes_independent :
    (∀ lookup₁ lookup₂ : String → Option String,
      (∀ a : Attribute, presentValue? (lookup₁ a.name) = presentValue? (lookup₂ a.name)) →
        ofAttributes lookup₁ = ofAttributes lookup₂) ∧
    (∀ (lookup : String → Option String) (front back : String → String),
      (∀ name, (front name).toList.all Text.isBlank = true ∧
        (back name).toList.all Text.isBlank = true) →
        ofAttributes (fun name => (lookup name).map fun v => front name ++ v ++ back name) =
          ofAttributes lookup) ∧
    (∀ (lookup₁ lookup₂ : String → Option String) (a : Attribute),
      (∀ b : Attribute, b ≠ a →
        presentValue? (lookup₁ b.name) = presentValue? (lookup₂ b.name)) →
        a.transfer (ofAttributes lookup₂).1 (ofAttributes lookup₁).1 = (ofAttributes lookup₂).1 ∧
          (ofAttributes lookup₁).2.filter (fun r => r.subject ≠ a) =
            (ofAttributes lookup₂).2.filter (fun r => r.subject ≠ a)) ∧
    (∀ lookup : String → Option String,
      let settings := (ofAttributes lookup).1
      let rejected := (ofAttributes lookup).2.map Rejection.subject
      rejected.Nodup ∧ rejected.Sublist refusable ∧
        (∀ a : Attribute, a ∈ rejected ↔
          ∃ value, presentValue? (lookup a.name) = some value ∧ a.reads value = false) ∧
        (∀ a ∈ rejected, a.transfer {} settings = settings) ∧
        settings.governed = settings) := by
  refine ⟨fun _ _ h => ofAttributes_congr h, ?_, ?_, ?_⟩
  · intro lookup front back hblank
    apply ofAttributes_congr
    intro a
    exact presentValue?_padded (hblank a.name).1 (hblank a.name).2 (lookup a.name)
  · intro lookup₁ lookup₂ a h
    rw [ofAttributes_eq lookup₁, ofAttributes_eq lookup₂]
    refine ⟨?_, filter_filterMap_refusal? h all⟩
    rw [transfer_foldl_heed h rfl all, transfer_self]
  · intro lookup settings rejected
    have hsublist : rejected.Sublist refusable := by
      have hall : all.filterMap (refusal? lookup) = refusable.filterMap (refusal? lookup) := by
        simp only [all, refusable, List.filterMap_cons, refusal?_themeKey]
      simp only [rejected, ofAttributes_eq, hall]
      exact subjects_sublist refusable
    have hsettings : settings = all.foldl (heed lookup) {} :=
      congrArg Prod.fst (ofAttributes_eq lookup)
    refine ⟨hsublist.nodup (by decide), hsublist, ?_, ?_, ?_⟩
    · intro a
      exact mem_subjects_iff.trans isSome_refusal?_iff
    · intro a ha
      obtain ⟨value, hvalue, hreads⟩ := isSome_refusal?_iff.mp (mem_subjects_iff.mp ha)
      rw [hsettings]
      exact transfer_foldl_of_unheeded (heed_of_unreadable hvalue hreads) (transfer_self a {}) all
    · rw [hsettings]
      exact governed_foldl_heed rfl all

/-- A page whose shortcut is refused, one whose shortcut is a chord, and one
    with blanks around every value. -/
theorem ofAttributes_independent_shortcut :
    let page (shortcut : String) : String → Option String := fun name =>
      if name = themeShortcut.name then some shortcut
      else if name = typingDelay.name then some "soon" else none
    let other : String → Option String := fun name =>
      if name = themeKey.name then some "  " else page "d" name
    (∀ a : Attribute, presentValue? (other a.name) = presentValue? (page "d" a.name)) ∧
    ofAttributes other = ofAttributes (page "d") ∧
    (String.toList " ").all Text.isBlank = true ∧
    ofAttributes (fun name => (page "d" name).map fun v => " " ++ v ++ " ") =
      ofAttributes (page "d") ∧
    (∀ b : Attribute, b ≠ themeShortcut →
      presentValue? (page "d" b.name) = presentValue? (page "alt+k" b.name)) ∧
    (ofAttributes (page "d")).2.filter (fun r => r.subject ≠ themeShortcut) =
      (ofAttributes (page "alt+k")).2.filter (fun r => r.subject ≠ themeShortcut) ∧
    themeShortcut ∈ (ofAttributes (page "d")).2.map Rejection.subject ∧
    themeShortcut.transfer {} (ofAttributes (page "d")).1 = (ofAttributes (page "d")).1 := by
  intro page other
  have hother : ∀ a : Attribute,
      presentValue? (other a.name) = presentValue? (page "d" a.name) := by
    intro a
    cases a <;> decide
  have hblank : (String.toList " ").all Text.isBlank = true := by decide
  have hshortcut : ∀ b : Attribute, b ≠ themeShortcut →
      presentValue? (page "d" b.name) = presentValue? (page "alt+k" b.name) := by
    intro b hb
    cases b <;> first | decide | exact absurd rfl hb
  obtain ⟨hcongr, hpadded, hone, hall⟩ := ofAttributes_independent
  obtain ⟨-, -, hmem, hstandard, -⟩ := hall (page "d")
  have hrejected : themeShortcut ∈ (ofAttributes (page "d")).2.map Rejection.subject :=
    (hmem themeShortcut).mpr ⟨"d", by decide, by decide⟩
  exact ⟨hother, hcongr other (page "d") hother, hblank,
    hpadded (page "d") (fun _ => " ") (fun _ => " ") (fun _ => ⟨hblank, hblank⟩), hshortcut,
    (hone (page "d") (page "alt+k") themeShortcut hshortcut).2, hrejected,
    hstandard themeShortcut hrejected⟩

end Settings

end Enhance
