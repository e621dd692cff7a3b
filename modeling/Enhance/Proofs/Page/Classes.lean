/-
  Enhance/Proofs/Page/Classes.lean
  ================================
  **Adding and removing one class changes that class only.**

  Classes are written as one attribute and read back by cutting it at blanks,
  so a class survives being written exactly if it is a token: not empty and
  without a blank of ASCII.
-/
import Enhance.Page.Node

namespace Enhance

/-! ### Cutting what was joined -/

namespace Text

theorem not_separator_of_mem_pieces {sep : Char → Bool} {l : List Char} :
    ∀ w ∈ pieces sep l, ∀ c ∈ w, sep c = false := by
  induction l with
  | nil => simp [pieces]
  | cons c rest ih =>
    intro w hw x hx
    by_cases hc : sep c = true
    · rw [pieces, if_pos hc] at hw
      rcases List.mem_cons.mp hw with rfl | hw
      · cases hx
      · exact ih w hw x hx
    · rw [pieces, if_neg hc] at hw
      cases hp : pieces sep rest with
      | nil =>
        rw [hp] at hw
        obtain rfl : w = [c] := by simpa using hw
        obtain rfl : x = c := by simpa using hx
        exact Bool.eq_false_iff.mpr hc
      | cons v vs =>
        rw [hp] at hw ih
        rcases List.mem_cons.mp hw with rfl | hw
        · rcases List.mem_cons.mp hx with rfl | hx
          · exact Bool.eq_false_iff.mpr hc
          · exact ih v (by simp) x hx
        · exact ih w (by simp [hw]) x hx

theorem pieces_intercalate {sep : Char → Bool} {c : Char} (hc : sep c = true)
    {l : List (List Char)} (hl : l ≠ []) (h : ∀ w ∈ l, ∀ x ∈ w, sep x = false) :
    pieces sep ([c].intercalate l) = l := by
  induction l with
  | nil => exact absurd rfl hl
  | cons w rest ih =>
    have hw : ∀ x ∈ w, sep x = false := h w (by simp)
    cases rest with
    | nil =>
      rw [List.intercalate_singleton]
      exact pieces_of_no_separator hw
    | cons v vs =>
      have hcut : [c].intercalate (w :: v :: vs) = w ++ c :: [c].intercalate (v :: vs) := by
        simp [List.intercalate]
      rw [hcut, pieces_append_separator _ hw hc, ih (by simp) fun u hu => h u (by simp [hu])]

end Text

/-! ### Classes of a node -/

namespace Node

variable {n m : Node} {c d : String}

/-- A name that can be a class. -/
def IsToken (c : String) : Prop := c ≠ "" ∧ ∀ x ∈ c.toList, Text.isAsciiBlank x = false

theorem isToken_of_any (hne : c ≠ "") (hblank : c.toList.any Text.isAsciiBlank = false) :
    IsToken c :=
  ⟨hne, fun x hx => Bool.eq_false_iff.mpr (List.any_eq_false.mp hblank x hx)⟩

theorem mem_classes :
    d ∈ n.classes ↔ d ≠ "" ∧
      d.toList ∈ Text.pieces Text.isAsciiBlank ((n.attributes.get? "class").getD "").toList := by
  unfold classes
  rw [List.mem_eraseDups, List.mem_map]
  constructor
  · rintro ⟨w, hw, rfl⟩
    obtain ⟨hmem, hne⟩ := List.mem_filter.mp hw
    have hne : w ≠ [] := by simpa using hne
    rw [String.toList_ofList]
    exact ⟨fun h => hne (by simpa using congrArg String.toList h), hmem⟩
  · rintro ⟨hne, hmem⟩
    have hne : d.toList ≠ [] := fun h => hne (by simpa using congrArg String.ofList h)
    exact ⟨d.toList, List.mem_filter.mpr ⟨hmem, by simpa using hne⟩, String.ofList_toList⟩

theorem isToken_of_mem_classes (h : d ∈ n.classes) : IsToken d := by
  obtain ⟨hne, hmem⟩ := mem_classes.mp h
  exact ⟨hne, Text.not_separator_of_mem_pieces _ hmem⟩

theorem hasClass_iff : n.hasClass d = true ↔ d ∈ n.classes := by
  rw [hasClass, List.contains_iff_mem]

theorem classes_congr (h : n.attributes.get? "class" = m.attributes.get? "class") :
    n.classes = m.classes := by
  unfold classes
  rw [h]

theorem hasClass_congr (h : n.attributes.get? "class" = m.attributes.get? "class") :
    n.hasClass d = m.hasClass d := by
  rw [hasClass, hasClass, classes_congr h]

/-- Tokens that are written as the classes are the classes. -/
theorem mem_classes_setClasses {l : List String} (hl : ∀ c ∈ l, IsToken c) :
    d ∈ (n.setClasses l).classes ↔ d ∈ l := by
  unfold setClasses
  by_cases hnone : (l.isEmpty && !n.attributes.contains "class") = true
  · -- there is nothing to write: the node has no classes, and gets none
    rw [if_pos hnone]
    obtain ⟨hempty, hclass⟩ : l = [] ∧ n.attributes.get? "class" = none := by
      simpa [Table.contains] using hnone
    rw [mem_classes, hclass, hempty]
    simp [Text.pieces]
  · rw [if_neg hnone, mem_classes]
    have hget : (n.setAttribute "class" (" ".intercalate l)).attributes.get? "class" =
        some (" ".intercalate l) := Table.get?_insert_self _ _ _
    have hspace : Text.isAsciiBlank ' ' = true := by decide
    rw [hget, Option.getD_some, String.toList_intercalate]
    by_cases hempty : l = []
    · subst hempty
      simp [Text.pieces]
    · have hpieces : Text.pieces Text.isAsciiBlank (" ".toList.intercalate (l.map String.toList)) =
          l.map String.toList := by
        refine Text.pieces_intercalate hspace (by simpa using hempty) ?_
        intro w hw
        obtain ⟨c, hc, rfl⟩ := List.mem_map.mp hw
        exact (hl c hc).2
      rw [hpieces]
      constructor
      · rintro ⟨-, hmem⟩
        obtain ⟨c, hc, hcd⟩ := List.mem_map.mp hmem
        rwa [← String.toList_inj.mp hcd]
      · intro hd
        exact ⟨(hl d hd).1, List.mem_map.mpr ⟨d, hd, rfl⟩⟩

/-- Adding or removing a class changes that class only. -/
theorem hasClass_putClass (hc : IsToken c) (present : Bool) :
    (n.putClass c present).hasClass d = if d = c then present else n.hasClass d := by
  rw [Bool.eq_iff_iff, hasClass_iff]
  cases present with
  | true =>
    rw [putClass, if_pos rfl, addClass, mem_classes_setClasses]
    · by_cases hd : d = c
      · subst hd
        by_cases hmem : n.hasClass d = true
        · simpa [hmem] using hasClass_iff.mp hmem
        · simp [hmem]
      · by_cases hmem : n.hasClass c = true
        · simp [hmem, hd, hasClass_iff]
        · simp [hmem, hd, hasClass_iff]
    · intro e he
      by_cases hmem : n.hasClass c = true
      · rw [if_pos hmem] at he
        exact isToken_of_mem_classes he
      · rw [if_neg hmem, List.mem_append, List.mem_singleton] at he
        rcases he with he | rfl
        · exact isToken_of_mem_classes he
        · exact hc
  | false =>
    rw [putClass, if_neg (by simp), removeClass, mem_classes_setClasses]
    · by_cases hd : d = c
      · simp [hd]
      · simp [hd, hasClass_iff]
    · intro e he
      exact isToken_of_mem_classes (List.mem_filter.mp he).1

/-! ### What leaves the classes and the other attributes alone -/

theorem get?_setClasses_of_ne {l : List String} {name : String} (h : name ≠ "class") :
    (n.setClasses l).attributes.get? name = n.attributes.get? name := by
  unfold setClasses
  split
  · rfl
  · exact Table.get?_insert_of_ne _ h _

theorem get?_putClass_of_ne {present : Bool} {name : String} (h : name ≠ "class") :
    (n.putClass c present).attributes.get? name = n.attributes.get? name := by
  cases present with
  | true => exact get?_setClasses_of_ne h
  | false => exact get?_setClasses_of_ne h

theorem get?_setAttribute (n : Node) (name value other : String) :
    (n.setAttribute name value).attributes.get? other =
      if other = name then some value else n.attributes.get? other := by
  by_cases h : other = name
  · subst h
    rw [if_pos rfl]
    exact Table.get?_insert_self _ _ _
  · rw [if_neg h]
    exact Table.get?_insert_of_ne _ h _

@[simp] theorem attached_setClasses {l : List String} : (n.setClasses l).attached = n.attached := by
  unfold setClasses
  split <;> rfl

@[simp] theorem markup_setClasses {l : List String} : (n.setClasses l).markup = n.markup := by
  unfold setClasses
  split <;> rfl

@[simp] theorem attached_putClass {present : Bool} :
    (n.putClass c present).attached = n.attached := by
  cases present with
  | true => exact attached_setClasses
  | false => exact attached_setClasses

@[simp] theorem markup_putClass {present : Bool} : (n.putClass c present).markup = n.markup := by
  cases present with
  | true => exact markup_setClasses
  | false => exact markup_setClasses

/-- Adding or removing a class writes one attribute, or nothing. -/
theorem putClass_eq_or (n : Node) (c : String) (present : Bool) :
    n.putClass c present = n ∨ ∃ value, n.putClass c present = n.setAttribute "class" value := by
  have hset : ∀ l, n.setClasses l = n ∨ ∃ value, n.setClasses l = n.setAttribute "class" value := by
    intro l
    unfold setClasses
    split
    · exact .inl rfl
    · exact .inr ⟨_, rfl⟩
  cases present with
  | true => exact hset _
  | false => exact hset _

@[simp] theorem isHtml_putClass {present : Bool} : (n.putClass c present).isHtml = n.isHtml := by
  rcases n.putClass_eq_or c present with hsame | ⟨value, hset⟩
  · rw [hsame]
  · rw [hset]
    rfl

@[simp] theorem text_putClass {present : Bool} : (n.putClass c present).text = n.text := by
  rcases n.putClass_eq_or c present with hsame | ⟨value, hset⟩
  · rw [hsame]
  · rw [hset]
    rfl

@[simp] theorem style_putClass {present : Bool} : (n.putClass c present).style = n.style := by
  rcases n.putClass_eq_or c present with hsame | ⟨value, hset⟩
  · rw [hsame]
  · rw [hset]
    rfl

end Node

end Enhance
