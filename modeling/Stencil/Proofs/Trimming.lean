import Stencil.Text.Blank
import Stencil.Template.Source

/-!
# Trimmed names

The name in a tag is what is left of the tag's text when the blanks at its two ends are taken away. A text
is its own trimmed form exactly when neither end changes it (`Stencil.Text.trim_eq_self_iff`), and then any
blanks around it are taken away again (`Stencil.Text.trim_append`). So the blanks that a template has in its
tags say nothing about the names.
-/

namespace Stencil

namespace Text

/-! ### The left end -/

theorem trimLeft_cons_of_isBlank {c : Char} {cs : List Char} (h : isBlank c = true) :
    trimLeft (c :: cs) = trimLeft cs := by
  simp [trimLeft, h]

/-- Blanks on the left are taken away, whatever follows. -/
theorem trimLeft_append {before : List Char} (h : ∀ c ∈ before, isBlank c = true) (cs : List Char) :
    trimLeft (before ++ cs) = trimLeft cs := by
  induction before with
  | nil => rfl
  | cons c before ih =>
    rw [List.cons_append, trimLeft_cons_of_isBlank (h c (by simp))]
    exact ih fun d hd => h d (List.mem_cons_of_mem c hd)

/-! ### The right end -/

theorem trimRight_of_isBlank {after : List Char} (h : ∀ c ∈ after, isBlank c = true) :
    trimRight after = [] := by
  induction after with
  | nil => rfl
  | cons c after ih =>
    have hafter : trimRight after = [] := ih fun d hd => h d (List.mem_cons_of_mem c hd)
    rw [trimRight, hafter]
    simp [h c (by simp)]

/-- Blanks on the right are taken away, whatever comes before them. -/
theorem trimRight_append {after : List Char} (h : ∀ c ∈ after, isBlank c = true) (cs : List Char) :
    trimRight (cs ++ after) = trimRight cs := by
  induction cs with
  | nil => exact trimRight_of_isBlank h
  | cons c cs ih => rw [List.cons_append, trimRight, trimRight, ih]

/-- What is left at the right end is the beginning of the text. -/
theorem trimRight_isPrefix (cs : List Char) : trimRight cs <+: cs := by
  induction cs with
  | nil => exact List.prefix_rfl
  | cons c cs ih =>
    rw [trimRight]
    split
    · split
      · exact List.nil_prefix
      · exact (List.prefix_cons_inj c).mpr List.nil_prefix
    · next d ds hcs =>
      rw [hcs] at ih
      exact (List.prefix_cons_inj c).mpr ih

/-! ### Both ends -/

theorem length_trimRight_le (cs : List Char) : (trimRight cs).length ≤ cs.length := by
  induction cs with
  | nil => exact Nat.le_refl 0
  | cons c cs ih =>
    rw [trimRight]
    cases htrim : trimRight cs with
    | nil => cases hc : isBlank c <;> simp
    | cons d ds =>
      rw [htrim] at ih
      simpa using ih

theorem length_trimLeft_le (cs : List Char) : (trimLeft cs).length ≤ cs.length :=
  (List.dropWhile_suffix isBlank).length_le

/-- What is its own trimmed form is unchanged at either end. -/
theorem trim_eq_self_iff {cs : List Char} :
    trim cs = cs ↔ trimLeft cs = cs ∧ trimRight cs = cs := by
  constructor
  · intro h
    have hlen : (trimLeft cs).length = cs.length := by
      have hright := length_trimRight_le (trimLeft cs)
      have hleft := length_trimLeft_le cs
      have hboth : (trimRight (trimLeft cs)).length = cs.length := congrArg List.length h
      omega
    have hleft : trimLeft cs = cs := (List.dropWhile_suffix isBlank).eq_of_length hlen
    refine ⟨hleft, ?_⟩
    rw [trim, hleft] at h
    exact h
  · rintro ⟨hleft, hright⟩
    rw [trim, hleft, hright]

/-- **Trimming undoes padding**: blanks around a trimmed text are taken away again. -/
theorem trim_append {before cs after : List Char} (hb : ∀ c ∈ before, isBlank c = true)
    (ha : ∀ c ∈ after, isBlank c = true) (hcs : trim cs = cs) :
    trim (before ++ cs ++ after) = cs := by
  obtain ⟨hleft, hright⟩ := trim_eq_self_iff.mp hcs
  rw [trim, List.append_assoc, trimLeft_append hb]
  cases cs with
  | nil =>
    -- only blanks are left, and the left end takes them all
    rw [List.nil_append, ← List.append_nil after, trimLeft_append ha]
    rfl
  | cons c cs =>
    have hc : isBlank c = false := trimLeft_eq_self_iff.mp hleft c rfl
    have hstay : trimLeft (c :: cs ++ after) = c :: cs ++ after := by
      rw [trimLeft_eq_self_iff]
      intro d hd
      obtain rfl : c = d := by simpa using hd
      exact hc
    rw [hstay, trimRight_append ha, hright]

/-- A trimmed text is a stretch of the text. -/
theorem trim_isInfix (cs : List Char) : trim cs <:+: cs :=
  (trimRight_isPrefix _).isInfix.trans (List.dropWhile_suffix isBlank).isInfix

/-- **Trimming twice changes nothing.** -/
theorem trim_trim (cs : List Char) : trim (trim cs) = trim cs := by
  refine trim_eq_self_iff.mpr ⟨trimLeft_eq_self_iff.mpr fun c hc => ?_, trimRight_trimRight _⟩
  -- What the right end leaves begins as the text that the left end has left.
  obtain ⟨rest, hrest⟩ := trimRight_isPrefix (trimLeft cs)
  have hhead : (cs.dropWhile isBlank).head? = some c := by
    rw [← trimLeft, ← hrest, List.head?_append, ← trim, hc]
    rfl
  have hblank := List.head?_dropWhile_not isBlank cs
  rwa [hhead] at hblank

end Text

/-- The name in a tag with blanks around it. -/
theorem Piece.nameOf_append {before after : List Char} {n : String}
    (hb : ∀ c ∈ before, Text.isBlank c = true) (ha : ∀ c ∈ after, Text.isBlank c = true)
    (hn : Text.trim n.toList = n.toList) : Piece.nameOf (before ++ n.toList ++ after) = n := by
  rw [Piece.nameOf, Text.trim_append hb ha hn, String.ofList_toList]

end Stencil
