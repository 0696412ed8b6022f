import Stencil.Proofs.Delimiters
import Mathlib.Data.List.Chain

/-!
# What is left in chunks

Whatever the source is, the chunks that it is cut into are free of delimiters: closing ones are rewritten before the
source is cut, opening ones are what it is cut at (`Stencil.hasDelimiter_of_mem_chunks`). Single braces do remain, and
at the end of a chunk an opening one can remain only where nothing follows: in front of a delimiter it would have been
the first brace of that delimiter (`Stencil.getLast?_ne_of_mem_dropLast_chunks`).

Both are consequences of how the two passes find delimiters, from left to right. That characters are free of delimiters
is a property of neighbours (`Stencil.hasDelimiter_eq_false_iff`), so it is inherited by every stretch of them, the
names in tags among these.
-/

namespace Stencil

/-! ### Neighbours -/

/-- Whether two neighbours are no delimiter. -/
def NoDelimiter (c d : Char) : Prop := (c = '{' → d ≠ '{') ∧ (c = '}' → d ≠ '}')

/-- **Characters are free of delimiters if no two neighbours are one.** -/
theorem hasDelimiter_eq_false_iff {cs : List Char} : hasDelimiter cs = false ↔ cs.IsChain NoDelimiter := by
  induction cs with
  | nil => simp [hasDelimiter]
  | cons c cs ih =>
    rw [List.isChain_cons, ← ih]
    constructor
    · intro h
      refine ⟨fun d hd => ?_, hasDelimiter_tail h⟩
      obtain ⟨ds, rfl⟩ : ∃ ds, cs = d :: ds := List.head?_eq_some_iff.mp hd
      refine ⟨?_, ?_⟩
      · rintro rfl
        exact ne_of_hasDelimiter_opening h
      · rintro rfl
        exact ne_of_hasDelimiter_closing h
    · rintro ⟨hhead, htail⟩
      rw [hasDelimiter]
      · exact htail
      · rintro ds rfl rfl
        exact (hhead '{' rfl).1 rfl rfl
      · rintro ds rfl rfl
        exact (hhead '}' rfl).2 rfl rfl

/-- A stretch of characters without delimiters is free of them. -/
theorem hasDelimiter_of_isInfix {cs ds : List Char} (h : hasDelimiter ds = false) (hcs : cs <:+: ds) :
    hasDelimiter cs = false :=
  hasDelimiter_eq_false_iff.mpr ( List.IsChain.infix (hasDelimiter_eq_false_iff.mp h) hcs)

/-! ### The first pass -/

/-- A closing brace that the first pass leaves at the beginning was there before. -/
theorem head?_of_head?_unifyDelimiters {cs : List Char} (h : (unifyDelimiters cs).head? = some '}') :
    cs.head? = some '}' := by
  unfold unifyDelimiters at h
  split at h
  · cases h
  · cases h
  · exact h
  · cases h

/-- **The first pass leaves no two closing braces next to each other.** -/
theorem isChain_unifyDelimiters (cs : List Char) :
    (unifyDelimiters cs).IsChain fun c d => c = '}' → d ≠ '}' := by
  induction cs using unifyDelimiters.induct with
  | case1 cs ih => simpa [unifyDelimiters, List.isChain_cons] using ih
  | case2 cs hshort ih =>
    rw [unifyDelimiters]
    · simpa [List.isChain_cons] using ih
    · exact hshort
  | case3 c cs hlong hshort ih =>
    rw [unifyDelimiters, List.isChain_cons]
    · refine ⟨?_, ih⟩
      rintro d hd rfl rfl
      obtain ⟨ds, rfl⟩ := List.head?_eq_some_iff.mp (head?_of_head?_unifyDelimiters hd)
      exact hshort ds rfl rfl
    · exact hlong
    · exact hshort
  | case4 => exact List.isChain_nil

/-! ### The second pass -/

theorem cutAtOpening_ne_nil (cs : List Char) : cutAtOpening cs ≠ [] := by
  unfold cutAtOpening
  split
  · simp
  · split <;> simp
  · simp

/-- The first part begins as the text does, unless it is empty. -/
theorem head?_of_cutAtOpening {c : Char} {cs d : List Char} {ds : List (List Char)}
    (h : cutAtOpening cs = (c :: d) :: ds) : cs.head? = some c := by
  unfold cutAtOpening at h
  split at h
  · simp at h
  · split at h <;> simp_all
  · simp at h

/-- Where the first part is empty and another one follows, the text begins with a delimiter. -/
theorem head?_of_cutAtOpening_nil {cs : List Char} {d : List Char} {ds : List (List Char)}
    (h : cutAtOpening cs = [] :: d :: ds) : cs.head? = some '{' := by
  unfold cutAtOpening at h
  split at h
  · rfl
  · split at h <;> simp_all
  · simp at h

/-- **The parts are free of delimiters**, if the text had no closing ones. -/
theorem hasDelimiter_of_mem_cutAtOpening {cs : List Char} (h : cs.IsChain fun c d => c = '}' → d ≠ '}')
    {d : List Char} (hd : d ∈ cutAtOpening cs) : hasDelimiter d = false := by
  induction cs using cutAtOpening.induct generalizing d with
  | case1 cs ih =>
    rw [cutAtOpening] at hd
    rcases List.mem_cons.mp hd with rfl | hd
    · rfl
    · exact ih (h.suffix (List.suffix_append ['{', '{'] cs)) hd
  | case2 c cs _ hcs => exact absurd hcs (cutAtOpening_ne_nil cs)
  | case3 c cs hopening d' ds hcs ih =>
    obtain ⟨hhead, htail⟩ := List.isChain_cons.mp h
    rw [cutAtOpening, hcs] at hd
    · rcases List.mem_cons.mp hd with rfl | hd
      · -- The neighbour of the first character is the same in the part as in the text.
        rw [hasDelimiter_eq_false_iff, List.isChain_cons, ← hasDelimiter_eq_false_iff]
        refine ⟨fun e he => ?_, ih htail (by simp [hcs])⟩
        obtain ⟨es, rfl⟩ := List.head?_eq_some_iff.mp he
        have hnext : cs.head? = some e := head?_of_cutAtOpening hcs
        refine ⟨?_, hhead e hnext⟩
        rintro rfl rfl
        obtain ⟨fs, rfl⟩ := List.head?_eq_some_iff.mp hnext
        exact hopening fs rfl rfl
      · exact ih htail (by simp [hcs, hd])
    · exact hopening
  | case4 =>
    obtain rfl := List.mem_singleton.mp hd
    rfl

/-- **Only the last part can end in an opening brace.** -/
theorem getLast?_ne_of_mem_dropLast_cutAtOpening {cs d : List Char} (hd : d ∈ (cutAtOpening cs).dropLast) :
    d.getLast? ≠ some '{' := by
  induction cs using cutAtOpening.induct generalizing d with
  | case1 cs ih =>
    rw [cutAtOpening, List.dropLast_cons_of_ne_nil (cutAtOpening_ne_nil cs)] at hd
    rcases List.mem_cons.mp hd with rfl | hd
    · simp
    · exact ih hd
  | case2 c cs _ hcs => exact absurd hcs (cutAtOpening_ne_nil cs)
  | case3 c cs hopening d' ds hcs ih =>
    rw [cutAtOpening, hcs] at hd
    · cases ds with
      | nil => cases hd
      | cons e ds =>
        rw [hcs, List.dropLast_cons_cons] at ih
        rw [List.dropLast_cons_cons] at hd
        rcases List.mem_cons.mp hd with rfl | hd
        · cases d' with
          | nil =>
            -- The first character stands alone between the beginning and a delimiter.
            obtain ⟨fs, rfl⟩ := List.head?_eq_some_iff.mp (head?_of_cutAtOpening_nil hcs)
            intro hlast
            obtain rfl : c = '{' := by simpa using hlast
            exact hopening fs rfl rfl
          | cons f d' =>
            rw [List.getLast?_cons_cons]
            exact ih List.mem_cons_self
        · exact ih (List.mem_cons_of_mem _ hd)
    · exact hopening
  | case4 => cases hd

/-! ### Both passes -/

/-- **Chunks are free of delimiters.** -/
theorem hasDelimiter_of_mem_chunks {source d : List Char} (hd : d ∈ chunks source) : hasDelimiter d = false :=
  hasDelimiter_of_mem_cutAtOpening (isChain_unifyDelimiters source) hd

/-- **Only the last chunk can end in an opening brace.** -/
theorem getLast?_ne_of_mem_dropLast_chunks {source d : List Char} (hd : d ∈ (chunks source).dropLast) :
    d.getLast? ≠ some '{' :=
  getLast?_ne_of_mem_dropLast_cutAtOpening hd

end Stencil
