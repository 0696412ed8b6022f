import Stencil.Layering

/-!
# Text as a key

Text is the same key as equal text, and as nothing else. So what a table holds under a name can be told from its
entries alone: putting a value under a key changes what is found under that key and under no other, and putting entries
with distinct keys over others finds them first and then the others (`Stencil.Graph.find?_putAll`).

Filling a table with one value after the other keeps its keys distinct (`Stencil.Graph.distinct_putAll`).
-/

namespace Stencil

/-! ### Being the same key -/

theorem Value.sameScalar_text (v : Value) (s : String) : v.sameScalar (.text s) = true ↔ v = .text s := by
  cases v with
  | text t => simp [sameScalar, quotient?, infinite?]
  | float x => cases x <;> simp [sameScalar, quotient?, infinite?]
  | decimal d => cases d <;> simp [sameScalar, quotient?, infinite?]
  | _ => simp [sameScalar, quotient?, infinite?]

theorem Value.text_sameScalar (s : String) (v : Value) : sameScalar (.text s) v = true ↔ v = .text s := by
  cases v with
  | text t =>
    simp only [sameScalar, quotient?, infinite?, beq_iff_eq]
    exact eq_comm
  | float x => cases x <;> simp [sameScalar, quotient?, infinite?]
  | decimal d => cases d <;> simp [sameScalar, quotient?, infinite?]
  | _ => simp [sameScalar, quotient?, infinite?]

namespace Graph

variable {g : Graph}

/-- Nothing is the same key as a text but that text. -/
theorem sameKey_text (g : Graph) (v : Value) (s : String) : g.sameKey v (.text s) = true ↔ v = .text s := by
  have hscalar : g.sameKey v (.text s) = v.sameScalar (.text s) := by cases v <;> rfl
  rw [hscalar, Value.sameScalar_text]

theorem text_sameKey (g : Graph) (s : String) (v : Value) : g.sameKey (.text s) v = true ↔ v = .text s := by
  have hscalar : g.sameKey (.text s) v = Value.sameScalar (.text s) v := by cases v <;> rfl
  rw [hscalar, Value.text_sameScalar]

/-! ### Finding what was put -/

theorem find?_text_cons (g : Graph) (s : String) (k v : Value) (es : Entries) :
    g.find? (.text s) ((k, v) :: es) = if k = .text s then some v else g.find? (.text s) es := by
  rw [find?]
  simp only [sameKey_text]

/-- Putting a value under a key changes what is found under that key alone. -/
theorem find?_put (g : Graph) (s : String) (es : Entries) (k v : Value) :
    g.find? (.text s) (g.put es k v) = if k = .text s then some v else g.find? (.text s) es := by
  induction es with
  | nil => exact find?_text_cons g s k v []
  | cons e es ih =>
    obtain ⟨k', v'⟩ := e
    rw [put]
    split
    · next hsame =>
      -- The key that is there is the same as the new one, so it is the text if the new one is.
      have hiff : k' = .text s ↔ k = .text s := by
        constructor
        · rintro rfl
          exact (g.text_sameKey s k).mp hsame
        · rintro rfl
          exact (g.sameKey_text k' s).mp hsame
      rw [find?_text_cons, find?_text_cons]
      simp only [hiff]
      split <;> rfl
    · next hother =>
      rw [find?_text_cons, find?_text_cons, ih]
      by_cases hk' : k' = .text s
      · have hk : k ≠ .text s := by
          rintro rfl
          exact hother ((g.sameKey_text k' s).mpr hk')
        rw [if_pos hk', if_neg hk, if_pos hk']
      · rw [if_neg hk', if_neg hk']

theorem putAll_cons (g : Graph) (es : Entries) (e : Value × Value) (more : Entries) :
    g.putAll es (e :: more) = g.putAll (g.put es e.1 e.2) more := rfl

/-- What entries have under a name that only the first of them can have. -/
theorem Distinct.find?_eq_none {k v : Value} {es : Entries} {s : String} (h : g.Distinct ((k, v) :: es))
    (hk : k = .text s) : g.find? (.text s) es = none := by
  subst hk
  have hother : ∀ e ∈ es, g.sameKey (.text s) e.1 = false := (List.pairwise_cons.mp h).1
  clear h
  induction es with
  | nil => rfl
  | cons e es ih =>
    have hne : e.1 ≠ .text s := by
      intro he
      have hsame := (g.text_sameKey s e.1).mpr he
      rw [hother e List.mem_cons_self] at hsame
      cases hsame
    rw [find?_text_cons, if_neg hne, ih fun e' he' => hother e' (List.mem_cons_of_mem _ he')]

/-- **Entries with distinct keys that are put over others are found first, and then the others.** -/
theorem find?_putAll (s : String) (es : Entries) {more : Entries} (h : g.Distinct more) :
    g.find? (.text s) (g.putAll es more) = (g.find? (.text s) more).or (g.find? (.text s) es) := by
  induction more generalizing es with
  | nil => rfl
  | cons e more ih =>
    obtain ⟨k, v⟩ := e
    rw [putAll_cons, ih _ (List.pairwise_cons.mp h).2, find?_put, find?_text_cons]
    by_cases hk : k = .text s
    · rw [if_pos hk, if_pos hk, h.find?_eq_none hk]
      rfl
    · rw [if_neg hk, if_neg hk]

theorem isSome_find?_putAll (s : String) (es more : Entries) :
    (g.find? (.text s) (g.putAll es more)).isSome =
      ((g.find? (.text s) more).isSome || (g.find? (.text s) es).isSome) := by
  induction more generalizing es with
  | nil => rfl
  | cons e more ih =>
    rw [putAll_cons, ih, find?_put, find?_text_cons]
    split
    · rw [Option.isSome_some, Bool.or_true, Bool.true_or]
    · rfl

/-- Under a name there is the value of the entry that has the name as its key. -/
theorem Distinct.find?_of_mem {es : Entries} (h : g.Distinct es) {s : String} {v : Value} (hv : (.text s, v) ∈ es) :
    g.find? (.text s) es = some v := by
  induction es with
  | nil => cases hv
  | cons e es ih =>
    obtain ⟨k, w⟩ := e
    rw [find?_text_cons]
    rcases List.mem_cons.mp hv with hhead | htail
    · obtain ⟨rfl, rfl⟩ := Prod.mk.inj hhead
      rw [if_pos rfl]
    · have hfound := ih (List.pairwise_cons.mp h).2 htail
      have hk : k ≠ .text s := by
        intro hk
        rw [h.find?_eq_none hk] at hfound
        cases hfound
      rw [if_neg hk, hfound]

/-- A name is a key of entries if something is found under it. -/
theorem text_mem_keys_iff (g : Graph) (s : String) (es : Entries) :
    .text s ∈ es.map Prod.fst ↔ (g.find? (.text s) es).isSome := by
  induction es with
  | nil => exact ⟨nofun, nofun⟩
  | cons e es ih =>
    rw [List.map_cons, List.mem_cons, find?_text_cons, ih]
    by_cases hk : e.1 = .text s
    · rw [if_pos hk]
      exact ⟨fun _ => rfl, fun _ => .inl hk.symm⟩
    · rw [if_neg hk]
      exact ⟨fun h => h.resolve_left fun hs => hk hs.symm, .inr⟩

/-- Keys with their values, found one by one. -/
theorem find?_map_keys (g : Graph) (s : String) (ks : List Value) (f : Value → Value) :
    g.find? (.text s) (ks.map fun k => (k, f k)) = if .text s ∈ ks then some (f (.text s)) else none := by
  induction ks with
  | nil => rfl
  | cons k ks ih =>
    rw [List.map_cons, find?_text_cons, ih]
    by_cases hk : k = .text s
    · subst hk
      rw [if_pos rfl, if_pos List.mem_cons_self]
    · have hmem : (.text s ∈ k :: ks) ↔ .text s ∈ ks := by
        rw [List.mem_cons]
        exact ⟨fun h => h.resolve_left fun hs => hk hs.symm, .inr⟩
      rw [if_neg hk]
      simp only [hmem]

/-! ### Keys stay distinct -/

theorem mem_keys_put {es : Entries} {k v x : Value} (h : x ∈ (g.put es k v).map Prod.fst) :
    x ∈ es.map Prod.fst ∨ x = k := by
  induction es with
  | nil => exact .inr (List.mem_singleton.mp h)
  | cons e es ih =>
    obtain ⟨k', v'⟩ := e
    rw [put] at h
    split at h
    · exact .inl h
    · rcases List.mem_cons.mp h with hhead | htail
      · exact .inl (List.mem_cons.mpr (.inl hhead))
      · exact (ih htail).imp_left (List.mem_cons_of_mem _)

theorem distinct_put {es : Entries} (h : g.Distinct es) (k v : Value) : g.Distinct (g.put es k v) := by
  induction es with
  | nil => exact List.pairwise_singleton _ _
  | cons e es ih =>
    obtain ⟨k', v'⟩ := e
    obtain ⟨hother, hrest⟩ := List.pairwise_cons.mp h
    rw [put]
    split
    · exact List.pairwise_cons.mpr ⟨hother, hrest⟩
    · next hdifferent =>
      refine List.pairwise_cons.mpr ⟨fun e he => ?_, ih hrest⟩
      rcases mem_keys_put (List.mem_map_of_mem he) with hold | hnew
      · obtain ⟨e', he', hkey⟩ := List.mem_map.mp hold
        rw [← hkey]
        exact hother e' he'
      · rw [hnew]
        exact Bool.eq_false_iff.mpr hdifferent

theorem distinct_putAll {es : Entries} (h : g.Distinct es) (more : Entries) : g.Distinct (g.putAll es more) := by
  induction more generalizing es with
  | nil => exact h
  | cons e more ih => exact ih (distinct_put h e.1 e.2)

/-- Whether keys are distinct does not depend on the values. -/
theorem distinct_of_keys_eq {es es' : Entries} (h : g.Distinct es) (hkeys : es'.map Prod.fst = es.map Prod.fst) :
    g.Distinct es' := by
  have hes : (es'.map Prod.fst).Pairwise fun k k' => g.sameKey k k' = false := by
    rw [hkeys]
    exact List.pairwise_map.mpr h
  exact List.pairwise_map.mp hes

end Graph

end Stencil
