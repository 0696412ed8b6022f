import Mathlib.Data.List.Induction
import Stencil.Log.Envelope

/-!
# Attributes that are set more than once

Attributes that are set one after the other stand in the order in which they were first set
(`Stencil.Record.map_fst_setAll_nil`), each with the value that it was given last (`Stencil.Record.lookup_setAll_nil`).
So it does not matter whether attributes are set as they come or after they have been settled among themselves
(`Stencil.Record.setAll_setAll_nil`), nor whether some of the names are left out before or after that
(`Stencil.Record.filter_setAll`). That is how the attributes of a line come about (`Stencil.JsonLayout.attributes_eq`).
-/

namespace Stencil

namespace Record

variable {attributes more : List (String × Value)} {name other : String} {v w : Value}

/-! ### One attribute -/

theorem setAttribute_cons_self : setAttribute ((name, w) :: attributes) name v = (name, v) :: attributes := by
  rw [setAttribute, if_pos rfl]

theorem setAttribute_cons_of_ne (h : other ≠ name) :
    setAttribute ((other, w) :: attributes) name v = (other, w) :: setAttribute attributes name v := by
  rw [setAttribute, if_neg h]

theorem lookup_cons_eq_ite :
    List.lookup name ((other, w) :: attributes) = if name = other then some w else attributes.lookup name := by
  rw [List.lookup_cons]
  by_cases h : name = other
  · rw [if_pos h, beq_iff_eq.mpr h]
  · rw [if_neg h, beq_eq_false_iff_ne.mpr h]

theorem lookup_of_mem {attributes : List (String × Value)} (hnodup : (attributes.map Prod.fst).Nodup)
    {a : String × Value} (ha : a ∈ attributes) : attributes.lookup a.1 = some a.2 := by
  induction attributes with
  | nil => exact nomatch ha
  | cons b rest ih =>
    obtain ⟨hb, hrest⟩ := List.nodup_cons.mp hnodup
    rw [lookup_cons_eq_ite]
    rcases List.mem_cons.mp ha with rfl | ha
    · rw [if_pos rfl]
    · have hne : a.1 ≠ b.1 := fun h => hb (h ▸ List.mem_map_of_mem ha)
      rw [if_neg hne, ih hrest ha]

theorem mem_of_lookup {attributes : List (String × Value)} {name : String} {v : Value}
    (h : attributes.lookup name = some v) : (name, v) ∈ attributes := by
  obtain ⟨front, rest, rfl, -⟩ := List.lookup_eq_some_iff.mp h
  exact List.mem_append_right _ List.mem_cons_self

theorem lookup_setAttribute :
    (setAttribute attributes name v).lookup other = if other = name then some v else attributes.lookup other := by
  induction attributes with
  | nil => exact lookup_cons_eq_ite
  | cons a rest ih =>
    obtain ⟨n, u⟩ := a
    by_cases hn : n = name
    · subst hn
      rw [setAttribute_cons_self, lookup_cons_eq_ite, lookup_cons_eq_ite]
      split <;> rfl
    · rw [setAttribute_cons_of_ne hn, lookup_cons_eq_ite, lookup_cons_eq_ite, ih]
      by_cases hother : other = n
      · have hne : other ≠ name := hother ▸ hn
        rw [if_pos hother, if_neg hne, if_pos hother]
      · rw [if_neg hother, if_neg hother]

/-- An attribute that is not set yet goes to the end. -/
theorem map_fst_setAttribute :
    (setAttribute attributes name v).map Prod.fst =
      if name ∈ attributes.map Prod.fst then attributes.map Prod.fst else attributes.map Prod.fst ++ [name] := by
  induction attributes with
  | nil => rfl
  | cons a rest ih =>
    obtain ⟨n, u⟩ := a
    by_cases hn : n = name
    · subst hn
      have hmem : n ∈ ((n, u) :: rest).map Prod.fst := List.mem_cons_self
      rw [setAttribute_cons_self, if_pos hmem]
      rfl
    · have hmem : name ∈ (((n, u) :: rest).map Prod.fst) ↔ name ∈ rest.map Prod.fst :=
        List.mem_cons.trans (or_iff_right (Ne.symm hn))
      rw [setAttribute_cons_of_ne hn, List.map_cons, ih]
      simp only [hmem]
      split <;> rfl

/-- The value that is set last stays. -/
theorem setAttribute_setAttribute :
    setAttribute (setAttribute attributes name w) name v = setAttribute attributes name v := by
  induction attributes with
  | nil => exact setAttribute_cons_self
  | cons a rest ih =>
    obtain ⟨n, u⟩ := a
    by_cases hn : n = name
    · subst hn
      rw [setAttribute_cons_self, setAttribute_cons_self, setAttribute_cons_self]
    · rw [setAttribute_cons_of_ne hn, setAttribute_cons_of_ne hn, setAttribute_cons_of_ne hn, ih]

/-- An attribute that has its place does not lose it to others. -/
theorem setAttribute_comm (hne : other ≠ name) (hname : name ∈ attributes.map Prod.fst) :
    setAttribute (setAttribute attributes other w) name v = setAttribute (setAttribute attributes name v) other w := by
  induction attributes with
  | nil => exact nomatch hname
  | cons a rest ih =>
    obtain ⟨n, u⟩ := a
    by_cases hn : n = name
    · subst hn
      rw [setAttribute_cons_of_ne hne.symm, setAttribute_cons_self, setAttribute_cons_self,
        setAttribute_cons_of_ne hne.symm]
    · rw [setAttribute_cons_of_ne hn]
      by_cases hother : n = other
      · subst hother
        rw [setAttribute_cons_self, setAttribute_cons_of_ne hn, setAttribute_cons_self]
      · have hrest : name ∈ rest.map Prod.fst := (List.mem_cons.mp hname).resolve_left (Ne.symm hn)
        rw [setAttribute_cons_of_ne hother, setAttribute_cons_of_ne hn, setAttribute_cons_of_ne hother, ih hrest]

theorem filter_setAttribute (p : String → Bool) :
    (setAttribute attributes name v).filter (fun a => p a.1) =
      if p name then setAttribute (attributes.filter fun a => p a.1) name v
      else attributes.filter fun a => p a.1 := by
  induction attributes with
  | nil =>
    rw [setAttribute, List.filter_cons]
    rfl
  | cons a rest ih =>
    obtain ⟨n, u⟩ := a
    by_cases hn : n = name
    · subst hn
      rw [setAttribute_cons_self, List.filter_cons, List.filter_cons]
      split
      · rw [setAttribute_cons_self]
      · rfl
    · rw [setAttribute_cons_of_ne hn, List.filter_cons, List.filter_cons, ih]
      by_cases hp : p n = true
      · simp only [hp, if_true]
        split
        · rw [setAttribute_cons_of_ne hn]
        · rfl
      · simp only [hp, Bool.false_eq_true, if_false]

/-! ### One attribute after the other -/

theorem setAll_cons (a : String × Value) :
    setAll attributes (a :: more) = setAll (setAttribute attributes a.1 a.2) more :=
  rfl

theorem setAll_append (later : List (String × Value)) :
    setAll attributes (more ++ later) = setAll (setAll attributes more) later :=
  List.foldl_append

theorem setAll_concat (a : String × Value) :
    setAll attributes (more ++ [a]) = setAttribute (setAll attributes more) a.1 a.2 :=
  setAll_append [a]

/-- **The value that an attribute was given last counts.** -/
theorem lookup_setAll_nil (name : String) : (setAll [] more).lookup name = lastSet? more name := by
  induction more using List.reverseRecOn with
  | nil => rfl
  | append_singleton more a ih =>
    rw [setAll_concat, lookup_setAttribute, lastSet?, List.reverse_concat, lookup_cons_eq_ite, ih]
    rfl

/-- **Attributes stand in the order in which they were first set.** -/
theorem map_fst_setAll_nil : (setAll [] more).map Prod.fst = (more.map Prod.fst).eraseDups := by
  induction more using List.reverseRecOn with
  | nil => rfl
  | append_singleton more a ih =>
    rw [setAll_concat, map_fst_setAttribute, ih, List.map_append, List.eraseDups_append, List.map_singleton,
      List.cons_removeAll]
    by_cases hmem : a.1 ∈ more.map Prod.fst
    · have hcontains : (more.map Prod.fst).contains a.1 = true := List.contains_iff_mem.mpr hmem
      rw [if_pos (List.mem_eraseDups.mpr hmem), hcontains]
      exact (List.append_nil _).symm
    · have hcontains : (more.map Prod.fst).contains a.1 = false :=
        Bool.eq_false_iff.mpr (mt List.contains_iff_mem.mp hmem)
      rw [if_neg (mt List.mem_eraseDups.mp hmem), hcontains]
      rfl

theorem nodup_map_fst_setAll_nil : ((setAll [] more).map Prod.fst).Nodup := by
  induction more using List.reverseRecOn with
  | nil => exact List.nodup_nil
  | append_singleton more a ih =>
    rw [setAll_concat, map_fst_setAttribute]
    split
    · exact ih
    · next hmem =>
      refine List.nodup_append.mpr ⟨ih, List.pairwise_singleton _ _, ?_⟩
      rintro n hn m hm rfl
      exact hmem (List.mem_singleton.mp hm ▸ hn)

theorem filter_setAll (p : String → Bool) :
    (setAll attributes more).filter (fun a => p a.1) =
      setAll (attributes.filter fun a => p a.1) (more.filter fun a => p a.1) := by
  induction more generalizing attributes with
  | nil => rfl
  | cons a more ih =>
    rw [setAll_cons, ih, filter_setAttribute, List.filter_cons]
    split
    · rw [setAll_cons]
    · rfl

/-- An attribute that is set before others have been set comes to the same as one set afterwards, if they leave it
alone and it has a place already. -/
theorem setAttribute_setAll (hname : name ∈ attributes.map Prod.fst) (hmore : name ∉ more.map Prod.fst) :
    setAttribute (setAll attributes more) name v = setAll (setAttribute attributes name v) more := by
  induction more generalizing attributes with
  | nil => rfl
  | cons a more ih =>
    obtain ⟨hne, hmore⟩ := not_or.mp (mt List.mem_cons.mpr hmore)
    have hkept : name ∈ (setAttribute attributes a.1 a.2).map Prod.fst := by
      rw [map_fst_setAttribute]
      split
      · exact hname
      · exact List.mem_append_left _ hname
    rw [setAll_cons, setAll_cons, ih hkept hmore, setAttribute_comm (Ne.symm hne) hname]

/-- Setting an attribute among those to be set, or after them. -/
theorem setAll_setAttribute (hnodup : (more.map Prod.fst).Nodup) :
    setAll attributes (setAttribute more name v) = setAttribute (setAll attributes more) name v := by
  induction more generalizing attributes with
  | nil => rfl
  | cons a more ih =>
    obtain ⟨n, u⟩ := a
    obtain ⟨hn, hnodup⟩ := List.nodup_cons.mp hnodup
    by_cases heq : n = name
    · subst heq
      have hplace : n ∈ (setAttribute attributes n u).map Prod.fst := by
        rw [map_fst_setAttribute]
        split
        · next h => exact h
        · exact List.mem_append_right _ List.mem_cons_self
      rw [setAttribute_cons_self, setAll_cons, setAll_cons, setAttribute_setAll hplace hn, setAttribute_setAttribute]
    · rw [setAttribute_cons_of_ne heq, setAll_cons, setAll_cons, ih hnodup]

/-- **Attributes that have been settled among themselves** are set as they come. -/
theorem setAll_setAll_nil : setAll attributes (setAll [] more) = setAll attributes more := by
  induction more using List.reverseRecOn with
  | nil => rfl
  | append_singleton more a ih =>
    rw [setAll_concat, setAll_setAttribute nodup_map_fst_setAll_nil, ih, setAll_concat]

end Record

/-! ### The attributes of a line -/

namespace JsonLayout

theorem isShown_eq (name : String) :
    (!Record.hiddenNames.contains name && !name.toList.head?.any (· == '_')) = decide (Record.IsShown name) := by
  have hhead : name.toList.head?.any (· == '_') = true ↔ name.toList.head? = some '_' := by
    cases name.toList.head? <;> simp
  rw [Bool.eq_iff_iff, decide_eq_true_iff, Record.IsShown, Bool.and_eq_true, Bool.not_eq_true', Bool.not_eq_true',
    ← Bool.not_eq_true, ← Bool.not_eq_true, List.contains_iff_mem, hhead]

/-- **The attributes of a line are what is gathered for it.** -/
theorem attributes_eq (r : Record) (extras : List (String × Value)) (scope : Value) :
    attributes { r with attributes := Record.setAll [] extras } scope = Record.setAll [] (gathered r extras scope) := by
  have hshown : Record.shownAttributes { r with attributes := Record.setAll [] extras } =
      Record.setAll [] (extras.filter fun a => Record.IsShown a.1) := by
    rw [Record.shownAttributes]
    simp only [isShown_eq]
    exact Record.filter_setAll fun name => decide (Record.IsShown name)
  have hplace : placeAttributes { r with attributes := Record.setAll [] extras } = placeAttributes r := rfl
  rw [attributes, hshown, hplace, Record.setAll_setAll_nil, gathered, Record.setAll_cons, Record.setAll_append]
  rfl

end JsonLayout

end Stencil
