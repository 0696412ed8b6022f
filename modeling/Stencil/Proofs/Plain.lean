import Mathlib.Algebra.Group.Int.Defs
import Mathlib.Algebra.Group.Nat.Defs
import Stencil.Holding
import Stencil.Proofs.Maps
import Stencil.Proofs.Numerals
import Stencil.Proofs.Safety
import Stencil.Proofs.Stages

/-!
# Plain data is shown, unless an integer is too long

Data that consists of scalars, lists, tuples and tables under names can be looked up, tested and iterated over without
fail. A name resolves to plain data again, and nothing is called and nothing is changed on the way
(`Stencil.Graph.IsPlainScope.gives_lookup`). So the data at all stages that a rendering passes is plain
(`Stencil.Setting.IsPlainJob.of_passes`), and the only step that can go wrong is the last one, making a text of a value:
an integer may have too many digits. An object is not shown again inside itself, but all that a value holds is shown
with it once (`Stencil.Graph.Holds.unfolds`). So a rendering ends in a text if and only if no such integer is held by
what it shows (`Stencil.Setting.render_plain`).
-/

namespace Stencil

open Run

/-! ### Plain values -/

theorem Node.IsPlain.cases {n : Node} (h : n.IsPlain) :
    (∃ xs, n = .sequence .list xs ∧ xs.length < Graph.sizeLimit) ∨
      (∃ xs, n = .sequence .tuple xs ∧ xs.length < Graph.sizeLimit) ∨ ∃ es, n = .table .plain es := by
  rcases n with ⟨_ | _ | _ | _, xs⟩ | _ | ⟨_ | _ | _ | _ | _, es⟩ | _ | _ | _ | _ | _ | _ | _ | _ <;>
    first | exact h.elim | skip
  · exact .inl ⟨xs, rfl, h⟩
  · exact .inr (.inl ⟨xs, rfl, h⟩)
  · exact .inr (.inr ⟨es, rfl⟩)

/-- What plain objects contain does not depend on the entries that are gained. -/
theorem Node.IsPlain.contents_eq {n : Node} (h : n.IsPlain) (gained gained' : Entries) :
    n.contents gained = n.contents gained' := by
  rcases h.cases with ⟨xs, rfl, -⟩ | ⟨xs, rfl, -⟩ | ⟨es, rfl⟩ <;> rfl

namespace Graph

variable {g : Graph} {m : Memory} {v w : Value}

/-- What plain data holds is plain. -/
theorem IsPlain.of_holds (h : g.IsPlain v) (hw : g.Holds .fresh v w) : g.IsPlain w :=
  ⟨fun hu => h.plain (hw.trans hu), fun hu => h.nests (hw.trans hu)⟩

theorem isPlain_null : g.IsPlain .null := by
  constructor
  · intro w hw
    rw [hw.eq_of_scalar nofun]
    trivial
  · intro w hw
    rw [hw.eq_of_scalar nofun]
    trivial

/-- What plain data holds does not depend on the memory. -/
theorem IsPlain.holds (h : g.IsPlain v) (hw : g.Holds m v w) (m' : Memory) : g.Holds m' v w := by
  induction hw generalizing m' with
  | itself => exact .itself
  | within _ hnode hmem ih =>
    obtain ⟨n, hnode', hn⟩ := h.plain (ih .fresh)
    obtain rfl := Option.some.inj (hnode.symm.trans hnode')
    exact (ih m').within hnode (hn.contents_eq _ _ ▸ hmem)

theorem IsPlain.exists_node {place : Nat} (h : g.IsPlain (.ref place)) :
    ∃ n, g.nodes[place]? = some n ∧ n.IsPlain ∧ ∀ w ∈ n.contents [], g.IsPlain w := by
  obtain ⟨n, hnode, hn⟩ := h.plain .itself
  exact ⟨n, hnode, hn, fun w hw => h.of_holds (.contents hnode (hn.contents_eq _ _ ▸ hw))⟩

/-- **A plain value is a scalar, or a sequence of plain values, or a table of plain values.** -/
theorem IsPlain.cases (h : g.IsPlain v) :
    g.node? v = none ∨
      (∃ kind xs, g.node? v = some (.sequence kind xs) ∧ xs.length < sizeLimit ∧ ∀ w ∈ xs, g.IsPlain w) ∨
      ∃ es, g.node? v = some (.table .plain es) ∧ ∀ e ∈ es, g.IsPlain e.2 := by
  cases v with
  | ref place =>
    obtain ⟨n, hnode, hn, hcontents⟩ := h.exists_node
    rcases hn.cases with ⟨xs, rfl, hsize⟩ | ⟨xs, rfl, hsize⟩ | ⟨es, rfl⟩
    · exact .inr (.inl ⟨.list, xs, hnode, hsize, hcontents⟩)
    · exact .inr (.inl ⟨.tuple, xs, hnode, hsize, hcontents⟩)
    · refine .inr (.inr ⟨es, hnode, fun e he => hcontents e.2 ?_⟩)
      exact List.mem_flatMap.mpr ⟨e, he, by simp⟩
  | _ => exact .inl rfl

/-! ### Looking at plain values -/

theorem IsPlain.of_elements? (h : g.IsPlain v) {xs : Elements} (hxs : g.elements? v = some xs) :
    xs.size < sizeLimit ∧ ∀ w ∈ xs.toList, g.IsPlain w := by
  rw [elements?] at hxs
  rcases h.cases with hnode | ⟨kind, ys, hnode, hsize, hys⟩ | ⟨es, hnode, hes⟩ <;> rw [hnode] at hxs <;> cases hxs
  exact ⟨hsize, hys⟩

/-- A plain value is map-like if it is a table. -/
theorem IsPlain.mapLike?_eq (h : g.IsPlain v) (m : Memory) :
    g.mapLike? m v = .ok none ∨
      ∃ es, g.mapLike? m v = .ok (some (.single es)) ∧ ∀ e ∈ es, g.IsPlain e.2 := by
  rcases h.cases with hnode | ⟨kind, ys, hnode, -, -⟩ | ⟨es, hnode, hes⟩
  · refine .inl ?_
    rw [mapLike?, mapping?, hnode]
  · refine .inl ?_
    rw [mapLike?, mapping?, hnode]
  · have hview : g.mapping? m v = some (.single es) := mapping?_of_table hnode (by simp) m
    exact .inr ⟨es, mapLike?_of_mapping? hview, hes⟩

theorem IsPlain.exists_isEmpty (h : g.IsPlain v) (m : Memory) : ∃ empty, g.isEmpty m v = .ok empty := by
  rw [isEmpty]
  cases hxs : g.elements? v with
  | some xs => exact ⟨xs.size == 0, if_pos (h.of_elements? hxs).1⟩
  | none =>
    rcases h.mapLike?_eq m with hview | ⟨es, hview, -⟩ <;> rw [hview]
    · cases htruth : g.truth m v with
      | ok b => exact ⟨!b, rfl⟩
      | error f =>
        -- Only objects fail when they are tested, and these are not plain.
        obtain ⟨text, kind, message, hnode, -⟩ := exists_node_of_truth_eq_error htruth
        rcases h.cases with h | ⟨kind', xs, h, -⟩ | ⟨es, h, -⟩ <;> rw [h] at hnode <;> cases hnode
    · exact ⟨es.isEmpty, rfl⟩

end Graph

/-! ### Resolving names in plain data -/

/-- What stands at an index is one of the elements. -/
theorem Elements.mem_toList_of_at? {xs : Elements} {i : Int} {w : Value} (h : xs.at? i = some w) : w ∈ xs.toList := by
  obtain ⟨j, hj⟩ : ∃ j : Int, (if j < 0 then none else xs.get? j.toNat) = some w := ⟨_, h⟩
  split at hj
  · cases hj
  · cases xs with
    | listed items => exact List.mem_of_getElem? hj
    | progression start step size =>
      rw [get?] at hj
      split at hj
      · next hlt => exact List.mem_map.mpr ⟨_, List.mem_range.mpr hlt, Option.some.inj hj⟩
      · cases hj

/-- Whether a run always gives a value as said by `P`, and changes nothing. -/
def Run.Gives {α : Type} (P : α → Prop) (r : Run α) : Prop := ∀ σ, ∃ x, r.runFrom σ = (.ok x, σ) ∧ P x

namespace Run

variable {α β : Type} {P : α → Prop} {Q : β → Prop}

theorem gives_pure {x : α} (h : P x) : Gives P (pure x) := fun _ => ⟨x, rfl, h⟩

theorem Gives.bind {r : Run α} {k : α → Run β} (hr : Gives P r) (hk : ∀ x, P x → Gives Q (k x)) :
    Gives Q (r >>= k) := by
  intro σ
  obtain ⟨x, hx, hP⟩ := hr σ
  obtain ⟨y, hy, hQ⟩ := hk x hP σ
  exact ⟨y, (runFrom_bind_ok hx k).trans hy, hQ⟩

theorem Gives.memory_bind {k : Memory → Run β} (hk : ∀ m, Gives Q (k m)) : Gives Q (Run.memory >>= k) :=
  Gives.bind (P := fun _ => True) (fun σ => ⟨σ.memory, rfl, trivial⟩) fun m _ => hk m

end Run

/-- Whether a run that starts after `m` ends in a value as said by `P`. -/
def Run.Succeeds {α : Type} (g : Graph) (m : Memory) (P : α → Prop) (r : Run α) : Prop :=
  ∀ σ, g.Evolves m σ.memory → g.Evolves m (r.runFrom σ).2.memory ∧ ∃ x, (r.runFrom σ).1 = .ok x ∧ P x

namespace Run

variable {α β : Type} {g : Graph} {m : Memory} {P : α → Prop} {Q : β → Prop}

theorem succeeds_pure {x : α} (h : P x) : Succeeds g m P (pure x) := fun _ hσ => ⟨hσ, x, rfl, h⟩

theorem succeeds_report (e : Event) : Succeeds g m (fun _ => True) (report e) := fun _ hσ => ⟨hσ, (), rfl, trivial⟩

theorem Gives.succeeds {r : Run α} (h : Gives P r) : Succeeds g m P r := by
  intro σ hσ
  obtain ⟨x, hx, hP⟩ := h σ
  rw [hx]
  exact ⟨hσ, x, rfl, hP⟩

theorem Succeeds.bind {r : Run α} {k : α → Run β} (hr : Succeeds g m P r) (hk : ∀ x, P x → Succeeds g m Q (k x)) :
    Succeeds g m Q (r >>= k) := by
  intro σ hσ
  obtain ⟨hevolved, x, hx, hP⟩ := hr σ hσ
  have hrun : r.runFrom σ = (.ok x, (r.runFrom σ).2) := Prod.ext hx rfl
  rw [runFrom_bind_ok hrun]
  exact hk x hP _ hevolved

end Run

/-- Whether a scope is a plain value, or a plain value as an item. -/
def Graph.IsPlainScope (g : Graph) (scope : Scope) : Prop :=
  ∃ v, g.IsPlain v ∧ (scope = .value v ∨ scope = .item v)

namespace Graph

variable {g : Graph} {v : Value} {scope : Scope}

theorem IsPlain.gives_empty? (h : g.IsPlain v) : Gives (fun _ => True) (g.empty? v) := by
  intro σ
  obtain ⟨empty, hempty⟩ := h.exists_isEmpty σ.memory
  exact ⟨empty, runFrom_empty?_of_isEmpty hempty, trivial⟩

/-- What plain entries have under a key is plain. -/
theorem isPlain_getD_find? {es : Entries} (h : ∀ e ∈ es, g.IsPlain e.2) (key : Value) :
    g.IsPlain ((g.find? key es).getD .null) := by
  rcases g.getD_find?_mem key es with hnull | ⟨e, hmem, he⟩
  · rw [hnull]
    exact isPlain_null
  · rw [he]
    exact h e hmem

theorem isPlain_getD_at? {xs : Elements} (h : ∀ w ∈ xs.toList, g.IsPlain w) (i : Int) :
    g.IsPlain ((xs.at? i).getD .null) := by
  cases hw : xs.at? i with
  | none => exact isPlain_null
  | some w => exact h w (Elements.mem_toList_of_at? hw)

theorem IsPlain.gives_child (h : g.IsPlain v) (key : String) : Gives g.IsPlain (g.child v key) := by
  refine .memory_bind fun m => ?_
  rcases h.mapLike?_eq m with hview | ⟨es, hview, hes⟩ <;> rw [hview, ofExcept_ok, pure_bind]
  · dsimp only
    split
    · next xs i hxs _ => exact gives_pure (isPlain_getD_at? (h.of_elements? hxs).2 i)
    · exact gives_pure isPlain_null
  · exact gives_pure (isPlain_getD_find? hes _)

theorem IsPlain.gives_walk (h : g.IsPlain v) (ss : List String) : Gives g.IsPlain (g.walk v ss) := by
  induction ss generalizing v with
  | nil => exact gives_pure h
  | cons s ss ih =>
    refine h.gives_empty?.bind fun empty _ => ?_
    split
    · exact gives_pure h
    · exact (h.gives_child s).bind fun w hw => ih hw

/-- The only name of an item is the one under which it is seen itself. -/
theorem IsPlainScope.gives_scopeChild (h : g.IsPlainScope scope) (key : String) :
    Gives g.IsPlain (g.scopeChild scope key) := by
  obtain ⟨v, hv, rfl | rfl⟩ := h
  · exact hv.gives_child key
  · refine gives_pure (isPlain_getD_find? (fun e he => ?_) _)
    obtain rfl := List.mem_singleton.mp he
    exact hv

theorem IsPlainScope.gives_resolve (h : g.IsPlainScope scope) (name : String) :
    Gives g.IsPlain (g.resolve scope name) := by
  rw [resolve]
  split
  · cases segments name with
    | nil => exact gives_pure isPlain_null
    | cons s ss =>
      have hfirst : Gives g.IsPlain (g.scopeChild scope s) := h.gives_scopeChild s
      obtain ⟨v, hv, rfl | rfl⟩ := h
      · exact hv.gives_walk (s :: ss)
      · exact hfirst.bind fun w hw => hw.gives_walk ss
  · exact h.gives_scopeChild name

/-- Plain values are not called. -/
theorem IsPlain.gives_invoke (h : g.IsPlain v) : Gives g.IsPlain (g.invoke v) := by
  have hvalue : g.invoke v = pure v := by
    unfold invoke
    rcases h.cases with hnode | ⟨kind, xs, hnode, -⟩ | ⟨es, hnode, -⟩ <;> rw [hnode] <;> cases v <;> rfl
  rw [hvalue]
  exact gives_pure h

/-- **A name stands for plain data in a plain scope**, and looking it up changes nothing. -/
theorem IsPlainScope.gives_lookup (h : g.IsPlainScope scope) (name : String) :
    Gives g.IsPlain (g.lookup scope name) :=
  (h.gives_resolve name).bind fun _ hv => hv.gives_invoke

theorem IsPlain.gives_elementScope (h : g.IsPlain v) : Gives g.IsPlainScope (g.elementScope v) := by
  refine .memory_bind fun m => ?_
  rcases h.mapLike?_eq m with hview | ⟨es, hview, -⟩ <;> rw [hview, ofExcept_ok, pure_bind]
  · exact gives_pure ⟨v, h, .inr rfl⟩
  · exact gives_pure ⟨v, h, .inl rfl⟩

theorem IsPlain.gives_blockScope (h : g.IsPlain v) (hscope : g.IsPlainScope scope) :
    Gives g.IsPlainScope (g.blockScope scope v) := by
  refine .memory_bind fun m => ?_
  rcases h.mapLike?_eq m with hview | ⟨es, hview, -⟩ <;> rw [hview, ofExcept_ok, pure_bind]
  · exact gives_pure hscope
  · exact gives_pure ⟨v, h, .inl rfl⟩

end Graph

/-! ### Texts of plain data -/

/-- Whether an attempt fails if `P` holds, because an integer has too many digits, and succeeds if not. -/
def FailsIf {α : Type} (P : Prop) (r : Except Fault α) : Prop :=
  P ∧ r = .error .tooManyDigits ∨ ¬P ∧ ∃ x, r = .ok x

section Attempts

variable {α β : Type} {P Q : Prop}

theorem failsIf_ok (h : ¬P) (x : α) : FailsIf P (.ok x) := .inr ⟨h, x, rfl⟩

theorem FailsIf.congr {r : Except Fault α} (h : FailsIf P r) (hPQ : P ↔ Q) : FailsIf Q r :=
  h.imp (And.imp hPQ.mp id) (And.imp (mt hPQ.mpr) id)

theorem FailsIf.bind {r : Except Fault α} {k : α → Except Fault β} (hr : FailsIf P r) (hk : ∀ x, FailsIf Q (k x)) :
    FailsIf (P ∨ Q) (r >>= k) := by
  rcases hr with ⟨hP, rfl⟩ | ⟨hP, x, rfl⟩
  · exact .inl ⟨.inl hP, rfl⟩
  · exact (hk x).congr (or_iff_right hP).symm

theorem FailsIf.bind_ok {r : Except Fault α} (hr : FailsIf P r) (f : α → β) :
    FailsIf P (r >>= fun x => .ok (f x)) :=
  (hr.bind fun x => failsIf_ok not_false (f x)).congr (or_iff_left not_false)

theorem failsIf_mapM {P : α → Prop} {f : α → Except Fault β} {xs : List α} (h : ∀ x ∈ xs, FailsIf (P x) (f x)) :
    FailsIf (∃ x ∈ xs, P x) (xs.mapM f) := by
  induction xs with
  | nil => exact failsIf_ok (by simp) []
  | cons x xs ih =>
    have hrest : FailsIf (∃ x ∈ xs, P x) (xs.mapM f) := ih fun z hz => h z (List.mem_cons_of_mem _ hz)
    rw [List.mapM_cons]
    exact ((h x List.mem_cons_self).bind fun y => hrest.bind_ok (y :: ·)).congr (by simp)

end Attempts

namespace Graph

variable {g : Graph} {v w : Value}

/-- Whether a value holds an integer that has too many digits. -/
def HoldsLong (g : Graph) (m : Memory) (v : Value) : Prop :=
  ∃ n : Int, g.Holds m v (.int n) ∧ 10 ^ Number.digitLimit ≤ n.natAbs

/-- Whether a value is shown with another one that stands inside the objects at some places: objects inside themselves
are not shown again. -/
inductive Unfolds (g : Graph) : List Nat → Value → Value → Prop
  | itself {around : List Nat} {v : Value} : Unfolds g around v v
  | inside {around : List Nat} {place : Nat} {n : Node} {u w : Value} : place ∉ around →
    g.nodes[place]? = some n → u ∈ n.contents [] → Unfolds g (place :: around) u w → Unfolds g around (.ref place) w

/-- What an object contains is shown, unless the object stands inside itself. -/
theorem Unfolds.contents {around : List Nat} {place : Nat} (h : g.Unfolds around v (.ref place)) {n : Node}
    (hnode : g.nodes[place]? = some n) (hw : w ∈ n.contents []) : place ∈ around ∨ g.Unfolds around v w := by
  obtain ⟨target, htarget⟩ : ∃ target, target = Value.ref place := ⟨_, rfl⟩
  rw [← htarget] at h
  induction h with
  | @itself around v =>
    subst htarget
    by_cases hplace : place ∈ around
    · exact .inl hplace
    · exact .inr (.inside hplace hnode hw .itself)
  | @inside around place' n' u target hplace' hnode' hu _ ih =>
    rcases ih htarget with hmem | hunfolds
    · rcases List.mem_cons.mp hmem with rfl | hmem
      · -- The object has been shown before on the way to itself, with what it contains.
        exact .inr (.inside hplace' hnode hw .itself)
      · exact .inl hmem
    · exact .inr (.inside hplace' hnode' hu hunfolds)

/-- **All that a value holds is shown with it**, in spite of what is not shown again. -/
theorem Holds.unfolds (h : g.Holds .fresh v w) : g.Unfolds [] v w := by
  induction h with
  | itself => exact .itself
  | within _ hnode hmem ih => exact (ih.contents hnode hmem).resolve_left List.not_mem_nil

theorem Unfolds.holds {around : List Nat} (h : g.Unfolds around v w) : g.Holds .fresh v w := by
  induction h with
  | itself => exact .itself
  | inside _ hnode hu _ ih => exact (Holds.contents hnode hu).trans ih

/-- Whether an integer with too many digits is shown with a value. -/
def UnfoldsLong (g : Graph) (around : List Nat) (v : Value) : Prop :=
  ∃ n : Int, g.Unfolds around v (.int n) ∧ 10 ^ Number.digitLimit ≤ n.natAbs

theorem unfoldsLong_int_iff {around : List Nat} {n : Int} :
    g.UnfoldsLong around (.int n) ↔ 10 ^ Number.digitLimit ≤ n.natAbs := by
  constructor
  · rintro ⟨_, ⟨⟩, hlong⟩
    exact hlong
  · exact fun hlong => ⟨n, .itself, hlong⟩

/-- An object shows what it contains, once. -/
theorem unfoldsLong_ref_iff {around : List Nat} {place : Nat} {n : Node} (hnode : g.nodes[place]? = some n) :
    g.UnfoldsLong around (.ref place) ↔
      place ∉ around ∧ ∃ w ∈ n.contents [], g.UnfoldsLong (place :: around) w := by
  constructor
  · rintro ⟨k, ⟨⟩ | ⟨hplace, hnode', hw, hunfolds⟩, hlong⟩
    obtain rfl := Option.some.inj (hnode.symm.trans hnode')
    exact ⟨hplace, _, hw, k, hunfolds, hlong⟩
  · rintro ⟨hplace, w, hw, k, hunfolds, hlong⟩
    exact ⟨k, .inside hplace hnode hw hunfolds, hlong⟩

/-- The text of a plain object can be made if the texts of what it contains can. -/
theorem failsIf_quoteNode {P : Value → Prop} {gained : Entries} {shown : Value → Except Fault String} {n : Node}
    (hn : n.IsPlain) (h : ∀ w ∈ n.contents [], FailsIf (P w) (shown w)) :
    FailsIf (∃ w ∈ n.contents [], P w) (quoteNode gained shown n) := by
  rcases hn.cases with ⟨xs, rfl, -⟩ | ⟨xs, rfl, -⟩ | ⟨es, rfl⟩
  · exact (failsIf_mapM h).bind_ok bracketText
  · exact (failsIf_mapM h).bind_ok tupleText
  · have hmem {w : Value} : w ∈ (Node.table .plain es).contents [] ↔ ∃ e ∈ es, w = e.1 ∨ w = e.2 := by
      simp [Node.contents]
    have hentries : FailsIf (∃ e ∈ es, P e.1 ∨ P e.2) (quoteNode.entryTexts shown es) := by
      refine failsIf_mapM fun e he => (h e.1 (hmem.mpr ⟨e, he, .inl rfl⟩)).bind fun key => ?_
      exact (h e.2 (hmem.mpr ⟨e, he, .inr rfl⟩)).bind_ok fun text => (key, text)
    refine (hentries.bind_ok braceText).congr ⟨?_, ?_⟩
    · rintro ⟨e, he, hkey | hvalue⟩
      · exact ⟨e.1, hmem.mpr ⟨e, he, .inl rfl⟩, hkey⟩
      · exact ⟨e.2, hmem.mpr ⟨e, he, .inr rfl⟩, hvalue⟩
    · rintro ⟨w, hw, hP⟩
      obtain ⟨e, he, rfl | rfl⟩ := hmem.mp hw
      · exact ⟨e, he, .inl hP⟩
      · exact ⟨e, he, .inr hP⟩

theorem exists_ellipsis?_of_isPlain {n : Node} (hn : n.IsPlain) : ∃ dots, ellipsis? n = some dots := by
  rcases hn.cases with ⟨xs, rfl, -⟩ | ⟨xs, rfl, -⟩ | ⟨es, rfl⟩ <;> exact ⟨_, rfl⟩

/-- **The text of plain data inside other data can be made within the levels that it takes**, unless an integer that is
shown with it has too many digits. -/
theorem failsIf_quoteTo (m : Memory) {depth : Nat} {around : List Nat}
    (hplain : ∀ w, g.Holds .fresh v w → g.IsPlainValue w) (hnests : g.NestsWithin depth around v) :
    FailsIf (g.UnfoldsLong around v) (g.quoteTo m depth around v) := by
  induction depth generalizing around v with
  | zero => exact hnests.elim
  | succ depth ih =>
    cases v with
    | int n =>
      have htext : g.quoteTo m (depth + 1) around (.int n) = integerText n := rfl
      rw [htext, integerText]
      refine FailsIf.congr ?_ unfoldsLong_int_iff.symm
      cases hn : Number.integerText? n with
      | some text => exact failsIf_ok (by rw [← Number.integerText?_eq_none_iff, hn]; simp) text
      | none => exact .inl ⟨Number.integerText?_eq_none_iff.mp hn, rfl⟩
    | decimal | bytes => exact (hplain _ .itself).elim
    | ref place =>
      obtain ⟨n, hnode, hn⟩ := hplain _ .itself
      obtain ⟨dots, hdots⟩ := exists_ellipsis?_of_isPlain hn
      rw [quoteTo, hnode]
      dsimp only
      rw [hdots]
      dsimp only
      refine FailsIf.congr ?_ (unfoldsLong_ref_iff hnode).symm
      split
      · next hinside =>
        have hinside : place ∈ around := by simpa using hinside
        exact failsIf_ok (fun hboth => hboth.1 hinside) dots
      · next hinside =>
        have hinside : place ∉ around := by simpa using hinside
        refine (failsIf_quoteNode hn fun w hw => ?_).congr (and_iff_right hinside).symm
        have hholds : g.Holds .fresh (.ref place) w := .contents hnode (hn.contents_eq _ _ ▸ hw)
        exact ih (fun u hu => hplain u (hholds.trans hu)) (hnests.resolve_left hinside n hnode w hw)
    | _ => exact failsIf_ok (by rintro ⟨k, ⟨⟩, -⟩) _

/-- **Plain data has a text, unless it holds an integer with too many digits.** -/
theorem IsPlain.failsIf_display (h : g.IsPlain v) (m : Memory) : FailsIf (g.HoldsLong m v) (g.display m v) := by
  have hquote : FailsIf (g.UnfoldsLong [] v) (g.quote m v) :=
    failsIf_quoteTo m (fun _ hw => h.plain hw) (h.nests .itself)
  have hdisplay : FailsIf (g.UnfoldsLong [] v) (g.display m v) := by
    cases v with
    | text s => exact failsIf_ok (by rintro ⟨k, ⟨⟩, -⟩) s
    | decimal => exact (h.plain .itself).elim
    | ref place =>
      obtain ⟨n, hnode, hn, -⟩ := h.exists_node
      have hsame : g.display m (.ref place) = g.quote m (.ref place) := by
        unfold display
        split
        · next hother => cases hother
        · next hother => cases hother
        · next hplace hreadOnly =>
          cases hplace
          obtain rfl := Option.some.inj (hnode.symm.trans hreadOnly)
          exact hn.elim
        · rfl
      rwa [hsame]
    | _ => exact hquote
  refine hdisplay.congr (exists_congr fun n => and_congr_left fun _ => ?_)
  exact ⟨fun hn => h.holds hn.holds m, fun hn => (h.holds hn .fresh).unfolds⟩

/-- **What a name stands for is shown**, unless it is not empty and holds an integer with too many digits. -/
theorem IsPlainScope.interpolate_cases {scope : Scope} (h : g.IsPlainScope scope) (name : String) (σ : RunState) :
    ∃ v, (g.lookup scope name).runFrom σ = (.ok v, σ) ∧
      ((g.isEmpty σ.memory v = .ok false → ¬g.HoldsLong σ.memory v) ∧
          (∃ text, (g.interpolate scope name).runFrom σ = (.ok text, σ)) ∨
        g.isEmpty σ.memory v = .ok false ∧ g.HoldsLong σ.memory v ∧
          (g.interpolate scope name).runFrom σ = (.error .tooManyDigits, σ)) := by
  obtain ⟨v, hlookup, hv⟩ := h.gives_lookup name σ
  obtain ⟨empty, hempty⟩ := hv.exists_isEmpty σ.memory
  refine ⟨v, hlookup, ?_⟩
  rw [interpolate, runFrom_bind_ok hlookup, runFrom_bind_ok (runFrom_empty?_of_isEmpty hempty)]
  cases empty with
  | true =>
    refine .inl ⟨fun hnot => ?_, "", rfl⟩
    cases hempty.symm.trans hnot
  | false =>
    rw [if_neg Bool.false_ne_true, runFrom_show?]
    rcases hv.failsIf_display σ.memory with ⟨hlong, hfails⟩ | ⟨hshort, text, htext⟩
    · exact .inr ⟨hempty, hlong, by rw [hfails]⟩
    · exact .inl ⟨fun _ => hshort, text, by rw [htext]⟩

end Graph

/-! ### Stages with plain data -/

/-- The values that are left to be rendered for. -/
def Task.values : Task → List Value
  | .template _ => []
  | .body _ _ => []
  | .elements _ vs => vs

/-- The frames that a task takes from the stack, those in partials not counted. -/
def Task.frames : Task → Nat
  | .template t => t.frames
  | .body frames t => frames + t.frames
  | .elements t _ => Stack.iteratedFrames + t.frames

/-- What follows a part takes no more frames, and is rendered for no other values. -/
theorem Task.rest?_le {task rest : Task} (h : task.rest? = some rest) :
    rest.frames ≤ task.frames ∧ ∀ v ∈ rest.values, v ∈ task.values := by
  rcases task with (_ | ⟨l, t⟩ | ⟨kind, name, body, t⟩) | ⟨frames, t⟩ | ⟨t, _ | ⟨v, vs⟩⟩ <;> cases h
  · exact ⟨Nat.le_refl _, nofun⟩
  · exact ⟨Nat.le_max_right _ _, nofun⟩
  · exact ⟨Nat.le_refl _, fun w hw => List.mem_cons_of_mem _ hw⟩

namespace Setting

variable {s : Setting} {m : Memory} {a b : Stage}

/-- **Whether all data of a job is plain**, and the stack has room for the blocks that stand in no partial. -/
structure IsPlainJob (s : Setting) (j : Job) : Prop where
  scope : s.graph.IsPlainScope j.scope
  values : ∀ v ∈ j.task.values, s.graph.IsPlain v
  room : j.depth = 0 → ¬j.stack.Short j.task.frames

section Answers

variable {depth : Nat} {rest : Template} {scope : Scope} {stack : Stack}

theorem succeeds_debug (s : Setting) (e : Event) : Succeeds s.graph m (fun _ => True) (s.debug e) := by
  rw [debug]
  split
  · exact succeeds_report e
  · exact succeeds_pure trivial

theorem succeeds_questionPartial (hscope : s.graph.IsPlainScope scope) (hpartials : s.Testable m) (depth : Nat)
    (name : String) (stack : Stack) :
    Succeeds s.graph m (Stage.Answer.Inner s.IsPlainJob) (s.questionPartial depth name scope stack) := by
  have hsource : Succeeds s.graph m (fun _ => True) (s.source? name) := by
    intro σ hσ
    obtain ⟨source?, hsource⟩ := hpartials.exists_source? name hσ
    exact ⟨hσ.trans ((s.isQuiet_source? name).evolves σ), source?, hsource, trivial⟩
  refine hsource.bind fun source? _ => ?_
  cases source? with
  | none => exact succeeds_pure trivial
  | some source =>
    rw [questionSource]
    split
    · cases Template.parse source with
      | error cause => exact (succeeds_report _).bind fun _ _ => succeeds_pure trivial
      | ok t =>
        refine (s.succeeds_debug _).bind fun _ _ => (s.succeeds_debug _).bind fun _ _ => succeeds_pure ?_
        exact ⟨hscope, by simp [Task.values], fun hdepth => absurd hdepth (Nat.succ_ne_zero depth)⟩
    · exact (succeeds_report _).bind fun _ _ => succeeds_pure trivial

theorem succeeds_questionBlock (hscope : s.graph.IsPlainScope scope) {kind : BlockKind} {body : Template}
    (hroom : depth = 0 → ¬stack.Short (kind.frames + body.frames)) (name : String) :
    Succeeds s.graph m (Stage.Answer.Inner s.IsPlainJob) (s.questionBlock kind depth name body scope stack) := by
  have hinside {inner : Scope} {frames : Nat} (hinner : s.graph.IsPlainScope inner) (hframes : frames ≤ kind.frames) :
      s.IsPlainJob ⟨depth, .body frames body, inner, stack⟩ :=
    ⟨hinner, nofun, fun hdepth hshort => hroom hdepth (hshort.mono (Nat.add_le_add_right hframes _))⟩
  refine (hscope.gives_lookup name).succeeds.bind fun v hv => hv.gives_empty?.succeeds.bind fun empty _ => ?_
  cases kind <;> cases empty
  · cases helements : s.graph.elements? v with
    | some xs =>
      refine succeeds_pure ⟨hscope, (hv.of_elements? helements).2, fun hdepth hshort => hroom hdepth (hshort.mono ?_)⟩
      exact Nat.add_le_add_right (Nat.le_max_right _ _) _
    | none =>
      refine (hv.gives_blockScope hscope).succeeds.bind fun inner hinner => succeeds_pure ?_
      exact hinside hinner (Nat.le_max_left _ _)
  · exact succeeds_pure trivial
  · exact succeeds_pure trivial
  · exact succeeds_pure (hinside hscope (Nat.le_refl _))

/-- **How the question of a stage with plain data is answered**: by nothing that is not plain, unless an integer that is
shown has too many digits, or the stack is exhausted inside a partial. -/
inductive AnswersPlainly (s : Setting) (a : Stage) : Prop
  | answered {answer : Stage.Answer} : (s.answer a).1 = .ok answer → answer.Inner s.IsPlainJob → AnswersPlainly s a
  | tooLong {v : Value} {m : Memory} : (s.answer a).1 = .error .tooManyDigits → s.Shows a v m →
    s.graph.HoldsLong m v → AnswersPlainly s a
  | tooDeep : (s.answer a).1 = .error .stackExhausted → a.depth ≠ 0 → AnswersPlainly s a

theorem answersPlainly_of_succeeds (hmemory : s.graph.Evolves m a.state.memory)
    (h : Succeeds s.graph m (Stage.Answer.Inner s.IsPlainJob) (s.question a.toJob)) : s.AnswersPlainly a := by
  obtain ⟨-, answer, hanswer, hinner⟩ := h a.state hmemory
  exact .answered hanswer hinner

/-- A name is shown, escaped or not, unless it stands for a value without a text. -/
theorem answersPlainly_name {σ : RunState} {l : Leaf} {name : String} {f : String → String}
    (hl : l = .name name ∨ l = .raw name) (hscope : s.graph.IsPlainScope scope)
    (hquestion : s.question ⟨depth, .template (.leaf l rest), scope, stack⟩ = do
      return .shows (f (← s.graph.interpolate scope name))) :
    s.AnswersPlainly ⟨⟨depth, .template (.leaf l rest), scope, stack⟩, σ⟩ := by
  obtain ⟨v, hlookup, ⟨-, text, htext⟩ | ⟨hempty, hv, hlong⟩⟩ := hscope.interpolate_cases name σ
  · have hanswer : (s.answer ⟨⟨depth, .template (.leaf l rest), scope, stack⟩, σ⟩).1 = .ok (.shows (f text)) := by
      rw [answer, hquestion, runFrom_bind_ok htext, runFrom_pure]
    exact .answered hanswer trivial
  · refine .tooLong ?_ (.intro rfl hl hlookup hempty) hv
    rw [answer, hquestion, runFrom_bind_error hlong]

theorem answersPlainly_body {σ : RunState} {frames : Nat} {t : Template} (hscope : s.graph.IsPlainScope scope)
    (hroom : depth = 0 → ¬stack.Short (frames + t.frames)) :
    s.AnswersPlainly ⟨⟨depth, .body frames t, scope, stack⟩, σ⟩ := by
  rcases hleft : (stack.enter frames).runFrom σ with ⟨f | left, τ⟩
  · obtain ⟨n, rfl, hshort, rfl⟩ := Stack.of_enter_error hleft
    refine .tooDeep (congrArg Prod.fst (runFrom_bind_error hleft _)) fun hdepth => ?_
    exact hroom hdepth ⟨n, rfl, by omega⟩
  · refine .answered (congrArg Prod.fst (runFrom_bind_ok hleft _)) ⟨hscope, nofun, fun hdepth hshort => ?_⟩
    exact hroom hdepth (hshort.of_enter hleft)

/-- **Every stage with plain data answers plainly.** -/
theorem IsPlainJob.answersPlainly (ha : s.IsPlainJob a.toJob) (hmemory : s.graph.Evolves m a.state.memory)
    (hpartials : s.Testable m) : s.AnswersPlainly a := by
  have hscope := ha.scope
  have hvalues := ha.values
  have hroom := ha.room
  clear ha
  obtain ⟨⟨depth, task, scope, stack⟩, σ⟩ := a
  rcases task with (_ | ⟨_ | n | n | n, rest⟩ | ⟨kind, name, body, rest⟩) | ⟨frames, t⟩ | ⟨t, _ | ⟨v, vs⟩⟩
  · exact .answered rfl trivial
  · exact .answered rfl trivial
  · exact answersPlainly_name (.inl rfl) hscope rfl
  · exact answersPlainly_name (f := id) (.inr rfl) hscope rfl
  · exact answersPlainly_of_succeeds hmemory (succeeds_questionPartial hscope hpartials depth n stack)
  · refine answersPlainly_of_succeeds hmemory (succeeds_questionBlock hscope (fun hdepth hshort => ?_) name)
    exact hroom hdepth (hshort.mono (Nat.le_max_left _ _))
  · exact answersPlainly_body hscope hroom
  · exact .answered rfl trivial
  · have hv := hvalues v List.mem_cons_self
    refine answersPlainly_of_succeeds hmemory (hv.gives_elementScope.succeeds.bind fun inner hinner => ?_)
    exact succeeds_pure ⟨hinner, nofun, hroom⟩

end Answers

/-! ### Renderings of plain data -/

/-- **All stages that a stage with plain data leads to have plain data.** -/
theorem IsPlainJob.of_leads (ha : s.IsPlainJob a.toJob) (hmemory : s.graph.Evolves m a.state.memory)
    (hpartials : s.Testable m) (h : s.Leads a b) : s.IsPlainJob b.toJob := by
  cases h with
  | into henters =>
    cases ha.answersPlainly hmemory hpartials with
    | answered hanswer hinner =>
      rw [henters] at hanswer
      obtain rfl := Except.ok.inj hanswer
      exact hinner
    | tooLong hanswer =>
      rw [henters] at hanswer
      cases hanswer
    | tooDeep hanswer =>
      rw [henters] at hanswer
      cases hanswer
  | past hrest =>
    obtain ⟨hframes, hvalues⟩ := Task.rest?_le hrest
    refine ⟨ha.scope, fun v hv => ha.values v (hvalues v hv), fun hdepth hshort => ?_⟩
    exact ha.room hdepth (hshort.mono hframes)

theorem IsPlainJob.of_passes (ha : s.IsPlainJob a.toJob) (hpartials : s.Testable a.state.memory) (h : s.Passes a b) :
    s.IsPlainJob b.toJob := by
  induction h with
  | refl => exact ha
  | tail hpasses hstep ih => exact ih.of_leads (Passes.evolves hpasses) hpartials hstep

/-- **Where a value is shown that holds an integer with too many digits, a fault arises.** -/
theorem IsPlainJob.arises_of_shows (ha : s.IsPlainJob a.toJob) {v : Value} (hshows : s.Shows a v m)
    (hlong : s.graph.HoldsLong m v) : s.Arises a .tooManyDigits := by
  have hscope := ha.scope
  obtain ⟨⟨depth, task, scope, stack⟩, σ⟩ := a
  cases hshows with
  | @intro l name rest τ htask hl hlookup hempty =>
    obtain ⟨w, hlookup', hcases⟩ := hscope.interpolate_cases name σ
    obtain ⟨hw, rfl⟩ := Prod.mk.inj (hlookup.symm.trans hlookup')
    obtain rfl := Except.ok.inj hw
    have hfails : (s.graph.interpolate scope name).runFrom τ = (.error .tooManyDigits, τ) := by
      rcases hcases with ⟨hshort, -⟩ | ⟨-, -, hfails⟩
      · exact absurd hlong (hshort hempty)
      · exact hfails
    obtain rfl : task = .template (.leaf l rest) := htask
    rcases hl with rfl | rfl <;> exact congrArg Prod.fst (runFrom_bind_error hfails _)

/-- **A rendering of plain data ends in a text**, if the stack has room for the blocks of the template and the entries
of the partials can be tested, with one exception: it fails if and only if a value is shown that is or holds an integer
with too many digits. -/
theorem render_plain (s : Setting) (t : Template) (v : Value) (stack : Stack) (σ : RunState) (hdata : s.graph.IsPlain v)
    (hpartials : s.Testable σ.memory) (hroom : ¬stack.Short t.frames) :
    let rendered := ((s.render t (.value v) stack).runFrom σ).1
    ((∃ text, rendered = .ok text) ∨ rendered = .error .tooManyDigits) ∧
      (rendered = .error .tooManyDigits ↔
        ∃ a w m, s.Passes (start t (.value v) stack σ) a ∧ s.Shows a w m ∧
          ∃ n : Int, s.graph.Holds m w (.int n) ∧ 10 ^ Number.digitLimit ≤ n.natAbs) := by
  have hstart : s.IsPlainJob (start t (.value v) stack σ).toJob := ⟨⟨v, hdata, .inl rfl⟩, nofun, fun _ => hroom⟩
  have hfault {f' : Fault} (hfails : ((s.render t (.value v) stack).runFrom σ).1 = .error f') :
      f' = .tooManyDigits ∧
        ∃ a w m, s.Passes (start t (.value v) stack σ) a ∧ s.Shows a w m ∧ s.graph.HoldsLong m w := by
    obtain ⟨a, f, hpasses, harises, hdepth, hf⟩ :=
      (outcome_eq_error_iff (a := start t (.value v) stack σ) rfl).mp hfails
    cases (hstart.of_passes hpartials hpasses).answersPlainly (Passes.evolves hpasses) hpartials with
    | answered hanswer =>
      rw [harises] at hanswer
      cases hanswer
    | tooLong hanswer hshows hlong =>
      obtain rfl := Except.error.inj (harises.symm.trans hanswer)
      exact ⟨(becomes_iff_eq (by decide)).mp hf, a, _, _, hpasses, hshows, hlong⟩
    | tooDeep hanswer hinside =>
      -- The partial around contains it.
      obtain rfl := Except.error.inj (harises.symm.trans hanswer)
      exact absurd (hdepth rfl) hinside
  refine ⟨?_, fun hfails => (hfault hfails).2, ?_⟩
  · cases hres : ((s.render t (.value v) stack).runFrom σ).1 with
    | ok text => exact .inl ⟨text, rfl⟩
    | error f => exact .inr (congrArg Except.error (hfault hres).1)
  · rintro ⟨a, w, m, hpasses, hshows, hlong⟩
    have harises := (hstart.of_passes hpartials hpasses).arises_of_shows hshows hlong
    exact (Passes.ends_of_arises hpasses rfl harises).1 (.inl nofun) (.inl nofun)

/-- A list `xs` that contains itself and a tuple, and a partial `p` that shows an item. -/
def nested : Setting where
  graph := ⟨#[.table .plain [(.text "xs", .ref 1)], .sequence .list [.int 7, .null, .ref 1, .ref 2],
    .sequence .tuple [.text "<"], .table .plain [(.text "p", .text "\x7b\x7b.\x7d\x7d;")]], by decide⟩
  settings := .initial
  partials := .value (.ref 3)

/-- The list as a whole, and then the partial for each of its items. -/
def nestedTemplate : Template := .leaf (.raw "xs") (.block .plain "xs" (.leaf (.inclusion "p") .nil) .nil)

theorem nested_holds {w : Value} (h : nested.graph.Holds .fresh (.ref 0) w) :
    w = .ref 0 ∨ w = .text "xs" ∨ w = .ref 1 ∨ w = .int 7 ∨ w = .null ∨ w = .ref 2 ∨ w = .text "<" := by
  induction h with
  | itself => exact .inl rfl
  | @within place n w _ hnode hmem ih =>
    have hplace : place = 0 ∨ place = 1 ∨ place = 2 := by simpa using ih
    rcases hplace with rfl | rfl | rfl
    · obtain rfl : Node.table .plain [(.text "xs", .ref 1)] = n := Option.some.inj hnode
      have hw : w = .text "xs" ∨ w = .ref 1 := by simpa [Node.contents] using hmem
      rcases hw with rfl | rfl <;> simp
    · obtain rfl : Node.sequence .list [.int 7, .null, .ref 1, .ref 2] = n := Option.some.inj hnode
      have hw : w = .int 7 ∨ w = .null ∨ w = .ref 1 ∨ w = .ref 2 := by simpa [Node.contents] using hmem
      rcases hw with rfl | rfl | rfl | rfl <;> simp
    · obtain rfl : Node.sequence .tuple [.text "<"] = n := Option.some.inj hnode
      have hw : w = .text "<" := by simpa [Node.contents] using hmem
      simp [hw]

theorem nested_isPlain : nested.graph.IsPlain (.ref 0) := by
  have htable : nested.graph.nodes[0]? = some (.table .plain [(.text "xs", .ref 1)]) := rfl
  have hlist : nested.graph.nodes[1]? = some (.sequence .list [.int 7, .null, .ref 1, .ref 2]) := rfl
  have htuple : nested.graph.nodes[2]? = some (.sequence .tuple [.text "<"]) := rfl
  have hnests {k : Nat} {w : Value} (hw : w = .ref 0 ∨ w = .text "xs" ∨ w = .ref 1 ∨ w = .int 7 ∨ w = .null ∨
      w = .ref 2 ∨ w = .text "<") : nested.graph.NestsWithin (k + 1 + 1 + 1 + 1 + 1) [] w := by
    rcases hw with rfl | rfl | rfl | rfl | rfl | rfl | rfl <;>
      simp [Graph.NestsWithin, htable, hlist, htuple, Node.contents]
  constructor
  · intro w hw
    rcases nested_holds hw with rfl | rfl | rfl | rfl | rfl | rfl | rfl
    · exact ⟨_, htable, by simp [Node.IsPlain]⟩
    · trivial
    · exact ⟨_, hlist, by simp [Node.IsPlain, Graph.sizeLimit]⟩
    · trivial
    · trivial
    · exact ⟨_, htuple, by simp [Node.IsPlain, Graph.sizeLimit]⟩
    · trivial
  · intro w hw
    exact hnests (k := 995) (nested_holds hw)

theorem nested_testable : nested.Testable .fresh := by
  have hnode : nested.graph.node? (.ref 3) = some (.table .plain [(.text "p", .text "\x7b\x7b.\x7d\x7d;")]) := rfl
  refine testable_of_table rfl hnode nofun (fun e he m => ?_) .fresh
  obtain rfl := List.mem_singleton.mp he
  exact ⟨true, rfl⟩

/-- The list is shown inside itself by an ellipsis. -/
theorem render_plain_nested :
    let rendered := ((nested.render nestedTemplate (.value (.ref 0)) Stack.ordinary).runFrom ⟨.fresh, #[]⟩).1
    nested.graph.IsPlain (.ref 0) ∧ nested.Testable .fresh ∧ ¬Stack.ordinary.Short nestedTemplate.frames ∧
      rendered.toOption =
        some "[7, None, [...], ('<',)]7;;[7, None, [...], (&apos;&lt;&apos;,)];(&apos;&lt;&apos;,);" ∧
      (rendered = .error .tooManyDigits ↔
        ∃ a w m, nested.Passes (start nestedTemplate (.value (.ref 0)) Stack.ordinary ⟨.fresh, #[]⟩) a ∧
          nested.Shows a w m ∧ ∃ n : Int, nested.graph.Holds m w (.int n) ∧ 10 ^ Number.digitLimit ≤ n.natAbs) := by
  have hroom : ¬Stack.ordinary.Short nestedTemplate.frames := by
    rintro ⟨n, ⟨⟩, hn⟩
    exact absurd hn (by decide)
  have hrendered := render_plain nested nestedTemplate (.ref 0) Stack.ordinary ⟨.fresh, #[]⟩ nested_isPlain
    nested_testable hroom
  exact ⟨nested_isPlain, nested_testable, hroom, by decide +kernel, hrendered.2⟩

/-- One integer under a name, and no partials. -/
def single (n : Int) : Setting where
  graph := ⟨#[.table .plain [(.text "x", .int n)]], by simp [Node.KeepsDefault]⟩
  settings := .initial
  partials := .value .null

theorem single_isPlain (n : Int) : (single n).graph.IsPlain (.ref 0) := by
  have hnode : (single n).graph.nodes[0]? = some (.table .plain [(.text "x", .int n)]) := rfl
  have hheld {w : Value} (hw : (single n).graph.Holds .fresh (.ref 0) w) : w = .ref 0 ∨ w = .text "x" ∨ w = .int n := by
    induction hw with
    | itself => exact .inl rfl
    | @within place n' w _ hplace hmem ih =>
      obtain rfl : place = 0 := by simpa using ih
      obtain rfl := Option.some.inj (hnode.symm.trans hplace)
      simpa [Node.contents] using Or.inr hmem
  have hnests {k : Nat} {w : Value} (hw : w = .ref 0 ∨ w = .text "x" ∨ w = .int n) :
      (single n).graph.NestsWithin (k + 1 + 1) [] w := by
    rcases hw with rfl | rfl | rfl <;> simp [Graph.NestsWithin, hnode, Node.contents]
  constructor
  · intro w hw
    rcases hheld hw with rfl | rfl | rfl
    · exact ⟨_, hnode, by simp [Node.IsPlain]⟩
    · trivial
    · trivial
  · intro w hw
    exact hnests (k := 998) (hheld hw)

/-- An integer with too many digits is not shown. -/
theorem interpolate_single {n : Int} (hlong : 10 ^ Number.digitLimit ≤ n.natAbs) (σ : RunState) :
    ((single n).graph.interpolate (.value (.ref 0)) "x").runFrom σ = (.error .tooManyDigits, σ) := by
  have hlookup : ((single n).graph.lookup (.value (.ref 0)) "x").runFrom σ = (.ok (.int n), σ) := rfl
  have hnonzero : n ≠ 0 := by
    rintro rfl
    exact absurd (Nat.le_zero.mp hlong) (Nat.pow_pos (by decide)).ne'
  have hempty : (single n).graph.isEmpty σ.memory (.int n) = .ok false := by
    change Except.ok (!(n != 0)) = _
    rw [bne_iff_ne.mpr hnonzero, Bool.not_true]
  have hdisplay : (single n).graph.display σ.memory (.int n) = .error .tooManyDigits := by
    change Graph.integerText n = _
    rw [Graph.integerText, Number.integerText?_eq_none_iff.mpr hlong]
  rw [Graph.interpolate, runFrom_bind_ok hlookup, runFrom_bind_ok (Graph.runFrom_empty?_of_isEmpty hempty),
    if_neg Bool.false_ne_true, Graph.runFrom_show?, hdisplay]

/-- **Not all plain data is shown**: a power of ten with one digit more than there may be has no text. -/
theorem exists_plain_not_shown :
    let large := single (10 ^ Number.digitLimit)
    let shown := Template.leaf (.name "x") .nil
    large.graph.IsPlain (.ref 0) ∧ large.Testable .fresh ∧ ¬Stack.ordinary.Short shown.frames ∧
      ((large.render shown (.value (.ref 0)) Stack.ordinary).runFrom ⟨.fresh, #[]⟩).1 = .error .tooManyDigits := by
  intro large shown
  have hpower (k : Nat) : 10 ^ k ≤ (10 ^ k : Int).natAbs := (Int.natAbs_pow 10 k).ge
  have htestable : large.Testable .fresh := fun name σ σ' view v _ hview => nomatch hview
  have hroom : ¬Stack.ordinary.Short shown.frames := by
    rintro ⟨n, ⟨⟩, hn⟩
    exact absurd hn (by decide)
  refine ⟨single_isPlain _, htestable, hroom, ?_⟩
  have hleaf : (renderLeaf large.graph large.outermost (.name "x") (.value (.ref 0)) Stack.ordinary).runFrom
      ⟨.fresh, #[]⟩ = (.error .tooManyDigits, ⟨.fresh, #[]⟩) := by
    rw [renderLeaf, runFrom_bind_error (interpolate_single (hpower _) _)]
  change ((renderParts large.graph large.outermost shown _ _).runFrom _).1 = _
  rw [renderParts, runFrom_bind_error hleaf]

end Setting

end Stencil
