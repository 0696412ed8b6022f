import Stencil.Proofs.Congruence
import Stencil.Proofs.Dependence

/-!
# Rendering depends on the entries that tables have gained

The memory counts the calls of callables, and holds the entries that tables with a default have gained. Where callables
return the same value each time, a rendering depends on the memory through the gained entries alone: from two states in
which tables have gained the same it ends in the same text or the same fault, and in both cases tables have gained the
same again (`Stencil.Setting.isConstant_outermost`). What has been reported before does not matter at all.

This is an instance of the comparison of runs on corresponding data, in which every place corresponds to itself.
-/

namespace Stencil

open Stencil.Graph (Correspondence)

open Run

/-! ### What corresponds place by place is the same -/

theorem Entries.Correspond.eq {es es' : Entries} (h : es.Correspond Eq es') : es = es' := by
  induction h with
  | nil => rfl
  | cons he _ ih => rw [Prod.ext he.1.eq he.2.eq, ih]

theorem Scope.Corresponds.eq {scope scope' : Scope} (h : scope.Corresponds Eq scope') : scope = scope' := by
  cases h with
  | value hv => rw [hv.eq]
  | record hes => rw [hes.eq]
  | layered hv hes => rw [hv.eq, hes.eq]

namespace Run

variable {α β : Type} {g : Graph}

/-- A relation between results may be replaced by one that follows from it. -/
theorem Corresponds.mono {c : g.Correspondence} {P Q : α → β → Prop} {r : Run α} {r' : Run β}
    (h : Corresponds c P r r') (hPQ : ∀ x y, P x y → Q x y) : Corresponds c Q r r' :=
  fun σ τ hm => ⟨(h σ τ hm).1.mono hPQ, (h σ τ hm).2⟩

/-- Whether a run depends on the memory through the gained entries alone. -/
abbrev IsConstant (g : Graph) (r : Run α) : Prop := Corresponds (Correspondence.identity g) Eq r r

/-- **From states in which tables have gained the same, such a run ends alike**, and tables have gained the same
again. -/
theorem IsConstant.endsAlike {r : Run α} (h : IsConstant g r) {σ τ : RunState}
    (hgained : σ.memory.gained = τ.memory.gained) :
    (r.runFrom σ).1 = (r.runFrom τ).1 ∧ (r.runFrom σ).2.memory.gained = (r.runFrom τ).2.memory.gained := by
  obtain ⟨hend, hm⟩ := h σ τ (Correspondence.identity_remembers hgained)
  exact ⟨hend.eq, funext fun i => (hm i i rfl).eq⟩

theorem isConstant_pure (x : α) : IsConstant g (pure x) := corresponds_pure rfl

theorem isConstant_report (e : Event) : IsConstant g (report e) := fun _ _ hm => ⟨.ok rfl, hm⟩

/-- What follows such a run starts from the same value, in memories where tables have gained the same. -/
theorem IsConstant.bind {r : Run α} {k : α → Run β} (hr : IsConstant g r) (hk : ∀ x, IsConstant g (k x)) :
    IsConstant g (r >>= k) := by
  refine Corresponds.bind hr ?_
  rintro x _ rfl
  exact hk x

theorem isConstant_enter (stack : Stack) (frames : Nat) : IsConstant g (stack.enter frames) := by
  cases stack with
  | none => exact isConstant_pure none
  | some n =>
    rw [Stack.enter]
    split
    · exact isConstant_pure _
    · exact fun _ _ hm => ⟨.error _, hm⟩

/-- A fault of the stack comes up in both runs or in neither, and is contained in both. -/
theorem IsConstant.containOverflow {r : Run String} (hr : IsConstant g r) (name : String) :
    IsConstant g (containOverflow name r) := by
  intro σ τ hm
  obtain ⟨hend, hm'⟩ := hr σ τ hm
  rw [runFrom_containOverflow, runFrom_containOverflow]
  rcases hσ : r.runFrom σ with ⟨res, σ'⟩
  rcases hτ : r.runFrom τ with ⟨res', τ'⟩
  rw [hσ, hτ] at hend hm'
  cases hend with
  | ok hxy => exact ⟨.ok hxy, hm'⟩
  | error f =>
    dsimp only
    split
    · exact ⟨.ok rfl, hm'⟩
    · exact ⟨.error f, hm'⟩

theorem Corresponds.insideIteration {c : g.Correspondence} {P : α → β → Prop} {r : Run α} {r' : Run β}
    (h : Corresponds c P r r') : Corresponds c P (insideIteration r) (insideIteration r') := by
  intro σ τ hm
  obtain ⟨hend, hm'⟩ := h σ τ hm
  rw [runFrom_insideIteration, runFrom_insideIteration]
  exact ⟨hend.mapError Fault.outOfIteration, hm'⟩

end Run

/-! ### Questions -/

/-- **What is asked of the data depends on no more than what tables have gained**, as long as callables reply
constantly. -/
theorem Graph.Asks.isConstant {g : Graph} (hg : g.RepliesConstantly) {α : Type} {question : Run α}
    (h : g.Asks question) : IsConstant g question := by
  have hvalue (v : Value) : v.Corresponds (Correspondence.identity g).Related v :=
    Value.corresponds_refl (fun _ => rfl) v
  have hlookup (scope : Scope) (name : String) : IsConstant g (g.lookup scope name) :=
    (Correspondence.corresponds_lookup hg (Scope.corresponds_refl (fun _ => rfl) scope) name).mono fun _ _ h => h.eq
  have hempty (v : Value) : IsConstant g (g.empty? v) := Correspondence.corresponds_empty? (hvalue v)
  cases h with
  | interpolate scope name =>
    refine (hlookup scope name).bind fun v => (hempty v).bind fun empty => ?_
    split
    · exact isConstant_pure _
    · exact Correspondence.corresponds_show? (hvalue v)
  | lookup scope name => exact hlookup scope name
  | empty? v => exact hempty v
  | elementScope v => exact (Correspondence.corresponds_elementScope (hvalue v)).mono fun _ _ h => h.eq
  | blockScope scope v =>
    refine (Correspondence.corresponds_blockScope scope scope (hvalue v)).mono ?_
    rintro inner inner' (h | ⟨rfl, rfl⟩)
    · exact h.eq
    · rfl

theorem isCongruence_isConstant {g : Graph} (hg : g.RepliesConstantly) :
    IsCongruence g (fun _ stack stack' => stack = stack') (Run.Corresponds (Correspondence.identity g) Eq) where
  text s := isConstant_pure s
  append hr hu := by
    refine hr.bind ?_
    rintro s _ rfl
    refine hu.bind ?_
    rintro rest _ rfl
    exact isConstant_pure (s ++ rest)
  ask hquestion hk := by
    refine Corresponds.bind (hquestion.isConstant hg) ?_
    rintro x _ rfl
    exact hk x
  iterate := Corresponds.insideIteration
  less _ hstacks := hstacks
  enter := by
    rintro frames n stack _ k k' rfl hk
    refine Corresponds.bind (isConstant_enter stack frames) ?_
    rintro inner _ rfl
    exact hk inner inner rfl

/-! ### Partials -/

namespace Setting

variable {s : Setting}

/-- Partials are looked up in views, which depend on the memory by what tables have gained. -/
theorem isConstant_source? (s : Setting) (name : String) : IsConstant s.graph (s.source? name) := by
  refine corresponds_memory_bind fun m m' hm => ?_
  have hviews : Option.Rel (MapView.Corresponds Eq) (s.graph.partialsView? m s.partials)
      (s.graph.partialsView? m' s.partials) := by
    cases s.partials with
    | value v => exact Correspondence.rel_mapping? hm (Value.corresponds_refl (fun _ => rfl) v)
    | record es => exact .some (.single (Entries.correspond_refl (fun _ => rfl) es))
    | layered v es =>
      refine .some (.layered (List.rel_append ?_ (.cons ⟨Entries.correspond_refl (fun _ => rfl) es, .none⟩ .nil)))
      exact Correspondence.forall₂_layers hm _ (Value.corresponds_refl (fun _ => rfl) v)
  generalize s.graph.partialsView? m s.partials = view?, s.graph.partialsView? m' s.partials = view?' at hviews
  cases hviews with
  | none => exact isConstant_pure none
  | some hview =>
    refine (Correspondence.corresponds_get name hview).bind fun v w hvw => corresponds_memory_bind fun m m' hm => ?_
    rw [Correspondence.truth_eq hm hvw, hvw.eq]
    refine Corresponds.bind (corresponds_ofExcept (.refl (fun _ => rfl) _)) ?_
    rintro b _ rfl
    split
    · split <;> exact isConstant_pure _
    · exact isConstant_pure none

variable (hg : s.graph.RepliesConstantly)

include hg

theorem isInnerCongruence_isConstant : IsInnerCongruence s (Run.Corresponds (Correspondence.identity s.graph) Eq) where
  toIsCongruence := isCongruence_isConstant hg
  source hk := by
    refine Corresponds.bind (s.isConstant_source? _) ?_
    rintro source? _ rfl
    exact hk source?
  report _ hr := Corresponds.bind (isConstant_report _) fun _ _ _ => hr

/-- **Partials inside others are rendered alike** where tables have gained the same. -/
theorem isConstant_inclusionWithin {left : Nat} (hleft : 1 ≤ left) (name : String) (scope : Scope) (stack : Stack) :
    IsConstant s.graph (s.inclusionWithin left name scope stack) :=
  (isInnerCongruence_isConstant hg).inclusionWithin hleft name scope stack

/-- **So are partials that stand in no other.** -/
theorem isConstant_outermost (name : String) (scope : Scope) (stack : Stack) :
    IsConstant s.graph (s.outermost name scope stack) := by
  refine (isInnerCongruence_isConstant hg).inclusion (fun body => IsConstant.containOverflow ?_ name) name 1
  refine (isConstant_enter stack _).bind fun inner => ?_
  exact (isInnerCongruence_isConstant hg).renderWithin _ body scope inner

end Setting

end Stencil
