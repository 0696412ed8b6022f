import Stencil.Overflow
import Stencil.Proofs.Constancy
import Stencil.Proofs.Defaults
import Stencil.Proofs.Visits

/-!
# Partials contain overflows of the stack

The only place where a fault of the stack is handled is the partial that stands in no other. Everything inside it passes
the fault on, and reports nothing of it. So such a partial does what a partial inside others does, with that one
exception (`Stencil.Setting.runFrom_outermost`), and what is to be shown of it follows from what is known of partials
inside others: they report no overflows (`Stencil.Setting.isSilent_inclusionWithin`), and where tables have gained the
same they end alike, so that whether the stack runs out does not depend on what was rendered before
(`Stencil.Setting.overflows_congr`).

A rendering as a whole is compared with two others. With what happens around the partials it shares its faults of the
stack (`Stencil.Run.OverflowsWith`), and with the rendering in which partials that overflow are absent it shares what it
shows (`Stencil.Setting.Omits.render_eq`).
-/

namespace Stencil

open Run

namespace Setting

variable {s : Setting}

/-! ### With and without containment -/

theorem inclusionWithin_limit (s : Setting) (name : String) (scope : Scope) (stack : Stack) :
    s.inclusionWithin s.settings.limit name scope stack = (do
      match ← s.source? name with
      | none => return ""
      | some source =>
        s.expand name source 1 fun t => do
          s.renderWithin (s.settings.limit - 1) t scope (← stack.enter Stack.partialFrames)) := by
  have hlimit : s.settings.limit = s.settings.limit - 1 + 1 := by
    have := s.settings.one_le_limit
    omega
  have hdepth : s.settings.limit - (s.settings.limit - 1) = 1 := by omega
  have hinclusion := s.inclusionWithin_succ (s.settings.limit - 1) name scope stack
  rw [hdepth, ← hlimit] at hinclusion
  exact hinclusion

/-- Reading the source of a partial ends in no fault, so that it makes no difference whether that is contained too. -/
theorem runFrom_expand_containOverflow (s : Setting) (name source : String) (depth : Nat)
    (body : Template → Run String) (σ : RunState) :
    (s.expand name source depth fun t => containOverflow name (body t)).runFrom σ =
      (containOverflow name (s.expand name source depth body)).runFrom σ := by
  rw [runFrom_containOverflow, expand, expand]
  cases Template.parse source with
  | error cause => rfl
  | ok t =>
    dsimp only
    simp only [runFrom_bind_ok (s.runFrom_debug _ _)]
    rw [runFrom_containOverflow]

/-- **A partial that stands in no other does what one inside others does**, but for an overflow of the stack in it. That
it contains: it shows nothing, and reports so. -/
theorem runFrom_outermost (s : Setting) (name : String) (scope : Scope) (stack : Stack) (σ : RunState) :
    (s.outermost name scope stack).runFrom σ =
      let inside := (s.inclusionWithin s.settings.limit name scope stack).runFrom σ
      if s.overflows ⟨name, scope, stack, σ⟩ then
        (.ok "", { inside.2 with events := inside.2.events.push (.stackExceeded name) })
      else inside := by
  dsimp only
  rw [overflows, inclusionWithin_limit, outermost]
  dsimp only
  rcases hsource : (s.source? name).runFrom σ with ⟨f | _ | source, τ⟩
  · -- A fault in asking for the source is not inside the partial, so that nothing contains it.
    rw [runFrom_bind_error hsource, runFrom_bind_error hsource]
    rfl
  · rw [runFrom_bind_ok hsource, runFrom_bind_ok hsource]
    rfl
  · rw [runFrom_bind_ok hsource, runFrom_bind_ok hsource]
    dsimp only
    rw [runFrom_expand_containOverflow, runFrom_containOverflow]
    rcases (s.expand name source 1 fun t => stack.enter Stack.partialFrames >>=
      s.renderWithin (s.settings.limit - 1) t scope).runFrom τ with ⟨f | shown, υ⟩
    · by_cases hf : f.kind = .recursion
      · simp [hf]
      · simp [hf]
    · rfl

end Setting

/-! ### What is reported of overflows -/

namespace Run

variable {α β : Type} {g : Graph}

/-- Whether a run reports no overflow. -/
abbrev IsSilent (r : Run α) : Prop := Reports Event.isOverflow r fun _ => []

theorem IsSilent.bind {r : Run α} {k : α → Run β} (hr : IsSilent r) (hk : ∀ x, IsSilent (k x)) :
    IsSilent (r >>= k) := by
  refine (Reports.bind hr hk).congr fun σ => ?_
  rw [after_nil, List.append_nil]

theorem isSilent_report {e : Event} (he : ∀ name, e ≠ .stackExceeded name) : IsSilent (report e) := by
  refine (reports_report e).congr fun σ => List.filter_eq_nil_iff.mpr ?_
  rw [List.forall_mem_singleton]
  cases e with
  | stackExceeded name => exact absurd rfl (he name)
  | _ => nofun

theorem isInnerCongruence_isSilent (s : Setting) : IsInnerCongruence s fun r _ => IsSilent r where
  text s := reports_pure s
  append hr hu := hr.bind fun s => hu.bind fun rest => reports_pure (s ++ rest)
  ask hquestion hk := IsSilent.bind hquestion.isQuiet.reports hk
  iterate hr := hr.insideIteration
  less _ hstacks := hstacks
  enter := by
    rintro frames n stack _ k k' rfl hk
    exact IsSilent.bind (s.graph.isQuiet_enter stack frames).reports fun inner => hk inner inner rfl
  source hk := IsSilent.bind (s.isQuiet_source? _).reports hk
  report he hr := (isSilent_report he).bind fun _ => hr

end Run

namespace Setting

variable {s : Setting}

/-- **No partial inside others reports an overflow.** -/
theorem isSilent_inclusionWithin (s : Setting) (name : String) (scope : Scope) (stack : Stack) :
    IsSilent (s.inclusionWithin s.settings.limit name scope stack) :=
  (isInnerCongruence_isSilent s).inclusionWithin s.settings.one_le_limit name scope stack

/-- **A partial in which the stack runs out shows nothing**, and after all that is reported inside it, it reports that
once. -/
theorem outermost_of_overflows {v : Visit} (h : s.overflows v = true) :
    ∃ τ inside, (s.outermost v.name v.scope v.stack).runFrom v.state = (.ok "", τ) ∧
      v.state.reportedSince τ = inside ++ [.stackExceeded v.name] ∧ ∀ e ∈ inside, e.isOverflow = false := by
  obtain ⟨inside, hevents, hinside⟩ := s.isSilent_inclusionWithin v.name v.scope v.stack v.state
  rw [runFrom_outermost]
  dsimp only
  rw [if_pos h]
  refine ⟨_, inside, rfl, ?_, fun e he => ?_⟩
  · rw [RunState.reportedSince, Array.toList_push, hevents, List.append_assoc, List.drop_left]
  · simpa using List.filter_eq_nil_iff.mp hinside e he

/-- **A partial that stands in no other reports what one inside others does**, and then, if that is so, that the stack
ran out. -/
theorem reports_outermost_of_within {picked : Event → Bool} {name : String} {scope : Scope} {stack : Stack}
    {l : RunState → List Event} (h : Reports picked (s.inclusionWithin s.settings.limit name scope stack) l) :
    Reports picked (s.outermost name scope stack) fun σ =>
      l σ ++ (if s.overflows ⟨name, scope, stack, σ⟩ then [.stackExceeded name] else []).filter picked := by
  intro σ
  obtain ⟨inside, hevents, hinside⟩ := h σ
  rw [runFrom_outermost]
  dsimp only
  split
  · refine ⟨inside ++ [.stackExceeded name], ?_, ?_⟩
    · rw [Array.toList_push, hevents, List.append_assoc]
    · rw [List.filter_append, hinside]
  · exact ⟨inside, hevents, by rw [hinside, List.filter_nil, List.append_nil]⟩

/-- A partial that stands in no other reports an overflow if the stack runs out in it, and else none. -/
theorem reports_outermost (s : Setting) (name : String) (scope : Scope) (stack : Stack) :
    Reports Event.isOverflow (s.outermost name scope stack) fun σ =>
      if s.overflows ⟨name, scope, stack, σ⟩ then [.stackExceeded name] else [] := by
  refine (reports_outermost_of_within (s.isSilent_inclusionWithin name scope stack)).congr fun σ => ?_
  rw [List.nil_append]
  split <;> rfl

/-- **A rendering reports the overflows of the partials that it meets in no other**, each of them once. -/
theorem filter_isOverflow_render (s : Setting) (t : Template) (scope : Scope) (stack : Stack) (σ : RunState) :
    (σ.reportedSince ((s.render t scope stack).runFrom σ).2).filter Event.isOverflow =
      ((visits s.graph s.outermost t scope stack σ).filter s.overflows).map (.stackExceeded ·.name) := by
  rw [render_eq, (reports_renderParts (fun v => if s.overflows v then [.stackExceeded v.name] else [])
    s.reports_outermost t scope stack).filter_reportedSince]
  -- What the visits report, each one event or none, is what is left of them when they are filtered.
  generalize visits s.graph s.outermost t scope stack σ = met
  induction met with
  | nil => rfl
  | cons v met ih =>
    rw [List.flatMap_cons, ih]
    by_cases hv : s.overflows v <;> simp [hv]

end Setting

/-! ### What happens around the partials -/

namespace Run

variable {α β : Type} {g : Graph}

/-- **Whether a run ends in a fault of the stack only if another one does**, and else does to the state what that one
does, whatever the two show. -/
def OverflowsWith (r : Run α) (r' : Run β) : Prop :=
  ∀ σ, (∀ x σ', r.runFrom σ = (.ok x, σ') → ∃ y, r'.runFrom σ = (.ok y, σ')) ∧
    ∀ f σ', r.runFrom σ = (.error f, σ') → f.kind = .recursion → (r'.runFrom σ).1 = .error f

theorem overflowsWith_pure (x : α) (y : β) : OverflowsWith (pure x : Run α) (pure y : Run β) := by
  refine fun σ => ⟨?_, nofun⟩
  rintro _ _ ⟨⟩
  exact ⟨y, rfl⟩

theorem OverflowsWith.bind {γ δ : Type} {r : Run α} {r' : Run β} {k : α → Run γ} {k' : β → Run δ}
    (hr : OverflowsWith r r') (hk : ∀ x y, OverflowsWith (k x) (k' y)) : OverflowsWith (r >>= k) (r' >>= k') := by
  intro σ
  obtain ⟨hok, herror⟩ := hr σ
  rcases hrun : r.runFrom σ with ⟨f | x, σ'⟩
  · rw [runFrom_bind_error hrun]
    refine ⟨nofun, ?_⟩
    rintro _ _ ⟨⟩ hf
    have hfault := herror f σ' hrun hf
    rw [runFrom_bind_error (τ := (r'.runFrom σ).2) (Prod.ext hfault rfl)]
  · obtain ⟨y, hrun'⟩ := hok x σ' hrun
    rw [runFrom_bind_ok hrun, runFrom_bind_ok hrun']
    exact hk x y σ'

/-- Asking the same, and going on with what is answered. -/
theorem OverflowsWith.bind_self {r : Run α} {k k' : α → Run β} (hk : ∀ x, OverflowsWith (k x) (k' x)) :
    OverflowsWith (r >>= k) (r >>= k') := by
  intro σ
  rcases hrun : r.runFrom σ with ⟨f | x, σ'⟩
  · rw [runFrom_bind_error hrun, runFrom_bind_error hrun]
    exact ⟨nofun, fun _ _ h _ => congrArg Prod.fst h⟩
  · rw [runFrom_bind_ok hrun, runFrom_bind_ok hrun]
    exact hk x σ'

/-- A fault of the stack leaves an iteration as it is. -/
theorem OverflowsWith.insideIteration {r : Run α} {r' : Run β} (hr : OverflowsWith r r') :
    OverflowsWith (insideIteration r) (insideIteration r') := by
  intro σ
  obtain ⟨hok, herror⟩ := hr σ
  rw [runFrom_insideIteration, runFrom_insideIteration]
  rcases hrun : r.runFrom σ with ⟨f | x, σ'⟩
  · refine ⟨nofun, ?_⟩
    rintro _ _ ⟨⟩ hf
    have hend := herror f σ' hrun (Fault.kind_outOfIteration_eq_recursion.mp hf)
    rw [hend]
    rfl
  · refine ⟨?_, nofun⟩
    rintro _ _ ⟨⟩
    obtain ⟨y, hy⟩ := hok x σ' hrun
    exact ⟨y, by rw [hy]; rfl⟩

theorem isCongruence_overflowsWith : IsCongruence g (fun _ stack stack' => stack = stack') OverflowsWith where
  text s := overflowsWith_pure s s
  append hr hu := hr.bind fun s s' => hu.bind fun rest rest' => overflowsWith_pure (s ++ rest) (s' ++ rest')
  ask _ hk := OverflowsWith.bind_self hk
  iterate := OverflowsWith.insideIteration
  less _ hstacks := hstacks
  enter := by
    rintro frames n stack _ k k' rfl hk
    exact OverflowsWith.bind_self fun inner => hk inner inner rfl

end Run

namespace Setting

variable {s : Setting}

/-- A partial that stands in no other ends in a fault of the stack only if asking for its source does. -/
theorem overflowsWith_outermost (s : Setting) (name : String) (scope : Scope) (stack : Stack) :
    OverflowsWith (s.outermost name scope stack) (s.outside name scope stack) := by
  intro σ
  have houtside : (s.outside name scope stack).runFrom σ =
      ((s.source? name) >>= fun _ => do
        set ((s.outermost name scope stack).runFrom σ).2
        return "").runFrom σ := rfl
  rw [houtside]
  rcases hsource : (s.source? name).runFrom σ with ⟨f | source?, τ⟩
  · have hrun : (s.outermost name scope stack).runFrom σ = (.error f, τ) := by
      rw [outermost, runFrom_bind_error hsource]
    rw [runFrom_bind_error hsource, hrun]
    exact ⟨nofun, fun _ _ h _ => congrArg Prod.fst h⟩
  · rw [runFrom_bind_ok hsource]
    refine ⟨fun shown σ' hrun => ⟨"", ?_⟩, fun f σ' hrun hf => ?_⟩
    · rw [hrun]
      rfl
    · rw [runFrom_outermost] at hrun
      dsimp only at hrun
      split at hrun
      · cases hrun
      · -- A fault of the stack inside would have been contained.
        next hfits =>
        refine absurd ?_ hfits
        rw [overflows, hsource, hrun]
        exact decide_eq_true hf

/-! ### Absent partials -/

/-- Whether the stack runs out depends on the entries that tables have gained alone. -/
theorem overflows_congr (hreplies : s.graph.RepliesConstantly) (name : String) (scope : Scope) (stack : Stack)
    {σ τ : RunState} (hgained : σ.memory.gained = τ.memory.gained) :
    s.overflows ⟨name, scope, stack, σ⟩ = s.overflows ⟨name, scope, stack, τ⟩ := by
  have hsource := (s.isConstant_source? name).endsAlike hgained
  have hinside := (isConstant_inclusionWithin hreplies s.settings.one_le_limit name scope stack).endsAlike hgained
  rw [overflows, overflows, hsource.1, hinside.1]

/-- A partial that may be absent does to a template what its absence does. -/
theorem Omits.corresponds {inclusion : String → Scope → Stack → Run String} (h : s.Omits inclusion)
    (hreplies : s.graph.RepliesConstantly) (name : String) (scope : Scope) (stack : Stack) :
    Run.Corresponds (Graph.Correspondence.identity s.graph) Eq (s.outermost name scope stack)
      (inclusion name scope stack) := by
  have hconstant := isConstant_outermost hreplies name scope stack
  intro σ τ hm
  have hgained : σ.memory.gained = τ.memory.gained := funext fun i => (hm i i rfl).eq
  rcases h name scope stack τ with hsame | ⟨hoverflows, hkept, events, habsent⟩
  · rw [hsame]
    exact hconstant σ τ hm
  · -- The two states differ, but tables have gained the same, and so the stack runs out from both.
    have hshown : ((s.outermost name scope stack).runFrom σ).1 = .ok "" := by
      rw [runFrom_outermost]
      dsimp only
      rw [if_pos (overflows_congr hreplies name scope stack hgained ▸ hoverflows)]
    rw [habsent, hshown]
    refine ⟨.ok rfl, Graph.Correspondence.identity_remembers ?_⟩
    exact (hconstant.endsAlike hgained).2.trans hkept

/-- **What the rest of a template shows is what it shows where partials are absent** in which the stack runs out. -/
theorem Omits.render_eq {inclusion : String → Scope → Stack → Run String} (h : s.Omits inclusion)
    (hreplies : s.graph.RepliesConstantly) (t : Template) (scope : Scope) (stack : Stack) (σ : RunState) :
    ((renderParts s.graph inclusion t scope stack).runFrom σ).1 = ((s.render t scope stack).runFrom σ).1 := by
  have hrender : Run.Corresponds (Graph.Correspondence.identity s.graph) Eq
      (renderParts s.graph s.outermost t scope stack) (renderParts s.graph inclusion t scope stack) := by
    refine (isCongruence_isConstant hreplies).renderParts (n := 0) ?_ rfl
    rintro name - scope stack _ rfl
    exact h.corresponds hreplies name scope stack
  rw [Setting.render_eq]
  exact (hrender σ σ (Graph.Correspondence.identity_remembers rfl)).1.eq.symm

/-- What partials do to the memory is what memories do. -/
theorem evolves_outermost (s : Setting) (name : String) (scope : Scope) (stack : Stack) (σ : RunState) :
    s.graph.Evolves σ.memory ((s.outermost name scope stack).runFrom σ).2.memory := by
  have hrender := (s.grows_render (.leaf (.inclusion name) .nil) scope stack).evolves σ
  -- The template that consists of the partial alone.
  have hleaf : s.render (.leaf (.inclusion name) .nil) scope stack =
      (s.outermost name scope stack >>= fun shown => pure (shown ++ "")) := rfl
  rw [hleaf] at hrender
  rcases hrun : (s.outermost name scope stack).runFrom σ with ⟨f | shown, τ⟩
  · rwa [runFrom_bind_error hrun] at hrender
  · rwa [runFrom_bind_ok hrun] at hrender

/-- Where no table has a default, no table gains an entry. -/
theorem gained_eq_of_evolves
    (h : ∀ (place : Nat) (factory : Factory) (fresh : Value) (es : Entries),
      s.graph.nodes[place]? ≠ some (.table (.defaulting factory fresh) es)) {m m' : Memory}
    (hm : s.graph.Evolves m m') : m'.gained = m.gained := by
  induction hm with
  | refl => rfl
  | call place _ ih => exact ih
  | gain key hnode _ _ => exact absurd hnode (h _ _ _ _)

/-- Where no table has a default, all partials may be absent in which the stack runs out. -/
theorem omits_withoutOverflows
    (h : ∀ (place : Nat) (factory : Factory) (fresh : Value) (es : Entries),
      s.graph.nodes[place]? ≠ some (.table (.defaulting factory fresh) es)) : s.Omits s.withoutOverflows := by
  intro name scope stack τ
  have hrun : (s.withoutOverflows name scope stack).runFrom τ =
      (if s.overflows ⟨name, scope, stack, τ⟩ then pure "" else s.outermost name scope stack : Run String).runFrom τ :=
    rfl
  rw [hrun]
  split
  · next hoverflows =>
    exact .inr ⟨hoverflows, gained_eq_of_evolves h (s.evolves_outermost name scope stack τ), τ.events, rfl⟩
  · exact .inl rfl

/-! ### Containment -/

/-- **Overflows of the stack are contained.** If what happens around the partials does not end in a fault of the stack,
then neither does the rendering. A partial in which the stack runs out shows nothing and reports that once, after what
is reported inside it; these are all reports of the kind. And the rest of the template shows what it would show if such
partials were absent, as long as only those are that have made no table gain an entry. -/
theorem overflow_contained (s : Setting) (t : Template) (scope : Scope) (stack : Stack) (σ : RunState)
    (hreplies : s.graph.RepliesConstantly)
    (hfits : ∀ f, ((renderParts s.graph s.outside t scope stack).runFrom σ).1 = .error f → f.kind ≠ .recursion) :
    let rendered := (s.render t scope stack).runFrom σ
    let met := visits s.graph s.outermost t scope stack σ
    (∀ f, rendered.1 = .error f → f.kind ≠ .recursion) ∧
      (∀ v ∈ met, s.overflows v = true →
        ∃ τ inside, (s.outermost v.name v.scope v.stack).runFrom v.state = (.ok "", τ) ∧
          v.state.reportedSince τ = inside ++ [.stackExceeded v.name] ∧ ∀ e ∈ inside, e.isOverflow = false) ∧
      ((σ.reportedSince rendered.2).filter Event.isOverflow).map Event.attributes =
        (met.filter s.overflows).map (fun v => [("partial", .text v.name), ("depth", .int 0)]) ∧
      ∀ inclusion, s.Omits inclusion →
        ((renderParts s.graph inclusion t scope stack).runFrom σ).1 = rendered.1 := by
  refine ⟨fun f hf hrecursion => ?_, fun v _ => outermost_of_overflows, ?_, fun inclusion hinclusion => ?_⟩
  · have houtside : OverflowsWith (s.render t scope stack) (renderParts s.graph s.outside t scope stack) := by
      rw [Setting.render_eq]
      refine isCongruence_overflowsWith.renderParts (n := 0) ?_ rfl
      rintro name - scope stack _ rfl
      exact s.overflowsWith_outermost name scope stack
    exact hfits f ((houtside σ).2 f _ (Prod.ext hf rfl) hrecursion) hrecursion
  · rw [filter_isOverflow_render, List.map_map]
    rfl
  · exact hinclusion.render_eq hreplies t scope stack σ

/-- A partial `p` that contains itself, and another one. -/
def bottomless : Setting where
  graph := ⟨#[.table .plain [(.text "p", .text "x\x7b\x7b>p\x7d\x7d"), (.text "q", .text "y")]], by decide⟩
  settings := .initial
  partials := .value (.ref 0)

/-- The partial that contains itself, between two others. -/
def bottomlessTemplate : Template :=
  .leaf (.inclusion "q") (.leaf (.inclusion "p") (.leaf (.inclusion "q") .nil))

/-- With ten frames the stack runs out long before as many partials are inside each other as allowed. -/
theorem overflow_contained_bottomless :
    let rendered := (bottomless.render bottomlessTemplate (.value .null) (some 10)).runFrom ⟨.fresh, #[]⟩
    bottomless.graph.RepliesConstantly ∧
      (∀ f, ((renderParts bottomless.graph bottomless.outside bottomlessTemplate (.value .null) (some 10)).runFrom
        ⟨.fresh, #[]⟩).1 = .error f → f.kind ≠ .recursion) ∧
      rendered.1 = .ok "yy" ∧
      ((RunState.reportedSince ⟨.fresh, #[]⟩ rendered.2).filter Event.isOverflow).map Event.attributes =
        [[("partial", .text "p"), ("depth", .int 0)]] ∧
      ((renderParts bottomless.graph bottomless.withoutOverflows bottomlessTemplate (.value .null) (some 10)).runFrom
        ⟨.fresh, #[]⟩).1 = .ok "yy" := by
  have hreplies : bottomless.graph.RepliesConstantly := by
    intro place parameters b hnode
    have hmem := Array.mem_of_getElem? hnode
    simp [bottomless] at hmem
  have hdefault : ∀ (place : Nat) (factory : Factory) (fresh : Value) (es : Entries),
      bottomless.graph.nodes[place]? ≠ some (.table (.defaulting factory fresh) es) := by
    intro place factory fresh es hnode
    have hmem := Array.mem_of_getElem? hnode
    simp [bottomless] at hmem
  have hfits : ∀ f, ((renderParts bottomless.graph bottomless.outside bottomlessTemplate (.value .null)
      (some 10)).runFrom ⟨.fresh, #[]⟩).1 = .error f → f.kind ≠ .recursion := by
    intro f hf
    have hok : ((renderParts bottomless.graph bottomless.outside bottomlessTemplate (.value .null)
      (some 10)).runFrom ⟨.fresh, #[]⟩).1 = .ok "" := by decide +kernel
    cases hok.symm.trans hf
  have hrendered : ((bottomless.render bottomlessTemplate (.value .null) (some 10)).runFrom ⟨.fresh, #[]⟩).1 =
      .ok "yy" := by
    decide +kernel
  have hmet : ((visits bottomless.graph bottomless.outermost bottomlessTemplate (.value .null) (some 10)
      ⟨.fresh, #[]⟩).filter bottomless.overflows).map (fun v => [("partial", Value.text v.name), ("depth", .int 0)]) =
        [[("partial", .text "p"), ("depth", .int 0)]] := by
    decide +kernel
  obtain ⟨-, -, hreported, habsent⟩ :=
    overflow_contained bottomless bottomlessTemplate (.value .null) (some 10) ⟨.fresh, #[]⟩ hreplies hfits
  exact ⟨hreplies, hfits, hrendered, hreported.trans hmet,
    (habsent _ (omits_withoutOverflows hdefault)).trans hrendered⟩

/-! ### A partial that leaves something behind

A partial that overflows may have made a table gain an entry, and that is not taken back. -/

/-- A partial `p` that contains itself and shows `c.k`, where `c` is a chain of `d` and a table that has `k`. The table
`d` has a default, so that it answers for `k`, and keeps the answer. -/
def filling : Setting where
  graph := ⟨#[.table .plain [(.text "p", .text "\x7b\x7bc.k\x7d\x7d\x7b\x7b>p\x7d\x7d")],
    .table (.defaulting .int (.int 0)) [], .table .plain [(.text "k", .int 1)], .chain [.ref 1, .ref 2],
    .table .plain [(.text "d", .ref 1), (.text "c", .ref 3)]], by decide⟩
  settings := .initial
  partials := .value (.ref 0)

/-- A block that is there if `d` has entries. -/
def fillingRest : Template := .block .plain "d" (.leaf (.text "X") .nil) .nil

/-- **A partial that overflows may leave an entry behind**, which the rest of the template shows. -/
theorem exists_overflow_not_contained :
    filling.graph.RepliesConstantly ∧
      filling.overflows ⟨"p", .value (.ref 4), some 10, ⟨.fresh, #[]⟩⟩ = true ∧
      ((filling.render (.leaf (.inclusion "p") fillingRest) (.value (.ref 4)) (some 10)).runFrom ⟨.fresh, #[]⟩).1 =
        .ok "X" ∧
      ((filling.render fillingRest (.value (.ref 4)) (some 10)).runFrom ⟨.fresh, #[]⟩).1 = .ok "" := by
  refine ⟨?_, by decide +kernel, by decide +kernel, by decide +kernel⟩
  intro place parameters b hnode
  have hmem := Array.mem_of_getElem? hnode
  simp [filling] at hmem

end Setting

end Stencil
