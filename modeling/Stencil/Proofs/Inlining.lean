import Stencil.Inlining
import Stencil.Proofs.Runs

/-!
# Partials render as if they stood in their places

Partials are met one by one while a template is rendered, each with the scope that the blocks around it have
made, and the number of partials around it decides whether it is rendered at all. Inlining decides the same
beforehand. Rendering the inlined template does what rendering the template does, with one exception: where a
partial is given up because the stack ran out in it, the inlined template has no place to stop at.

That is made precise by `Stencil.Run.Follows`, a relation between runs that says nothing about runs that are
cut short. It is compatible with everything that rendering is made of, so that the proof is one walk over the
template (`Stencil.follows_renderParts_substitute`) inside an induction on the number of levels of partials.
-/

namespace Stencil

namespace Run

variable {α β : Type} {g : Graph} {m : Memory} {lost : Fault → Prop}

/-- **Whether a run ends as another does** from every state with the same memory, which has evolved from `m`: with
the same result and the same memory. Nothing is said where the first run is cut short, that is, where it ends in a
`lost` fault or reports that a partial was given up. -/
def Follows (g : Graph) (m : Memory) (lost : Fault → Prop) (r r' : Run α) : Prop :=
  ∀ σ τ : RunState, g.Evolves m σ.memory → σ.memory = τ.memory → ∃ reported,
    (r.runFrom σ).2.events.toList = σ.events.toList ++ reported ∧
      g.Evolves m (r.runFrom σ).2.memory ∧
      ((∀ name, .stackExceeded name ∉ reported) → (∀ f, (r.runFrom σ).1 = .error f → ¬lost f) →
        (r'.runFrom τ).1 = (r.runFrom σ).1 ∧ (r'.runFrom τ).2.memory = (r.runFrom σ).2.memory)

/-! ### How runs follow each other -/

/-- A quiet run follows itself: it sees nothing but the memory. -/
theorem IsQuiet.follows {r : Run α} (h : IsQuiet g r) : Follows g m lost r r := by
  intro σ τ hσ hmem
  obtain ⟨hres, hmem'⟩ := h.alike hmem
  refine ⟨[], ?_, hσ.trans (h.evolves σ), fun _ _ => ⟨hres.symm, hmem'.symm⟩⟩
  rw [h.events, List.append_nil]

/-- Anything follows a run that is lost. -/
theorem follows_fail {f : Fault} (h : lost f) (r' : Run α) : Follows g m lost (fail f) r' :=
  fun _ _ hσ _ => ⟨[], (List.append_nil _).symm, hσ, fun _ hf => absurd h (hf f rfl)⟩

theorem Follows.bind {r r' : Run α} {k k' : α → Run β} (hr : Follows g m lost r r')
    (hk : ∀ x, Follows g m lost (k x) (k' x)) : Follows g m lost (r >>= k) (r' >>= k') := by
  intro σ τ hevolved hmem
  obtain ⟨first, hevents, hevolved', hsame⟩ := hr σ τ hevolved hmem
  rcases hσ : r.runFrom σ with ⟨res, σ'⟩
  rcases hτ : r'.runFrom τ with ⟨res', τ'⟩
  rw [hσ] at hevents hevolved' hsame
  rw [hτ] at hsame
  cases res with
  | error f =>
    rw [runFrom_bind_error hσ]
    refine ⟨first, hevents, hevolved', fun hclean hlost => ?_⟩
    have hkept : ¬lost f := hlost f rfl
    obtain ⟨hres, hmem'⟩ := hsame hclean (by rintro f' ⟨⟩; exact hkept)
    subst hres
    rw [runFrom_bind_error hτ]
    exact ⟨rfl, hmem'⟩
  | ok x =>
    rw [runFrom_bind_ok hσ]
    -- The continuations start from states with the same memory only if nothing was given up before.
    by_cases hclean : ∀ name, .stackExceeded name ∉ first
    · obtain ⟨hres, hmem'⟩ := hsame hclean (by simp)
      subst hres
      obtain ⟨second, hevents', hevolved'', hsame'⟩ := hk x σ' τ' hevolved' hmem'.symm
      rw [runFrom_bind_ok hτ]
      refine ⟨first ++ second, by rw [hevents', hevents, List.append_assoc], hevolved'', fun hboth => hsame' ?_⟩
      exact fun name hname => hboth name (List.mem_append_right _ hname)
    · obtain ⟨second, hevents', hevolved'', -⟩ := hk x σ' σ' hevolved' rfl
      refine ⟨first ++ second, by rw [hevents', hevents, List.append_assoc], hevolved'', fun hboth => ?_⟩
      exact absurd (fun name hname => hboth name (List.mem_append_left _ hname)) hclean

/-- Whether faults that are lost are lost outside an iteration as well, and overflows of the stack are. -/
structure IsLoss (lost : Fault → Prop) : Prop where
  exhausted : lost .stackExhausted
  iterated {f : Fault} : lost f → lost f.outOfIteration

theorem isLoss_recursion : IsLoss fun f => f.kind = .recursion :=
  ⟨rfl, Fault.kind_outOfIteration_eq_recursion.mpr⟩

theorem isLoss_exhausted : IsLoss (· = .stackExhausted) := by
  refine ⟨rfl, ?_⟩
  rintro _ rfl
  rfl

theorem Follows.insideIteration (hlost : IsLoss lost) {r r' : Run α} (h : Follows g m lost r r') :
    Follows g m lost (insideIteration r) (insideIteration r') := by
  intro σ τ hevolved hmem
  obtain ⟨reported, hevents, hevolved', hsame⟩ := h σ τ hevolved hmem
  rw [runFrom_insideIteration, runFrom_insideIteration]
  refine ⟨reported, hevents, hevolved', fun hclean hkept => ?_⟩
  obtain ⟨hres, hmem'⟩ := hsame hclean fun f hf hlosing => by
    refine hkept f.outOfIteration ?_ (hlost.iterated hlosing)
    rw [hf]
    rfl
  exact ⟨congrArg (Except.mapError Fault.outOfIteration) hres, hmem'⟩

/-- What the first run reports makes no difference. -/
theorem Follows.report (e : Event) {r r' : Run α} (h : Follows g m lost r r') :
    Follows g m lost (Run.report e >>= fun _ => r) r' := by
  intro σ τ hevolved hmem
  obtain ⟨reported, hevents, hevolved', hsame⟩ := h { σ with events := σ.events.push e } τ hevolved hmem
  rw [runFrom_bind_ok (runFrom_report e σ)]
  refine ⟨e :: reported, ?_, hevolved', fun hclean => hsame fun name hname => ?_⟩
  · rw [hevents, Array.toList_push, List.append_assoc, List.singleton_append]
  · exact hclean name (List.mem_cons_of_mem _ hname)

/-- **A partial outside all others contains every fault that is lost inside it**: it reports them all. -/
theorem Follows.containOverflow {r r' : Run String} (h : Follows g m (fun f => f.kind = .recursion) r r')
    (name : String) : Follows g m (· = .stackExhausted) (containOverflow name r) r' := by
  intro σ τ hevolved hmem
  obtain ⟨reported, hevents, hevolved', hsame⟩ := h σ τ hevolved hmem
  rcases hσ : r.runFrom σ with ⟨res, σ'⟩
  rw [hσ] at hevents hevolved' hsame
  rw [Stencil.containOverflow, runFrom_tryCatch, hσ]
  cases res with
  | ok s => exact ⟨reported, hevents, hevolved', fun hclean _ => hsame hclean (by simp)⟩
  | error f =>
    by_cases hf : f.kind = .recursion
    · -- The report that the partial was given up says that nothing is claimed.
      simp only [hf, if_true]
      rw [runFrom_bind_ok (runFrom_report _ σ'), runFrom_pure]
      refine ⟨reported ++ [.stackExceeded name], ?_, hevolved', fun hclean => absurd ?_ (hclean name)⟩
      · rw [Array.toList_push, hevents, List.append_assoc]
      · exact List.mem_append_right _ (List.mem_singleton_self _)
    · simp only [hf, if_false]
      refine ⟨reported, hevents, hevolved', fun hclean _ => hsame hclean ?_⟩
      rintro f' ⟨⟩
      exact hf

end Run

open Run

/-! ### Room on the stack -/

namespace Stack

/-- Whether a stack has no more frames left than another. -/
def AtMost : Stack → Stack → Prop
  | _, none => True
  | none, some _ => False
  | some m, some n => m ≤ n

theorem AtMost.refl (stack : Stack) : stack.AtMost stack := by
  cases stack with
  | none => trivial
  | some n => exact Nat.le_refl n

/-- A nested rendering that has room in the smaller stack has room in the greater one, and then still has at most
as much. -/
theorem AtMost.enter {small great : Stack} (h : small.AtMost great) (frames : Nat) :
    small.enter frames = fail .stackExhausted ∨ ∃ small' great', small.enter frames = pure small' ∧
      great.enter frames = pure great' ∧ small'.AtMost great' ∧ small'.AtMost great := by
  cases small with
  | none =>
    cases great with
    | none => exact .inr ⟨none, none, rfl, rfl, trivial, trivial⟩
    | some n => exact h.elim
  | some m =>
    by_cases hroom : frames ≤ m
    · refine .inr ⟨some (m - frames), ?_⟩
      have hsmall : Stack.enter (some m) frames = pure (some (m - frames)) := if_pos hroom
      cases great with
      | none => exact ⟨none, hsmall, rfl, trivial, trivial⟩
      | some n =>
        have hle : m ≤ n := h
        refine ⟨some (n - frames), hsmall, if_pos (Nat.le_trans hroom hle), ?_, ?_⟩
        · exact Nat.sub_le_sub_right hle frames
        · exact Nat.le_trans (Nat.sub_le m frames) hle
    · exact .inl (if_neg hroom)

end Stack

/-! ### Rendering the parts of a template -/

section Parts

variable {g : Graph} {m : Memory} {lost : Fault → Prop}

/-- Two ways of rendering a body, of which the second has at least as much room, follow each other. -/
abbrev FollowsInside (g : Graph) (m : Memory) (lost : Fault → Prop)
    (body body' : Scope → Stack → Run String) : Prop :=
  ∀ (scope : Scope) (small great : Stack), small.AtMost great →
    Follows g m lost (body scope small) (body' scope great)

/-- Where the smaller stack has no room the run is lost. -/
theorem follows_enter {α : Type} (hlost : IsLoss lost) {small great : Stack} (h : small.AtMost great)
    (frames : Nat) {k k' : Stack → Run α}
    (hk : ∀ small' great', small'.AtMost great' → Follows g m lost (k small') (k' great')) :
    Follows g m lost (small.enter frames >>= k) (great.enter frames >>= k') := by
  rcases h.enter frames with hsmall | ⟨small', great', hsmall, hgreat, hle, -⟩
  · rw [hsmall]
    exact follows_fail hlost.exhausted _
  · rw [hsmall, hgreat, pure_bind, pure_bind]
    exact hk small' great' hle

/-- The same where the second run takes no frames. -/
theorem follows_enter_left {α : Type} (hlost : IsLoss lost) {small great : Stack}
    (h : small.AtMost great) (frames : Nat) {k : Stack → Run α} {r' : Run α}
    (hk : ∀ small', small'.AtMost great → Follows g m lost (k small') r') :
    Follows g m lost (small.enter frames >>= k) r' := by
  rcases h.enter frames with hsmall | ⟨small', -, hsmall, -, -, hle⟩
  · rw [hsmall]
    exact follows_fail hlost.exhausted _
  · rw [hsmall, pure_bind]
    exact hk small' hle

theorem follows_concatMap (hlost : IsLoss lost) {f f' : Value → Run String} (h : ∀ v, Follows g m lost (f v) (f' v))
    (vs : List Value) : Follows g m lost (Graph.concatMap f vs) (Graph.concatMap f' vs) := by
  induction vs with
  | nil => exact (isQuiet_pure "").follows
  | cons v vs ih =>
    exact ((h v).insideIteration hlost).bind fun s => ih.bind fun rest => (isQuiet_pure (s ++ rest)).follows

theorem follows_renderPlain (hlost : IsLoss lost) {body body' : Scope → Stack → Run String}
    (hbody : FollowsInside g m lost body body') (name : String) :
    FollowsInside g m lost (g.renderPlain · · name body) (g.renderPlain · · name body') := by
  intro scope small great hle
  have hlookup : IsQuiet g (g.lookup scope name) := g.isQuiet_lookup scope name
  refine hlookup.follows.bind fun v => (g.isQuiet_empty? v).follows.bind fun empty => ?_
  split
  · exact (isQuiet_pure "").follows
  · split
    · refine follows_concatMap hlost (fun x => ?_) _
      exact (g.isQuiet_elementScope x).follows.bind fun inner => follows_enter hlost hle _ (hbody inner)
    · exact (g.isQuiet_blockScope scope v).follows.bind fun inner => follows_enter hlost hle _ (hbody inner)

theorem follows_renderInverted (hlost : IsLoss lost) {body body' : Scope → Stack → Run String}
    (hbody : FollowsInside g m lost body body') (name : String) :
    FollowsInside g m lost (g.renderInverted · · name body) (g.renderInverted · · name body') := by
  intro scope small great hle
  have hlookup : IsQuiet g (g.lookup scope name) := g.isQuiet_lookup scope name
  refine hlookup.follows.bind fun v => (g.isQuiet_empty? v).follows.bind fun empty => ?_
  split
  · exact follows_enter hlost hle _ (hbody scope)
  · exact (isQuiet_pure "").follows

theorem follows_renderBlock (hlost : IsLoss lost) {body body' : Scope → Stack → Run String}
    (hbody : FollowsInside g m lost body body') (kind : BlockKind) (name : String) :
    FollowsInside g m lost (renderBlock g kind name body) (renderBlock g kind name body') := by
  cases kind with
  | plain => exact follows_renderPlain hlost hbody name
  | inverted => exact follows_renderInverted hlost hbody name

/-- **Parts that stand one after the other render one after the other.** -/
theorem renderParts_append (inclusion : String → Scope → Stack → Run String) (t u : Template) (scope : Scope)
    (stack : Stack) :
    renderParts g inclusion (t ++ u) scope stack = (do
      let first ← renderParts g inclusion t scope stack
      let second ← renderParts g inclusion u scope stack
      return first ++ second) := by
  induction t with
  | nil => simp only [Template.nil_append, renderParts, pure_bind, String.empty_append, bind_pure]
  | leaf l r ih =>
    simp only [Template.leaf_append, renderParts, ih, bind_assoc, pure_bind, String.append_assoc]
  | block k n b r _ ih =>
    simp only [Template.block_append, renderParts, ih, bind_assoc, pure_bind, String.append_assoc]

/-- **Rendering follows when partials are replaced by templates that follow them.** A partial stands for a
template `f name` here, and `inclusion` is how it is rendered otherwise. -/
theorem follows_renderParts_substitute (hlost : IsLoss lost) {f : String → Template}
    {inclusion inclusion' : String → Scope → Stack → Run String}
    (hf : ∀ name, FollowsInside g m lost (inclusion name) (renderParts g inclusion' (f name))) (t : Template) :
    FollowsInside g m lost (renderParts g inclusion t) (renderParts g inclusion' (t.substitute f)) := by
  -- The scope and both stacks stay free in the induction, since blocks change all three.
  induction t with
  | nil => exact fun _ _ _ _ => (isQuiet_pure "").follows
  | leaf l rest ih =>
    intro scope small great hle
    have htail (s : String) : Follows g m lost
        (renderParts g inclusion rest scope small >>= fun tail => pure (s ++ tail))
        (renderParts g inclusion' (rest.substitute f) scope great >>= fun tail => pure (s ++ tail)) :=
      (ih scope small great hle).bind fun tail => (isQuiet_pure (s ++ tail)).follows
    cases l with
    | text s => exact (isQuiet_pure s).follows.bind htail
    | name n =>
      refine Follows.bind (IsQuiet.follows ?_) htail
      exact (g.isQuiet_interpolate scope n).bind fun s => isQuiet_pure (Text.escape s)
    | raw n => exact (g.isQuiet_interpolate scope n).follows.bind htail
    | inclusion n =>
      -- What is put in place of the partial stands in front of the rest, where the partial stood.
      rw [Template.substitute, renderParts_append]
      exact (hf n scope small great hle).bind htail
  | block kind name body rest ihbody ihrest =>
    intro scope small great hle
    refine (follows_renderBlock hlost ihbody kind name scope small great hle).bind fun s => ?_
    exact (ihrest scope small great hle).bind fun tail => (isQuiet_pure (s ++ tail)).follows

end Parts

/-! ### Sources of partials -/

namespace Setting

variable {s : Setting}

/-- Asking for a partial does no more than asking the map for the entry, and fails only where testing the entry for its
truth does. -/
theorem runFrom_source?_of_get {σ τ : RunState} {view : MapView} {name : String} {v : Value}
    (hview : s.graph.partialsView? σ.memory s.partials = some view)
    (hget : (s.graph.get (.text name) view).runFrom σ = (.ok v, τ)) :
    (s.source? name).runFrom σ = ((s.graph.truth τ.memory v).map fun _ => v.source?, τ) := by
  rw [source?, runFrom_bind_ok (runFrom_memory σ), hview]
  dsimp only
  rw [runFrom_bind_ok hget, runFrom_bind_ok (runFrom_memory τ)]
  cases htruth : s.graph.truth τ.memory v with
  | error f => rfl
  | ok b =>
    rw [ofExcept_ok, pure_bind]
    cases v
    case text source =>
      -- A text is true if it is not empty, which is what makes it a source.
      have hb : b = (source != "") := by cases htruth; rfl
      by_cases hsource : source = ""
      · simp [hb, hsource, Value.source?, Except.map]
      · simp [hb, hsource, Value.source?, Except.map]
    all_goals cases b <;> rfl

/-- Asking a single table for a partial has no effect. -/
theorem runFrom_source? {σ : RunState} {es : Entries}
    (hview : s.graph.partialsView? σ.memory s.partials = some (.single es)) (name : String) :
    (s.source? name).runFrom σ =
      ((s.graph.truth σ.memory ((s.graph.find? (.text name) es).getD .null)).map fun _ =>
        ((s.graph.find? (.text name) es).getD .null).source?, σ) :=
  runFrom_source?_of_get hview rfl

/-- Where the partials are no mapping there are none. -/
theorem serves_of_not_mapping (h : ∀ m, s.graph.partialsView? m s.partials = none) (m : Memory) :
    s.Serves m fun _ => none := by
  intro name state _
  rw [source?, runFrom_bind_ok (runFrom_memory state), h]
  rfl

/-- **A table without a default serves the texts in it that are not empty**, if none of its values fails when its
truth is tested. -/
theorem serves_of_table {v : Value} {kind : TableKind} {es : Entries} (hpartials : s.partials = .value v)
    (hnode : s.graph.node? v = some (.table kind es)) (hkind : ∀ factory fresh, kind ≠ .defaulting factory fresh)
    (htruth : ∀ e ∈ es, ∀ m, ∃ b, s.graph.truth m e.2 = .ok b) (m : Memory) :
    s.Serves m fun name => ((s.graph.find? (.text name) es).getD .null).source? := by
  intro name state _
  have hview : s.graph.partialsView? state.memory s.partials = some (.single es) := by
    rw [hpartials]
    exact Graph.mapping?_of_table hnode hkind state.memory
  rw [runFrom_source? hview]
  obtain ⟨b, hb⟩ := Graph.exists_truth_getD_find? (fun e he => htruth e he state.memory) (.text name)
  rw [hb]
  rfl

end Setting

/-! ### Partials at every level -/

section Levels

variable {s : Setting} {m : Memory} {sources : Sources} {lost : Fault → Prop}

/-- The run that asks for a partial goes on with its source. -/
theorem Setting.Serves.source?_bind {α : Type} (hs : s.Serves m sources) (name : String)
    {k : Option String → Run α} {r' : Run α} (h : Follows s.graph m lost (k (sources name)) r') :
    Follows s.graph m lost (s.source? name >>= k) r' := by
  intro σ τ hevolved hmem
  rw [runFrom_bind_ok (hs name σ hevolved)]
  exact h σ τ hevolved hmem

/-- Debug events make no difference. -/
theorem follows_debug {α : Type} (e : Event) {r r' : Run α} (h : Follows s.graph m lost r r') :
    Follows s.graph m lost (s.debug e >>= fun _ => r) r' := by
  rw [Setting.debug]
  split
  · exact h.report e
  · exact h

/-- A partial follows the template that is put in its place if, where its source can be read, its body does. -/
theorem Setting.Serves.follows_inclusion (hs : s.Serves m sources) {name : String} {depth : Nat}
    {body : Template → Run String} {next : Template → Template}
    {inclusion' : String → Scope → Stack → Run String} {scope : Scope} {stack : Stack}
    (hbody : ∀ t, Follows s.graph m lost (body t) (renderParts s.graph inclusion' (next t) scope stack)) :
    Follows s.graph m lost
      (do
        match ← s.source? name with
        | none => return ""
        | some source => s.expand name source depth body)
      (renderParts s.graph inclusion'
        (match sources.template? name with
          | none => .nil
          | some t => next t) scope stack) := by
  refine hs.source?_bind name ?_
  have hempty : Follows s.graph m lost (pure "") (renderParts s.graph inclusion' .nil scope stack) :=
    (isQuiet_pure "").follows
  cases hname : sources name with
  | none =>
    have htemplate : sources.template? name = none := by rw [Sources.template?, hname]; rfl
    rw [htemplate]
    exact hempty
  | some source =>
    dsimp only
    rw [Setting.expand]
    cases hparse : Template.parse source with
    | error cause =>
      have htemplate : sources.template? name = none := by
        rw [Sources.template?, hname, Option.bind_eq_bind, Option.bind_some, hparse]
        rfl
      rw [htemplate]
      exact hempty.report _
    | ok t =>
      have htemplate : sources.template? name = some t := by
        rw [Sources.template?, hname, Option.bind_eq_bind, Option.bind_some, hparse]
        rfl
      rw [htemplate]
      exact follows_debug _ (follows_debug _ (hbody t))

/-- **Partials inside others follow the template with them put in their places**, `levels` of them inside each
other. -/
theorem Setting.Serves.follows_renderWithin (hs : s.Serves m sources)
    (inclusion' : String → Scope → Stack → Run String) (levels : Nat) (t : Template) :
    FollowsInside s.graph m (fun f => f.kind = .recursion) (s.renderWithin levels t)
      (renderParts s.graph inclusion' (t.inline sources levels)) := by
  -- The body of a partial is no part of `t`, so the induction is on the levels, and for all templates.
  induction levels generalizing t with
  | zero =>
    refine follows_renderParts_substitute isLoss_recursion (fun name scope small great hle => ?_) t
    refine hs.source?_bind name ?_
    cases sources name with
    | none => exact (isQuiet_pure "").follows
    | some source => exact Follows.report _ (isQuiet_pure "").follows
  | succ levels ih =>
    refine follows_renderParts_substitute isLoss_recursion (fun name scope small great hle => ?_) t
    refine hs.follows_inclusion fun body => ?_
    exact follows_enter_left isLoss_recursion hle _ fun small' hle' => ih body scope small' great hle'

/-- **A template follows itself with the partials put in their places.** -/
theorem Setting.Serves.follows_render (hs : s.Serves m sources)
    (inclusion' : String → Scope → Stack → Run String) (t : Template) :
    FollowsInside s.graph m (· = .stackExhausted) (s.render t)
      (renderParts s.graph inclusion' (t.inline sources s.settings.limit)) := by
  have hlimit : s.settings.limit = s.settings.limit - 1 + 1 := by
    have := s.settings.one_le_limit
    omega
  rw [hlimit]
  refine follows_renderParts_substitute isLoss_exhausted (fun name scope small great hle => ?_) t
  refine hs.follows_inclusion fun body => ?_
  refine Follows.containOverflow (follows_enter_left isLoss_recursion hle _ fun small' hle' => ?_) name
  exact hs.follows_renderWithin inclusion' _ body scope small' great hle'

/-- **Rendering a template does what rendering it with the partials put in their places does**: the result is the
same, be it text or a fault, and so are the calls of callables. The stack must not run out, and no partial may be
given up. -/
theorem Setting.render_inline (s : Setting) (sources : Sources) (t : Template) (scope : Scope) (stack : Stack)
    (σ : RunState) (hs : s.Serves σ.memory sources)
    (hstack : ((s.render t scope stack).runFrom σ).1 ≠ .error .stackExhausted)
    (hkept : ∀ name, .stackExceeded name ∉ σ.reportedSince ((s.render t scope stack).runFrom σ).2) :
    let inlined := { s with partials := .value .null }.render (t.inline sources s.settings.limit) scope stack
    (inlined.runFrom σ).1 = ((s.render t scope stack).runFrom σ).1 ∧
      (inlined.runFrom σ).2.memory = ((s.render t scope stack).runFrom σ).2.memory := by
  -- Both renderings start with the same stack, and from the same state.
  obtain ⟨reported, hevents, -, hsame⟩ := hs.follows_render _ t scope stack stack (.refl stack) σ σ .refl rfl
  have hreported : σ.reportedSince ((s.render t scope stack).runFrom σ).2 = reported := by
    rw [RunState.reportedSince, hevents, List.drop_left]
  rw [hreported] at hkept
  refine hsame hkept ?_
  rintro f hf rfl
  exact hstack hf

end Levels

/-! ### A partial that contains itself -/

namespace Setting

/-- The source of a partial `p` that shows an item and then itself. -/
def echoEntries : Entries := [(.text "p", .text "\x7b\x7b.\x7d\x7d\x7b\x7b>p\x7d\x7d")]

/-- A list `xs` to render, and partials of which two may be inside each other. -/
def echo : Setting where
  graph := ⟨#[.sequence .list [.text "a", .text "b"], .table .plain [(.text "xs", .ref 0)],
    .table .plain echoEntries], by decide⟩
  settings := ⟨false, 2, by decide⟩
  partials := .value (.ref 2)

/-- The partial inside a list section. -/
def echoTemplate : Template := .block .plain "xs" (.leaf (.inclusion "p") .nil) .nil

/-- The texts that the partials serve. -/
def echoSources : Sources := fun name => ((echo.graph.find? (.text name) echoEntries).getD .null).source?

theorem echo_serves : echo.Serves .fresh echoSources := by
  have hnode : echo.graph.node? (.ref 2) = some (.table .plain echoEntries) := rfl
  refine serves_of_table rfl hnode nofun (fun e he m => ?_) .fresh
  obtain rfl := List.mem_singleton.mp he
  exact ⟨true, rfl⟩

/-- Each item is shown as often as partials may be inside each other. -/
theorem render_inline_echo :
    let rendered := (echo.render echoTemplate (.value (.ref 1)) none).runFrom ⟨.fresh, #[]⟩
    let inlined := { echo with partials := .value .null }.render
      (echoTemplate.inline echoSources echo.settings.limit) (.value (.ref 1)) none
    rendered.1.toOption = some "aabb" ∧ (inlined.runFrom ⟨.fresh, #[]⟩).1 = rendered.1 ∧
      (inlined.runFrom ⟨.fresh, #[]⟩).2.memory = rendered.2.memory := by
  have hresult : ((echo.render echoTemplate (.value (.ref 1)) none).runFrom ⟨.fresh, #[]⟩).1.toOption =
      some "aabb" := by
    decide +kernel
  have hreported : RunState.reportedSince ⟨.fresh, #[]⟩
      ((echo.render echoTemplate (.value (.ref 1)) none).runFrom ⟨.fresh, #[]⟩).2 =
        [.limitReached "p" 2, .limitReached "p" 2] := by
    decide +kernel
  refine ⟨hresult, render_inline echo echoSources echoTemplate (.value (.ref 1)) none ⟨.fresh, #[]⟩ echo_serves
    (fun hstack => ?_) (fun name hname => ?_)⟩
  · rw [hstack] at hresult
    cases hresult
  · rw [hreported] at hname
    simp at hname

end Setting

/-! ### Where rendering and inlining differ

An entry of the partials whose truth cannot be tested is no source, and so it is left out when partials are put in
their places; but rendering fails at it. And a fault of the kind `recursion` that is raised by the data is contained
by a partial like any other, while the inlined template has nothing to contain it. -/

namespace Setting

/-- A partial `p` whose truth cannot be tested. -/
def untestable : Setting where
  graph := ⟨#[.table .plain [(.text "p", .ref 1)], .object "obj" (.fails .value "truth value is ambiguous")], by decide⟩
  settings := .initial
  partials := .value (.ref 0)

/-- The source of a partial `p` that calls `f`. -/
def callingEntries : Entries := [(.text "p", .text "\x7b\x7bf\x7d\x7d")]

/-- A callable `f` that fails as if the stack had run out. -/
def overflowing : Setting where
  graph := ⟨#[.table .plain callingEntries, .table .plain [(.text "f", .ref 2)],
    .callable (some []) (.fails .recursion "deep")], by decide⟩
  settings := .initial
  partials := .value (.ref 0)

/-- The texts that the partials serve. -/
def callingSources : Sources := fun name => ((overflowing.graph.find? (.text name) callingEntries).getD .null).source?

theorem overflowing_serves : overflowing.Serves .fresh callingSources := by
  have hnode : overflowing.graph.node? (.ref 0) = some (.table .plain callingEntries) := rfl
  refine serves_of_table rfl hnode nofun (fun e he m => ?_) .fresh
  obtain rfl := List.mem_singleton.mp he
  exact ⟨true, rfl⟩

/-- The template that is nothing but the partial `p`. -/
def inclusionOnly : Template := .leaf (.inclusion "p") .nil

/-- **Rendering and inlining differ at an entry that cannot be tested, and at a callable that fails as if the stack
had run out**, though asking for a partial has no effect and the stack is without end. -/
theorem exists_render_ne_inline :
    ((∀ name σ, ((untestable.source? name).runFrom σ).2 = σ) ∧
      ((untestable.render inclusionOnly (.value .null) none).runFrom ⟨.fresh, #[]⟩).1 =
        .error (.raised .value "truth value is ambiguous") ∧
      (({ untestable with partials := .value .null }.render
        (inclusionOnly.inline (fun _ => none) untestable.settings.limit) (.value .null) none).runFrom
          ⟨.fresh, #[]⟩).1 = .ok "") ∧
    (overflowing.Serves .fresh callingSources ∧
      ((overflowing.render inclusionOnly (.value (.ref 1)) none).runFrom ⟨.fresh, #[]⟩).1 = .ok "" ∧
      (({ overflowing with partials := .value .null }.render
        (inclusionOnly.inline callingSources overflowing.settings.limit) (.value (.ref 1)) none).runFrom
          ⟨.fresh, #[]⟩).1 = .error (.raised .recursion "deep")) := by
  refine ⟨⟨fun name σ => ?_, rfl, rfl⟩, overflowing_serves, rfl, rfl⟩
  have hview : untestable.graph.partialsView? σ.memory untestable.partials = some (.single [(.text "p", .ref 1)]) :=
    rfl
  rw [runFrom_source? hview]

end Setting

end Stencil
