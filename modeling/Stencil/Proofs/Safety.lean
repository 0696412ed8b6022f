import Mathlib.Algebra.Group.Int.Defs
import Stencil.Proofs.Stages
import Stencil.Safety

/-!
# Rendering fails only where the data fails

A rendering that ends in a fault passes a stage at which the fault arises (`Stencil.Setting.outcome_eq_error_iff`). So
it is enough to look at one stage, and to see that its question is answered (`Stencil.Setting.IsSafe.answer_cases`):
what is asked for there does not fail as long as the data is safe in the sense of `Stencil.Setting.IsSafe`, with one
exception. The stack may be exhausted inside a partial, but from there no fault comes out.

Most of the work is in resolving a name. Values along a path are tested before they are looked into, so that what has
been tested can be looked into as well (`Stencil.Graph.exists_mapLike?_of_isEmpty`); the walk is an induction on the
segments (`Stencil.Graph.exists_walk`).
-/

namespace Stencil

open Run

/-! ### Looking at values -/

namespace Graph

variable {g : Graph} {m : Memory} {σ : RunState} {v : Value}

theorem exists_answer (key : Value) (ls : List Layer) (σ : RunState) :
    ∃ v, ((g.answer key ls).runFrom σ).1 = .ok v := by
  induction ls with
  | nil => exact ⟨.null, rfl⟩
  | cons l ls ih =>
    rw [answer]
    split
    · exact ⟨_, rfl⟩
    · exact ⟨_, rfl⟩
    · exact ih

/-- Looking up a key in a map does not fail. -/
theorem exists_get (key : Value) (view : MapView) (σ : RunState) :
    ∃ v, ((g.get key view).runFrom σ).1 = .ok v := by
  cases view with
  | single es => exact ⟨_, rfl⟩
  | layered ls =>
    rw [get]
    split
    · exact exists_answer key ls σ
    · exact ⟨.null, rfl⟩

theorem exists_declaredFields {type : String} {attributes : List (String × Value)} {names : List String}
    (h : ∀ name ∈ names, (attributes.lookup name).isSome) :
    ∃ es, declaredFields type attributes names = .ok es := by
  induction names with
  | nil => exact ⟨[], rfl⟩
  | cons name names ih =>
    obtain ⟨v, hv⟩ := Option.isSome_iff_exists.mp (h name List.mem_cons_self)
    obtain ⟨es, hes⟩ := ih fun n hn => h n (List.mem_cons_of_mem _ hn)
    rw [declaredFields, hv, hes]
    exact ⟨_, rfl⟩

/-- Whether a value is map-like can be told if it has the fields that its type declares. -/
theorem exists_mapLike? (h : ∀ type names attributes, g.node? v = some (.model type (some names) attributes) →
    ∀ name ∈ names, (attributes.lookup name).isSome) (m : Memory) : ∃ view?, g.mapLike? m v = .ok view? := by
  unfold mapLike?
  split
  · exact ⟨_, rfl⟩
  · next type names attributes hnode =>
    have hset : ∀ name ∈ names.eraseDups, (attributes.lookup name).isSome :=
      fun name hname => h type names attributes hnode name (List.mem_eraseDups.mp hname)
    obtain ⟨es, hes⟩ := exists_declaredFields hset
    rw [hes]
    exact ⟨_, rfl⟩
  · exact ⟨_, rfl⟩

/-- Whether a value is empty can be told if it can be counted, looked at as a map, and tested for its truth. -/
theorem exists_isEmpty (hcount : ∀ xs, g.elements? v = some xs → xs.size < sizeLimit)
    (hview : ∃ view?, g.mapLike? m v = .ok view?)
    (htruth : ∀ f, g.truth m v = .error f → f.kind = .type ∨ f.kind = .value) : ∃ b, g.isEmpty m v = .ok b := by
  unfold isEmpty
  cases helements : g.elements? v with
  | some xs => exact ⟨xs.size == 0, if_pos (hcount xs helements)⟩
  | none =>
    obtain ⟨view?, hview⟩ := hview
    rw [hview]
    cases view? with
    | some view => exact ⟨view.isEmpty, rfl⟩
    | none =>
      cases hres : g.truth m v with
      | ok b => exact ⟨!b, rfl⟩
      | error f =>
        refine ⟨false, ?_⟩
        rcases htruth f hres with hkind | hkind <;> simp [hkind]

/-- **What has been tested can be looked into**: a sequence is no object with declared fields, and anything else is
looked at as a map when it is tested. -/
theorem exists_mapLike?_of_isEmpty {b : Bool} (h : g.isEmpty m v = .ok b) : ∃ view?, g.mapLike? m v = .ok view? := by
  rw [isEmpty] at h
  cases helements : g.elements? v with
  | some xs =>
    refine exists_mapLike? (fun type names attributes hnode => ?_) m
    rw [elements?, hnode] at helements
    cases helements
  | none =>
    rw [helements] at h
    cases hview : g.mapLike? m v with
    | ok view? => exact ⟨view?, rfl⟩
    | error f =>
      rw [hview] at h
      cases h

/-! ### Resolving names -/

theorem exists_child (h : ∃ view?, g.mapLike? σ.memory v = .ok view?) (key : String) :
    ∃ w τ, (g.child v key).runFrom σ = (.ok w, τ) := by
  obtain ⟨view?, hview⟩ := h
  rw [child, runFrom_bind_ok (runFrom_memory σ), hview, ofExcept_ok, pure_bind]
  cases view? with
  | some view =>
    obtain ⟨w, hw⟩ := exists_get (g := g) (.text key) view σ
    exact ⟨w, _, Prod.ext hw rfl⟩
  | none =>
    dsimp only
    split <;> exact ⟨_, _, rfl⟩

/-- **Segments can be followed if the values along them can be tested.** -/
theorem exists_walk {ss : List String} (h : ∀ w τ, g.TestsAlong v ss σ w τ → ∃ b, g.isEmpty τ.memory w = .ok b) :
    ∃ w τ, (g.walk v ss).runFrom σ = (.ok w, τ) := by
  induction ss generalizing v σ with
  | nil => exact ⟨v, σ, rfl⟩
  | cons s ss ih =>
    obtain ⟨b, hb⟩ := h v σ .here
    have hempty : (g.empty? v).runFrom σ = (.ok b, σ) := by rw [runFrom_empty?, hb]
    rw [walk, runFrom_bind_ok hempty]
    cases b with
    | true => exact ⟨v, σ, rfl⟩
    | false =>
      obtain ⟨w, ρ, hw⟩ := exists_child (exists_mapLike?_of_isEmpty hb) s
      rw [if_neg Bool.false_ne_true, runFrom_bind_ok hw]
      exact ih fun x τ hx => h x τ (.further hb hw hx)

/-- A key can be looked up in a scope, if that is not a value that cannot be looked into. -/
theorem exists_scopeChild {scope : Scope} (h : ∀ u, scope = .value u → ∃ view?, g.mapLike? σ.memory u = .ok view?)
    (key : String) : ∃ w τ, (g.scopeChild scope key).runFrom σ = (.ok w, τ) := by
  cases scope with
  | value u => exact exists_child (h u rfl) key
  | record es => exact ⟨_, _, rfl⟩
  | layered u es =>
    obtain ⟨w, hw⟩ := exists_get (g := g) (.text key) (g.scopeView σ.memory (.layered u es)) σ
    rw [scopeChild, runFrom_bind_ok (runFrom_memory σ)]
    exact ⟨w, _, Prod.ext hw rfl⟩

/-- **A name can be resolved** if the values along its path can be tested, or, if it is no path, the scope can be looked
into. -/
theorem exists_resolve {scope : Scope} {name : String}
    (hpath : isPath name = true → ∀ w τ, g.TestsInScope scope σ (segments name) w τ → ∃ b, g.isEmpty τ.memory w = .ok b)
    (hkey : isPath name = false → ∀ u, scope = .value u → ∃ view?, g.mapLike? σ.memory u = .ok view?) :
    ∃ w τ, (g.resolve scope name).runFrom σ = (.ok w, τ) := by
  rw [resolve]
  cases hname : isPath name with
  | false => exact exists_scopeChild (hkey hname) name
  | true =>
    rw [if_pos rfl]
    have htested := hpath hname
    cases hss : segments name with
    | nil => exact ⟨.null, σ, rfl⟩
    | cons s ss =>
      rw [hss] at htested
      -- A value is tested before its first segment is looked up, and any other scope is not.
      by_cases hvalue : ∃ u, scope = .value u
      · obtain ⟨u, rfl⟩ := hvalue
        exact exists_walk fun w τ hw => htested w τ (.value rfl hw)
      · have hother : ∀ u, scope ≠ .value u := not_exists.mp hvalue
        obtain ⟨w, ρ, hw⟩ := exists_scopeChild (g := g) (σ := σ) (fun u hu => absurd hu (hother u)) s
        obtain ⟨x, τ, hx⟩ := exists_walk fun x τ hx => htested x τ (.behind hother hw hx)
        refine ⟨x, τ, ?_⟩
        cases scope with
        | value u => exact absurd rfl (hother u)
        | record es => exact (runFrom_bind_ok hw _).trans hx
        | layered u es => exact (runFrom_bind_ok hw _).trans hx

/-- Calling a value fails only in one way: it is a callable that fails, and it is called. -/
theorem exists_failsAt_of_invoke {v : Value} {σ : RunState} {f : Fault}
    (h : ((g.invoke v).runFrom σ).1 = .error f) :
    ∃ place, g.FailsAt place ∧ ((g.invoke v).runFrom σ).2.memory = σ.memory.call place := by
  revert h
  unfold invoke
  split
  · next place parameters behaviour hnode =>
    split
    · cases behaviour with
      | fails kind text => exact fun _ => ⟨place, ⟨parameters, kind, text, hnode⟩, rfl⟩
      | replies first later => nofun
    · nofun
  · split <;> nofun
  · nofun

/-- No call is taken back. -/
theorem Evolves.calls_le {m' : Memory} (h : g.Evolves m m') (place : Nat) : m.calls place ≤ m'.calls place := by
  induction h with
  | refl => exact Nat.le_refl _
  | call _ _ ih => exact Nat.le_trans ih List.count_le_count_cons
  | gain _ _ _ ih => exact ih

theorem mem_nodes_of_node? {n : Node} (h : g.node? v = some n) : n ∈ g.nodes := by
  cases v
  case ref place => exact Array.mem_of_getElem? h
  all_goals cases h

/-- Only objects fail when their truth is tested. -/
theorem exists_node_of_truth_eq_error {v : Value} {f : Fault} (h : g.truth m v = .error f) :
    ∃ text kind message, g.node? v = some (.object text (.fails kind message)) ∧ f = .raised kind message := by
  cases v
  case ref place =>
    unfold truth at h
    dsimp only at h
    split at h
    · cases h
    · cases h
    · cases h
    · next text kind message hnode =>
      cases h
      exact ⟨text, kind, message, hnode, rfl⟩
    · split at h <;> cases h
    · cases h
  all_goals cases h

end Graph

/-! ### Stages with safe data -/

namespace Setting

variable {s : Setting} {a b : Stage} {name : String}

/-- A partial can be asked for if its entry can be tested for its truth. -/
theorem exists_source?_of_truth {σ : RunState} (h : ∀ view v τ,
    s.graph.partialsView? σ.memory s.partials = some view → (s.graph.get (.text name) view).runFrom σ = (.ok v, τ) →
      ∃ t, s.graph.truth τ.memory v = .ok t) : ∃ source? τ, (s.source? name).runFrom σ = (.ok source?, τ) := by
  rw [source?, runFrom_bind_ok (runFrom_memory σ)]
  cases hview : s.graph.partialsView? σ.memory s.partials with
  | none => exact ⟨none, σ, rfl⟩
  | some view =>
    obtain ⟨v, hv⟩ := s.graph.exists_get (.text name) view σ
    rcases hget : (s.graph.get (.text name) view).runFrom σ with ⟨res, τ⟩
    rw [hget] at hv
    subst hv
    obtain ⟨t, ht⟩ := h view v τ hview hget
    dsimp only
    rw [runFrom_bind_ok hget, runFrom_bind_ok (runFrom_memory τ), ht, ofExcept_ok, pure_bind]
    cases t with
    | false => exact ⟨none, τ, rfl⟩
    | true => cases v <;> exact ⟨_, τ, rfl⟩

theorem Testable.exists_source? {m : Memory} (hs : s.Testable m) (name : String) {σ : RunState}
    (hσ : s.graph.Evolves m σ.memory) : ∃ source?, ((s.source? name).runFrom σ).1 = .ok source? := by
  obtain ⟨source?, τ, hsource⟩ := exists_source?_of_truth fun view v τ => hs name σ τ view v hσ
  exact ⟨source?, congrArg Prod.fst hsource⟩

/-- A table without a default is testable if its values are. -/
theorem testable_of_table {v : Value} {kind : TableKind} {es : Entries}
    (hpartials : s.partials = .value v) (hnode : s.graph.node? v = some (.table kind es))
    (hkind : ∀ factory fresh, kind ≠ .defaulting factory fresh)
    (htruth : ∀ e ∈ es, ∀ m, ∃ b, s.graph.truth m e.2 = .ok b) (m : Memory) : s.Testable m := by
  intro name σ σ' view w _ hview hget
  have hsingle : s.graph.partialsView? σ.memory s.partials = some (.single es) := by
    rw [hpartials]
    exact Graph.mapping?_of_table hnode hkind σ.memory
  rw [hsingle] at hview
  obtain rfl := Option.some.inj hview
  cases hget
  exact Graph.exists_truth_getD_find? (fun e he => htruth e he _) (.text name)

/-- A stage that looks up a name begins with that. -/
theorem exists_question_of_looksUp {j : Job} (h : j.LooksUp name) :
    ∃ k, s.question j = s.graph.lookup j.scope name >>= k := by
  obtain ⟨depth, task, scope, stack⟩ := j
  rcases h with @⟨l, rest, htask, hname⟩ | @⟨kind, body, rest, htask⟩
  · obtain rfl : task = .template (.leaf l rest) := htask
    cases l with
    | text shown => cases hname
    | inclusion n => cases hname
    | name n =>
      obtain rfl : n = name := Option.some.inj hname
      exact ⟨_, by simp only [question, Graph.interpolate, bind_assoc]; rfl⟩
    | raw n =>
      obtain rfl : n = name := Option.some.inj hname
      exact ⟨_, by simp only [question, Graph.interpolate, bind_assoc]; rfl⟩
  · obtain rfl : task = .template (.block kind name body rest) := htask
    exact ⟨_, rfl⟩

namespace IsSafe

variable (h : s.IsSafe a) (hpasses : s.Passes a b)

include h hpasses

/-- Whether a value is empty can be told where it is tested. -/
theorem exists_isEmpty {v : Value} {m : Memory} (htests : s.Tests b v m) :
    ∃ empty, s.graph.isEmpty m v = .ok empty := by
  refine Graph.exists_isEmpty (fun _ => h.countable hpasses htests) ?_ (fun _ => h.truth hpasses htests)
  exact Graph.exists_mapLike? (fun _ _ _ => h.declared hpasses (.inl ⟨m, htests⟩)) m

theorem exists_mapLike? {v : Value} (hviews : b.Views v) (m : Memory) : ∃ view?, s.graph.mapLike? m v = .ok view? :=
  Graph.exists_mapLike? (fun _ _ _ => h.declared hpasses (.inr hviews)) m

/-- **A name that is looked up stands for something.** -/
theorem exists_lookup (hname : b.LooksUp name) : ∃ v τ, (s.graph.lookup b.scope name).runFrom b.state = (.ok v, τ) := by
  obtain ⟨v, ρ, hv⟩ : ∃ v ρ, (s.graph.resolve b.scope name).runFrom b.state = (.ok v, ρ) := by
    refine Graph.exists_resolve (fun hpath w τ hw => ?_) fun hkey u hu => ?_
    · exact h.exists_isEmpty hpasses (.along hname hpath hw)
    · exact h.exists_mapLike? hpasses (.scope hname hkey hu) b.state.memory
  have hlookup : (s.graph.lookup b.scope name).runFrom b.state = (s.graph.invoke v).runFrom ρ := runFrom_bind_ok hv _
  rcases hinvoke : (s.graph.invoke v).runFrom ρ with ⟨f | w, τ⟩
  · -- It is a callable then, whose call is one at this stage.
    obtain ⟨place, hfails, hcalled⟩ := Graph.exists_failsAt_of_invoke (congrArg Prod.fst hinvoke)
    obtain ⟨k, hk⟩ := exists_question_of_looksUp (s := s) hname
    have hanswer : s.answer b = (.error f, τ) := by rw [answer, hk, runFrom_bind_error (hlookup.trans hinvoke)]
    have hbefore : b.state.memory.calls place ≤ ρ.memory.calls place := by
      have hevolves := (s.graph.isQuiet_resolve b.scope name).evolves b.state
      rw [hv] at hevolves
      exact hevolves.calls_le place
    have hcalls : s.Calls b place := by
      have hlast : (ρ.memory.call place).calls place = ρ.memory.calls place + 1 := List.count_cons_self
      rw [hinvoke] at hcalled
      rw [Calls, hanswer, hcalled, hlast]
      exact Nat.lt_succ_of_le hbefore
    exact absurd hfails (h.calls hpasses hcalls)
  · exact ⟨w, τ, hlookup.trans hinvoke⟩

/-- What is shown for a name has a text. -/
theorem exists_interpolate {l : Leaf} {rest : Template} (htask : b.task = .template (.leaf l rest))
    (hl : l = .name name ∨ l = .raw name) :
    ∃ text τ, (s.graph.interpolate b.scope name).runFrom b.state = (.ok text, τ) := by
  have hname : b.LooksUp name := .leaf htask (by rcases hl with rfl | rfl <;> rfl)
  obtain ⟨v, τ, hv⟩ := h.exists_lookup hpasses hname
  obtain ⟨empty, hempty⟩ := h.exists_isEmpty hpasses (.found hname hv)
  have hasked : (s.graph.empty? v).runFrom τ = (.ok empty, τ) := by rw [Graph.runFrom_empty?, hempty]
  rw [Graph.interpolate, runFrom_bind_ok hv, runFrom_bind_ok hasked]
  cases empty with
  | true => exact ⟨"", τ, rfl⟩
  | false =>
    obtain ⟨text, htext⟩ := h.texts hpasses (.intro htask hl hv hempty)
    refine ⟨text, τ, ?_⟩
    rw [if_neg Bool.false_ne_true, Graph.runFrom_show?, htext]

/-- The source of a partial is found or missing. -/
theorem exists_source? (hname : b.Includes name) : ∃ source? τ, (s.source? name).runFrom b.state = (.ok source?, τ) :=
  exists_source?_of_truth fun _ _ _ => h.entries hpasses hname

end IsSafe

/-- Source that cannot be read, or that there is no room for, is no fault. -/
theorem exists_questionSource (s : Setting) (depth : Nat) (name : String) (scope : Scope) (stack : Stack)
    (source? : Option String) (σ : RunState) :
    ∃ answer, ((s.questionSource depth name scope stack source?).runFrom σ).1 = .ok answer := by
  cases source? with
  | none => exact ⟨_, rfl⟩
  | some source =>
    rw [questionSource]
    split
    · cases Template.parse source with
      | error cause => exact ⟨_, rfl⟩
      | ok t =>
        dsimp only
        rw [runFrom_bind_ok (s.runFrom_debug _ _), runFrom_bind_ok (s.runFrom_debug _ _)]
        exact ⟨_, rfl⟩
    · exact ⟨_, rfl⟩

/-- What a block is rendered for can be told. -/
theorem IsSafe.exists_questionBlock (h : s.IsSafe a) (hpasses : s.Passes a b) {kind : BlockKind} {body rest : Template}
    (htask : b.task = .template (.block kind name body rest)) :
    ∃ answer, ((s.questionBlock kind b.depth name body b.scope b.stack).runFrom b.state).1 = .ok answer := by
  obtain ⟨v, τ, hv⟩ := h.exists_lookup hpasses (.block htask)
  obtain ⟨empty, hempty⟩ := h.exists_isEmpty hpasses (.found (.block htask) hv)
  have hasked : (s.graph.empty? v).runFrom τ = (.ok empty, τ) := by rw [Graph.runFrom_empty?, hempty]
  rw [questionBlock, runFrom_bind_ok hv, runFrom_bind_ok hasked]
  cases kind <;> cases empty
  · dsimp only
    split
    · exact ⟨_, rfl⟩
    · -- What is not empty becomes the scope if it is map-like, which has been looked at with the test.
      obtain ⟨view?, hview⟩ := Graph.exists_mapLike?_of_isEmpty hempty
      rw [Graph.blockScope, bind_assoc, runFrom_bind_ok (runFrom_memory τ), hview]
      cases view? <;> exact ⟨_, rfl⟩
  · exact ⟨_, rfl⟩
  · exact ⟨_, rfl⟩
  · exact ⟨_, rfl⟩

/-- **The question of a stage with safe data is answered**, unless the stack is exhausted inside a partial. -/
theorem IsSafe.answer_cases (h : s.IsSafe a) (hpasses : s.Passes a b) :
    (∃ answer, (s.answer b).1 = .ok answer) ∨ s.Arises b .stackExhausted ∧ b.depth ≠ 0 := by
  obtain ⟨⟨depth, task, scope, stack⟩, σ⟩ := b
  rcases task with (_ | ⟨_ | n | n | n, rest⟩ | ⟨kind, n, body, rest⟩) | ⟨frames, t⟩ | ⟨t, _ | ⟨v, vs⟩⟩
  · exact .inl ⟨_, rfl⟩
  · exact .inl ⟨_, rfl⟩
  · obtain ⟨text, τ, htext⟩ := h.exists_interpolate hpasses rfl (.inl rfl)
    exact .inl ⟨_, congrArg Prod.fst (runFrom_bind_ok htext _)⟩
  · obtain ⟨text, τ, htext⟩ := h.exists_interpolate hpasses rfl (.inr rfl)
    exact .inl ⟨_, congrArg Prod.fst (runFrom_bind_ok htext _)⟩
  · obtain ⟨source?, τ, hsource⟩ := h.exists_source? hpasses ⟨rest, rfl⟩
    obtain ⟨answer, hanswer⟩ := s.exists_questionSource depth n scope stack source? τ
    exact .inl ⟨answer, (congrArg Prod.fst (runFrom_bind_ok hsource _)).trans hanswer⟩
  · exact .inl (h.exists_questionBlock hpasses rfl)
  · rcases henter : (stack.enter frames).runFrom σ with ⟨f | left, τ⟩
    · obtain ⟨k, hstack, hshort, rfl⟩ := Stack.of_enter_error henter
      refine .inr ⟨congrArg Prod.fst (runFrom_bind_error henter _), fun hdepth => ?_⟩
      exact h.room hpasses hdepth rfl ⟨k, hstack, hshort⟩
    · exact .inl ⟨_, congrArg Prod.fst (runFrom_bind_ok henter _)⟩
  · exact .inl ⟨_, rfl⟩
  · obtain ⟨view?, hview⟩ := h.exists_mapLike? hpasses (.element rfl) σ.memory
    have hscope := s.graph.runFrom_elementScope v σ
    rw [hview] at hscope
    exact .inl ⟨_, congrArg Prod.fst (runFrom_bind_ok hscope _)⟩

/-- The source of a partial `open` whose block is not closed, and of a partial `loop` that shows `x` and then
itself. -/
def loopEntries : Entries := [(.text "open", .text "\x7b\x7b#x\x7d\x7d"),
  (.text "loop", .text "\x7b\x7bx\x7d\x7d\x7b\x7b>loop\x7d\x7d")]

/-- A table `a` with a number `n` in front of a number of that name that has too many digits for a text. There is a
callable `x`, and of the partials three may be inside each other. -/
def loop : Setting where
  graph := ⟨#[.table .plain [(.text "n", .int (10 ^ 4300)), (.text "a", .ref 1), (.text "x", .ref 2)],
    .table .plain [(.text "n", .int 1)], .callable (some []) (.replies (.text "<") []), .table .plain loopEntries],
    by decide⟩
  settings := ⟨false, 3, by decide⟩
  partials := .value (.ref 3)

/-- The number in the table. -/
def loopNumber : Template := .leaf (.name "n") .nil

/-- The template behind the partial `loop`. -/
def loopBody : Template := .leaf (.name "x") (.leaf (.inclusion "loop") .nil)

/-- Both partials. -/
def loopPartials : Template := .leaf (.inclusion "open") (.leaf (.inclusion "loop") .nil)

/-- The number in the table, the callable, and both partials. -/
def loopTemplate : Template := .block .plain "a" loopNumber (.leaf (.name "x") loopPartials)

/-- What is to be done at the stages that are passed outside partials. -/
def loopOutside : List Job :=
  [⟨0, .template loopTemplate, .value (.ref 0), some 1000⟩,
    ⟨0, .body Stack.plainFrames loopNumber, .value (.ref 1), some 1000⟩,
    ⟨0, .template loopNumber, .value (.ref 1), some 998⟩,
    ⟨0, .template .nil, .value (.ref 1), some 998⟩,
    ⟨0, .template (.leaf (.name "x") loopPartials), .value (.ref 0), some 1000⟩,
    ⟨0, .template loopPartials, .value (.ref 0), some 1000⟩,
    ⟨0, .template (.leaf (.inclusion "loop") .nil), .value (.ref 0), some 1000⟩,
    ⟨0, .template .nil, .value (.ref 0), some 1000⟩]

/-- What is done inside partials. -/
def loopInside : List Task :=
  [.body Stack.partialFrames loopBody, .template loopBody, .template (.leaf (.inclusion "loop") .nil), .template .nil]

/-- Whether a job comes up in the rendering. -/
def IsLoopJob (j : Job) : Prop :=
  j ∈ loopOutside ∨ j.depth ≠ 0 ∧ j.task ∈ loopInside ∧ j.scope = .value (.ref 0)

theorem loop_parse : Template.parse "\x7b\x7bx\x7d\x7d\x7b\x7b>loop\x7d\x7d" = .ok loopBody := by decide +kernel

theorem loop_lookup (σ : RunState) : (loop.graph.lookup (.value (.ref 0)) "x").runFrom σ =
    (.ok (.text "<"), { σ with memory := σ.memory.call 2 }) := by
  have hreply : Behaviour.reply (.text "<") [] (σ.memory.calls 2) = .text "<" := by simp [Behaviour.reply]
  have hlookup : (loop.graph.lookup (.value (.ref 0)) "x").runFrom σ =
      (.ok (Behaviour.reply (.text "<") [] (σ.memory.calls 2)), { σ with memory := σ.memory.call 2 }) := rfl
  rw [hlookup, hreply]

theorem loop_interpolate (σ : RunState) :
    (loop.graph.interpolate (.value (.ref 0)) "x").runFrom σ = (.ok "<", { σ with memory := σ.memory.call 2 }) := by
  rw [Graph.interpolate, runFrom_bind_ok (loop_lookup σ)]
  rfl

theorem loop_includes {depth : Nat} {stack : Stack} {σ : RunState} {inner : Job}
    (h : ((loop.questionPartial depth "loop" (.value (.ref 0)) stack).runFrom σ).1 = .ok (.enters inner)) :
    inner = ⟨depth + 1, .body Stack.partialFrames loopBody, .value (.ref 0), stack⟩ := by
  have hsource : (loop.source? "loop").runFrom σ = (.ok (some "\x7b\x7bx\x7d\x7d\x7b\x7b>loop\x7d\x7d"), σ) := rfl
  rw [questionPartial, runFrom_bind_ok hsource, questionSource] at h
  split at h
  · rw [loop_parse] at h
    cases h
    rfl
  · cases h

theorem loop_enters {j inner : Job} (hj : IsLoopJob j) {σ : RunState}
    (h : ((loop.question j).runFrom σ).1 = .ok (.enters inner)) : IsLoopJob inner := by
  have hinside {depth : Nat} {stack : Stack} {task : Task} (hdepth : depth ≠ 0) (htask : task ∈ loopInside) :
      IsLoopJob ⟨depth, task, .value (.ref 0), stack⟩ := .inr ⟨hdepth, htask, rfl⟩
  obtain ⟨depth, task, scope, stack⟩ := j
  rcases hj with hj | ⟨hdepth, htask, hscope⟩
  · simp only [loopOutside, List.mem_cons, List.not_mem_nil, or_false] at hj
    rcases hj with hj | hj | hj | hj | hj | hj | hj | hj <;> cases hj
    · have henters : Stage.Answer.enters ⟨0, .body Stack.plainFrames loopNumber, .value (.ref 1), some 1000⟩ =
          .enters inner := Except.ok.inj h
      cases henters
      exact .inl (by simp [loopOutside])
    · have henters : Stage.Answer.enters ⟨0, .template loopNumber, .value (.ref 1), some 998⟩ = .enters inner :=
        Except.ok.inj h
      cases henters
      exact .inl (by simp [loopOutside])
    · cases h
    · cases h
    · exact nomatch (congrArg Prod.fst (runFrom_bind_ok (loop_interpolate σ) _)).symm.trans h
    · cases h
    · rw [loop_includes h]
      exact hinside nofun (by simp [loopInside])
    · cases h
  · obtain rfl : scope = .value (.ref 0) := hscope
    simp only [loopInside, List.mem_cons, List.not_mem_nil, or_false] at htask
    rcases htask with rfl | rfl | rfl | rfl
    · rcases hleft : (stack.enter Stack.partialFrames).runFrom σ with ⟨f | left, τ⟩
      · exact nomatch (congrArg Prod.fst (runFrom_bind_error hleft _)).symm.trans h
      · have henters := (congrArg Prod.fst (runFrom_bind_ok hleft _)).symm.trans h
        cases henters
        exact hinside hdepth (by simp [loopInside])
    · exact nomatch (congrArg Prod.fst (runFrom_bind_ok (loop_interpolate σ) _)).symm.trans h
    · rw [loop_includes h]
      exact hinside (Nat.succ_ne_zero depth) (by simp [loopInside])
    · cases h

theorem loop_rest {j : Job} (hj : IsLoopJob j) {task : Task} (h : j.task.rest? = some task) :
    IsLoopJob { j with task } := by
  obtain ⟨depth, task', scope, stack⟩ := j
  rcases hj with hj | ⟨hdepth, htask, hscope⟩
  · refine .inl ?_
    simp only [loopOutside, List.mem_cons, List.not_mem_nil, or_false] at hj
    rcases hj with hj | hj | hj | hj | hj | hj | hj | hj <;> cases hj <;> cases h <;> simp [loopOutside, loopPartials]
  · refine .inr ⟨hdepth, ?_, hscope⟩
    simp only [loopInside, List.mem_cons, List.not_mem_nil, or_false] at htask
    rcases htask with rfl | rfl | rfl | rfl <;> cases h <;> simp [loopInside]

theorem loop_passes {b : Stage}
    (h : loop.Passes (start loopTemplate (.value (.ref 0)) Stack.ordinary ⟨.fresh, #[]⟩) b) : IsLoopJob b.toJob := by
  refine Passes.job_of_closed (fun _ _ _ hj => loop_enters hj) (fun _ _ hj => loop_rest hj) h (.inl ?_)
  simp [loopOutside, start, Stack.ordinary]

/-- The data are tables and a callable that returns. -/
theorem loop_node {v : Value} {n : Node} (h : loop.graph.node? v = some n) :
    (∃ es, n = .table .plain es) ∨ n = .callable (some []) (.replies (.text "<") []) := by
  have hmem := Graph.mem_nodes_of_node? h
  simp only [loop, List.mem_toArray, List.mem_cons, List.not_mem_nil, or_false] at hmem
  rcases hmem with rfl | rfl | rfl | rfl
  · exact .inl ⟨_, rfl⟩
  · exact .inl ⟨_, rfl⟩
  · exact .inr rfl
  · exact .inl ⟨_, rfl⟩

/-- The names that are shown. -/
theorem loop_leaf {j : Job} (hj : IsLoopJob j) {l : Leaf} {rest : Template} (h : j.task = .template (.leaf l rest)) :
    l = .name "n" ∧ j.scope = .value (.ref 1) ∨ l = .name "x" ∧ j.scope = .value (.ref 0) ∨
      ∃ name, l = .inclusion name := by
  obtain ⟨depth, task, scope, stack⟩ := j
  obtain rfl : task = .template (.leaf l rest) := h
  rcases hj with hj | ⟨-, htask, hscope⟩
  · simp only [loopOutside, List.mem_cons, List.not_mem_nil, or_false] at hj
    rcases hj with hj | hj | hj | hj | hj | hj | hj | hj <;> cases hj
    · exact .inl ⟨rfl, rfl⟩
    · exact .inr (.inl ⟨rfl, rfl⟩)
    · exact .inr (.inr ⟨_, rfl⟩)
    · exact .inr (.inr ⟨_, rfl⟩)
  · simp only [loopInside, List.mem_cons, List.not_mem_nil, or_false] at htask
    rcases htask with htask | htask | htask | htask <;> cases htask
    · exact .inr (.inl ⟨rfl, hscope⟩)
    · exact .inr (.inr ⟨_, rfl⟩)

/-- What is shown is the number in the table, and what the callable returns. -/
theorem loop_shows {b : Stage} (hb : IsLoopJob b.toJob) {v : Value} {m : Memory} (h : loop.Shows b v m) :
    v = .int 1 ∨ v = .text "<" := by
  obtain @⟨l, name, rest, τ, htask, hl, hv, -⟩ := h
  rcases loop_leaf hb htask with ⟨rfl, hscope⟩ | ⟨rfl, hscope⟩ | ⟨n, rfl⟩
  · obtain rfl : name = "n" := by rcases hl with hl | hl <;> cases hl; rfl
    have hnumber : (loop.graph.lookup (.value (.ref 1)) "n").runFrom b.state = (.ok (.int 1), b.state) := rfl
    rw [hscope, hnumber] at hv
    cases hv
    exact .inl rfl
  · obtain rfl : name = "x" := by rcases hl with hl | hl <;> cases hl; rfl
    rw [hscope, loop_lookup] at hv
    cases hv
    exact .inr rfl
  · rcases hl with hl | hl <;> cases hl

/-- There are frames for the body of the block. -/
theorem loop_room {j : Job} (hj : IsLoopJob j) (hdepth : j.depth = 0) {frames : Nat} {t : Template}
    (htask : j.task = .body frames t) : ¬j.stack.Short frames := by
  rintro ⟨n, hn, hshort⟩
  obtain ⟨depth, task, scope, stack⟩ := j
  obtain rfl : task = .body frames t := htask
  rcases hj with hj | ⟨hinside, -⟩
  · simp only [loopOutside, List.mem_cons, List.not_mem_nil, or_false] at hj
    rcases hj with hj | hj | hj | hj | hj | hj | hj | hj <;> cases hj
    cases hn
    exact absurd hshort (by decide)
  · exact hinside hdepth

theorem loop_isSafe : loop.IsSafe (start loopTemplate (.value (.ref 0)) Stack.ordinary ⟨.fresh, #[]⟩) where
  calls _ _ := by
    rintro ⟨parameters, kind, text, hnode⟩
    rcases loop_node (v := .ref _) hnode with ⟨es, h⟩ | h <;> cases h
  truth _ _ htruth := by
    obtain ⟨text, kind, message, hnode, -⟩ := Graph.exists_node_of_truth_eq_error htruth
    rcases loop_node hnode with ⟨es, h⟩ | h <;> cases h
  countable _ _ helements := by
    unfold Graph.elements? at helements
    split at helements
    · next hnode => rcases loop_node hnode with ⟨es, h⟩ | h <;> cases h
    · next hnode => rcases loop_node hnode with ⟨es, h⟩ | h <;> cases h
    · cases helements
  declared _ _ hnode := by rcases loop_node hnode with ⟨es, h⟩ | h <;> cases h
  texts hpasses hshows := by
    rcases loop_shows (loop_passes hpasses) hshows with rfl | rfl <;> exact ⟨_, rfl⟩
  entries hpasses _ hview hget := by
    have hnode : loop.graph.node? (.ref 3) = some (.table .plain loopEntries) := rfl
    refine testable_of_table rfl hnode nofun (fun e he m => ?_) _ _ _ _ _ _ .refl hview hget
    simp only [loopEntries, List.mem_cons, List.not_mem_nil, or_false] at he
    rcases he with rfl | rfl <;> exact ⟨_, rfl⟩
  room hpasses hdepth htask := loop_room (loop_passes hpasses) hdepth htask

end Setting

end Stencil
