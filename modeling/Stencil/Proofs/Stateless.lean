import Stencil.History
import Stencil.Proofs.Maps
import Stencil.Proofs.Resolution

/-!
# Data without state

Where no table has a default and every callable returns the same value each time, it makes no difference what was done
before: every run ends as it would end at any other time (`Stencil.IsSteady`). The memory changes, as calls are
counted, but nothing that is looked at depends on it (`Stencil.Graph.IsStateless.mapping?_eq` and the lemmas after
it).

This is shown for all that is done when a template is rendered, alone or with an environment, and when an environment
or a template is made.
-/

namespace Stencil

/-! ### Computations that always end alike -/

/-- **Whether a computation ends in the same way from every state.** -/
def IsSteady {ε α : Type} (r : ExceptT ε (StateM RunState) α) : Prop :=
  ∀ σ τ : RunState, (r.run.run σ).1 = (r.run.run τ).1

section

variable {ε α β : Type} {r : ExceptT ε (StateM RunState) α} {k : α → ExceptT ε (StateM RunState) β}

theorem steady_pure (x : α) : IsSteady (pure x : ExceptT ε (StateM RunState) α) := fun _ _ => rfl

theorem steady_throw (e : ε) : IsSteady (throw e : ExceptT ε (StateM RunState) α) := fun _ _ => rfl

/-- What follows a steady computation starts from the same value in each case, and so ends alike if it is steady
itself. -/
theorem IsSteady.bind (hr : IsSteady r) (hk : ∀ x, IsSteady (k x)) : IsSteady (r >>= k) := by
  intro σ τ
  have hσ : (r >>= k).run.run σ = (ExceptT.bindCont k (r.run.run σ).1).run (r.run.run σ).2 := rfl
  have hτ : (r >>= k).run.run τ = (ExceptT.bindCont k (r.run.run τ).1).run (r.run.run τ).2 := rfl
  rw [hσ, hτ, hr σ τ]
  cases (r.run.run τ).1 with
  | ok x => exact hk x _ _
  | error e => rfl

theorem steady_mapM {f : α → ExceptT ε (StateM RunState) β} (h : ∀ x, IsSteady (f x)) (xs : List α) :
    IsSteady (xs.mapM f) := by
  induction xs with
  | nil => exact steady_pure []
  | cons x xs ih =>
    rw [List.mapM_cons]
    exact (h x).bind fun y => ih.bind fun ys => steady_pure (y :: ys)

end

open Run

section

variable {α : Type}

theorem steady_ofExcept (r : Except Fault α) : IsSteady (Run.ofExcept r) := by
  cases r with
  | ok x => exact steady_pure x
  | error f => exact steady_throw f

theorem steady_report (e : Event) : IsSteady (report e) := fun _ _ => rfl

theorem steady_modify (f : RunState → RunState) : IsSteady (modify f : Run PUnit) := fun _ _ => rfl

/-- A computation that reads the memory but does not depend on it. -/
theorem steady_memory_bind {k : Memory → Run α} (hk : ∀ m, IsSteady (k m)) (hm : ∀ m m', k m = k m') :
    IsSteady (memory >>= k) := by
  intro σ τ
  have hσ : (memory >>= k).run.run σ = (k σ.memory).run.run σ := runFrom_bind_ok (runFrom_memory σ) k
  have hτ : (memory >>= k).run.run τ = (k τ.memory).run.run τ := runFrom_bind_ok (runFrom_memory τ) k
  rw [hσ, hτ, hm σ.memory τ.memory]
  exact hk τ.memory σ τ

/-- What is asked of the memory through a question that does not depend on it. -/
theorem steady_ask {β : Type} {f : Memory → Except Fault β} {k : β → Run α} (hf : ∀ m m', f m = f m')
    (hk : ∀ x, IsSteady (k x)) : IsSteady (do k (← Run.ofExcept (f (← memory)))) :=
  steady_memory_bind (fun m => (steady_ofExcept (f m)).bind hk) fun m m' => by rw [hf m m']

/-- The handler is given the same fault in each case. -/
theorem steady_tryCatch {r : Run α} {handle : Fault → Run α} (hr : IsSteady r) (hh : ∀ f, IsSteady (handle f)) :
    IsSteady (tryCatch r handle) := by
  intro σ τ
  have hσ := runFrom_tryCatch r handle σ
  have hτ := runFrom_tryCatch r handle τ
  have hsame := hr σ τ
  rw [runFrom] at hσ hτ
  rw [hσ, hτ]
  rcases hrσ : r.run.run σ with ⟨resσ, σ'⟩
  rcases hrτ : r.run.run τ with ⟨resτ, τ'⟩
  rw [hrσ, hrτ] at hsame
  dsimp only at hsame
  subst hsame
  rw [runFrom, runFrom, hrσ, hrτ]
  cases resσ with
  | ok x => rfl
  | error f => exact hh f σ' τ'

end

/-! ### Nothing that is looked at depends on the memory -/

/-- Of what a table has gained only a table with a default takes notice. -/
theorem Graph.quoteNode_eq_of_ne {n : Node} (h : ∀ factory fresh es, n ≠ .table (.defaulting factory fresh) es)
    (gained gained' : Entries) (shown : Value → Except Fault String) :
    quoteNode gained shown n = quoteNode gained' shown n := by
  cases n with
  | table kind es =>
    cases kind with
    | defaulting factory fresh => exact absurd rfl (h factory fresh es)
    | ordered => cases es <;> rfl
    | _ => rfl
  | range start stop step =>
    by_cases hstep : step = 1
    · subst hstep
      rfl
    · rw [quoteNode, quoteNode] <;> exact hstep
  | sequence kind xs => cases kind <;> rfl
  | set frozen xs => cases frozen <;> cases xs <;> rfl
  | _ => rfl

namespace Graph.IsStateless

variable {g : Graph} (hg : g.IsStateless)

include hg

/-- Without tables that have a default there is no default behind any value. -/
theorem defaults_eq_nil (v : Value) : g.defaults v = [] := by
  rw [defaults_eq_nil_iff]
  intro l hl
  cases hfallback : l.fallback with
  | none => rfl
  | some default =>
    obtain ⟨factory, es, hnode⟩ := fits_of_mem_layers hl default.1 default.2 hfallback
    exact absurd hnode hg.hasNoDefault

/-- Views of tables and chains differ only in what tables with a default have gained, and there are none. -/
theorem mapping?_eq (m m' : Memory) (v : Value) : g.mapping? m v = g.mapping? m' v :=
  Graph.mapping?_eq (hg.defaults_eq_nil v) m m'

theorem layers_eq (m m' : Memory) (v : Value) :
    g.layers m (g.nodes.size + 1) v = g.layers m' (g.nodes.size + 1) v :=
  Graph.layers_eq (fallback_eq_none (hg.defaults_eq_nil v) m')

theorem mapLike?_eq (m m' : Memory) (v : Value) : g.mapLike? m v = g.mapLike? m' v := by
  rw [mapLike?, mapLike?, hg.mapping?_eq m m' v]

/-- **Whether a value counts as true does not depend on the memory**, and neither does whether it is empty. -/
theorem truth_eq (m m' : Memory) (v : Value) : g.truth m v = g.truth m' v := by
  unfold truth
  rw [hg.mapping?_eq m m' v]

theorem isEmpty_eq (m m' : Memory) (v : Value) : g.isEmpty m v = g.isEmpty m' v := by
  rw [isEmpty, isEmpty, hg.mapLike?_eq m m' v, hg.truth_eq m m' v]

theorem scopeView_eq (m m' : Memory) (scope : Scope) : g.scopeView m scope = g.scopeView m' scope := by
  cases scope with
  | layered v es => rw [scopeView, scopeView, hg.layers_eq m m' v]
  | _ => rfl

theorem partialsView?_eq (m m' : Memory) (partials : Scope) :
    g.partialsView? m partials = g.partialsView? m' partials := by
  cases partials with
  | value v => exact hg.mapping?_eq m m' v
  | _ => exact congrArg some (hg.scopeView_eq m m' _)

theorem iterate?_eq (m m' : Memory) (v : Value) : g.iterate? m v = g.iterate? m' v := by
  unfold iterate?
  rw [hg.mapping?_eq m m' v]

theorem putPairs_eq (m m' : Memory) (es : Entries) (place : Nat) (xs : List Value) :
    g.putPairs m es place xs = g.putPairs m' es place xs := by
  induction xs generalizing es place with
  | nil => rfl
  | cons x xs ih =>
    rw [putPairs, putPairs, hg.iterate?_eq m m' x]
    simp only [ih]

theorem quoteTo_eq (m m' : Memory) (depth : Nat) (around : List Nat) (v : Value) :
    g.quoteTo m depth around v = g.quoteTo m' depth around v := by
  induction depth generalizing around v with
  | zero => rfl
  | succ depth ih =>
    have hshown (around : List Nat) : g.quoteTo m depth around = g.quoteTo m' depth around := funext (ih around)
    cases v with
    | ref i =>
      rw [quoteTo, quoteTo]
      cases hnode : g.nodes[i]? with
      | none => rfl
      | some n =>
        have hquote (shown : Value → Except Fault String) :
            quoteNode (m.gained i) shown n = quoteNode (m'.gained i) shown n :=
          quoteNode_eq_of_ne (fun factory fresh es heq => hg.hasNoDefault (heq ▸ hnode)) _ _ shown
        dsimp only
        rw [hshown, hshown, hquote, hquote]
    | _ => rfl

/-- **The text of a value does not depend on the memory**, as no table in it has gained anything. -/
theorem display_eq (m m' : Memory) (v : Value) : g.display m v = g.display m' v := by
  have hshown (around : List Nat) : g.quoteTo m displayDepth around = g.quoteTo m' displayDepth around :=
    funext (hg.quoteTo_eq m m' displayDepth around)
  unfold display quote
  rw [hshown]
  split
  · rfl
  · rfl
  · rw [hshown]
  · rfl

end Graph.IsStateless

/-! ### Resolving names -/

/-- Layers answer by their entries or their defaults, which are given. -/
theorem steady_answer (g : Graph) (key : Value) (ls : List Layer) : IsSteady (g.answer key ls) := by
  induction ls with
  | nil => exact steady_pure _
  | cons l ls ih =>
    rw [Graph.answer]
    split
    · exact steady_pure _
    · exact (steady_modify _).bind fun _ => steady_pure _
    · exact ih

theorem steady_get (g : Graph) (key : Value) (view : MapView) : IsSteady (g.get key view) := by
  cases view with
  | single es => exact steady_pure _
  | layered ls =>
    rw [Graph.get]
    split
    · exact steady_answer g key ls
    · exact steady_pure _

theorem steady_entriesOf (g : Graph) (view : MapView) : IsSteady (g.entriesOf view) := by
  cases view with
  | single es => exact steady_pure _
  | layered ls => exact steady_mapM (fun k => (steady_get g k _).bind fun v => steady_pure _) _

/-- The number of frames that are left is handed on and not kept in the state. -/
theorem steady_enter (stack : Stack) (frames : Nat) : IsSteady (stack.enter frames) := by
  cases stack with
  | none => exact steady_pure _
  | some n =>
    rw [Stack.enter]
    split
    · exact steady_pure _
    · exact steady_throw _

/-- Elements are shown one after the other, each from the state that the one before has left. -/
theorem steady_concatMap {f : Value → Run String} (h : ∀ v, IsSteady (f v)) (vs : List Value) :
    IsSteady (Graph.concatMap f vs) := by
  induction vs with
  | nil => exact steady_pure _
  | cons v vs ih =>
    have hfirst : IsSteady (insideIteration (f v)) := steady_tryCatch (h v) fun _ => steady_throw _
    exact hfirst.bind fun s => ih.bind fun rest => steady_pure _

namespace Graph.IsStateless

variable {g : Graph} (hg : g.IsStateless)

include hg

theorem steady_child (v : Value) (key : String) : IsSteady (g.child v key) := by
  refine steady_ask (fun m m' => hg.mapLike?_eq m m' v) fun view? => ?_
  split
  · exact steady_get g _ _
  · split <;> exact steady_pure _

theorem steady_empty? (v : Value) : IsSteady (g.empty? v) :=
  steady_memory_bind (fun m => steady_ofExcept _) fun m m' => by rw [hg.isEmpty_eq m m' v]

theorem steady_show? (v : Value) : IsSteady (g.show? v) :=
  steady_memory_bind (fun m => steady_ofExcept _) fun m m' => by rw [hg.display_eq m m' v]

theorem steady_walk (v : Value) (ss : List String) : IsSteady (g.walk v ss) := by
  induction ss generalizing v with
  | nil => exact steady_pure v
  | cons s ss ih =>
    refine (hg.steady_empty? v).bind fun empty => ?_
    split
    · exact steady_pure v
    · exact (hg.steady_child v s).bind ih

theorem steady_scopeChild (scope : Scope) (key : String) : IsSteady (g.scopeChild scope key) := by
  cases scope with
  | value v => exact hg.steady_child v key
  | record es => exact steady_pure _
  | layered v es =>
    exact steady_memory_bind (fun m => steady_get g _ _) fun m m' => by rw [hg.scopeView_eq m m' _]

theorem steady_scopeWalk (scope : Scope) (ss : List String) : IsSteady (g.scopeWalk scope ss) := by
  cases ss with
  | nil => exact steady_pure _
  | cons s ss =>
    cases scope with
    | value v => exact hg.steady_walk v (s :: ss)
    | record es => exact (hg.steady_scopeChild _ s).bind fun v => hg.steady_walk v ss
    | layered v es => exact (hg.steady_scopeChild _ s).bind fun v => hg.steady_walk v ss

/-- **Names stand for the same at any time.** -/
theorem steady_resolve (scope : Scope) (name : String) : IsSteady (g.resolve scope name) := by
  rw [resolve]
  split
  · exact hg.steady_scopeWalk scope _
  · exact hg.steady_scopeChild scope name

/-- A callable returns the same value at every call. -/
theorem steady_call {place : Nat} {parameters : Option (List Parameter)} {b : Behaviour}
    (hnode : g.nodes[place]? = some (.callable parameters b)) : IsSteady (call place b) := by
  cases b with
  | fails kind text => exact (steady_modify _).bind fun _ => steady_throw _
  | replies first later =>
    have hreply := Behaviour.reply_of_isConstant (hg.repliesConstantly place parameters _ hnode)
    intro σ τ
    have hresult (σ : RunState) : ((call place (.replies first later)).run.run σ).1 =
        .ok (Behaviour.reply first later (σ.memory.calls place)) := rfl
    rw [hresult, hresult, hreply, hreply]

/-- A callable returns the same value each time, however often it was called before. -/
theorem steady_invoke (v : Value) : IsSteady (g.invoke v) := by
  unfold invoke
  split
  · next hnode =>
    split
    · exact hg.steady_call hnode
    · exact steady_pure _
  · split <;> exact steady_pure _
  · exact steady_pure _

theorem steady_lookup (scope : Scope) (name : String) : IsSteady (g.lookup scope name) :=
  (hg.steady_resolve scope name).bind hg.steady_invoke

/-! ### Rendering -/

theorem steady_interpolate (scope : Scope) (name : String) : IsSteady (g.interpolate scope name) := by
  refine (hg.steady_lookup scope name).bind fun v => (hg.steady_empty? v).bind fun empty => ?_
  split
  · exact steady_pure _
  · exact hg.steady_show? v

theorem steady_elementScope (v : Value) : IsSteady (g.elementScope v) := by
  refine steady_ask (fun m m' => hg.mapLike?_eq m m' v) fun view? => ?_
  split <;> exact steady_pure _

theorem steady_blockScope (scope : Scope) (v : Value) : IsSteady (g.blockScope scope v) := by
  refine steady_ask (fun m m' => hg.mapLike?_eq m m' v) fun view? => ?_
  split <;> exact steady_pure _

/-- A block is shown for the same elements at any time. -/
theorem steady_renderBlock {body : Scope → Stack → Run String} (hbody : ∀ scope stack, IsSteady (body scope stack))
    (kind : BlockKind) (name : String) (scope : Scope) (stack : Stack) :
    IsSteady (renderBlock g kind name body scope stack) := by
  have hinside (inner : Scope) (frames : Nat) : IsSteady (stack.enter frames >>= body inner) :=
    (steady_enter stack frames).bind (hbody inner)
  cases kind with
  | plain =>
    refine (hg.steady_lookup scope name).bind fun v => (hg.steady_empty? v).bind fun empty => ?_
    split
    · exact steady_pure _
    · split
      · exact steady_concatMap (fun x => (hg.steady_elementScope x).bind fun inner => hinside inner _) _
      · exact (hg.steady_blockScope scope v).bind fun inner => hinside inner _
  | inverted =>
    refine (hg.steady_lookup scope name).bind fun v => (hg.steady_empty? v).bind fun empty => ?_
    split
    · exact hinside scope _
    · exact steady_pure _

theorem steady_renderParts {inclusion : String → Scope → Stack → Run String}
    (hinclusion : ∀ name scope stack, IsSteady (inclusion name scope stack)) (t : Template) (scope : Scope)
    (stack : Stack) : IsSteady (renderParts g inclusion t scope stack) := by
  induction t generalizing scope stack with
  | nil => exact steady_pure _
  | leaf l rest ih =>
    have hleaf : IsSteady (renderLeaf g inclusion l scope stack) := by
      cases l with
      | text s => exact steady_pure _
      | name n => exact (hg.steady_interpolate scope n).bind fun s => steady_pure _
      | raw n => exact hg.steady_interpolate scope n
      | inclusion n => exact hinclusion n scope stack
    exact hleaf.bind fun s => (ih scope stack).bind fun tail => steady_pure _
  | block kind name body rest ihbody ihrest =>
    refine (hg.steady_renderBlock ihbody kind name scope stack).bind fun s => ?_
    exact (ihrest scope stack).bind fun tail => steady_pure _

end Graph.IsStateless

namespace Setting

variable {s : Setting}

/-- Whether a partial is given up depends on its depth and its source. -/
theorem steady_expand {body : Template → Run String} (hbody : ∀ t, IsSteady (body t)) (name source : String)
    (depth : Nat) : IsSteady (s.expand name source depth body) := by
  have hdebug (e : Event) : IsSteady (s.debug e) := by
    rw [debug]
    split
    · exact steady_report e
    · exact steady_pure _
  rw [expand]
  split
  · exact (steady_report _).bind fun _ => steady_pure _
  · exact (hdebug _).bind fun _ => (hdebug _).bind fun _ => hbody _

variable (hg : s.graph.IsStateless)

include hg

/-- Partials are the same at any time. -/
theorem steady_source? (name : String) : IsSteady (s.source? name) := by
  refine steady_memory_bind (fun m => ?_) fun m m' => by rw [hg.partialsView?_eq m m' s.partials]
  split
  · exact steady_pure _
  · refine (steady_get _ _ _).bind fun v => steady_ask (fun m m' => hg.truth_eq m m' v) fun b => ?_
    split
    · split <;> exact steady_pure _
    · exact steady_pure _

/-- A partial is rendered alike at any time if its template is. -/
theorem steady_inclusion {body : String → Template → Run String} (hbody : ∀ name t, IsSteady (body name t))
    (depth : Nat) (name : String) :
    IsSteady (do
      match ← s.source? name with
      | none => return ""
      | some source => s.expand name source depth (body name)) := by
  refine (steady_source? hg name).bind fun source? => ?_
  cases source? with
  | none => exact steady_pure _
  | some source => exact steady_expand (hbody name) name source depth

theorem steady_renderWithin (left : Nat) (t : Template) (scope : Scope) (stack : Stack) :
    IsSteady (s.renderWithin left t scope stack) := by
  induction left generalizing t scope stack with
  | zero =>
    refine hg.steady_renderParts (fun name scope stack => ?_) t scope stack
    refine (steady_source? hg name).bind fun source? => ?_
    cases source? with
    | none => exact steady_pure _
    | some source => exact (steady_report _).bind fun _ => steady_pure _
  | succ left ih =>
    refine hg.steady_renderParts (fun name scope stack => ?_) t scope stack
    exact steady_inclusion hg
      (fun _ t => (steady_enter stack _).bind fun stack' => ih t scope stack') (s.settings.limit - left) name

/-- **Rendering data without state ends alike at any time.** -/
theorem steady_render (t : Template) (scope : Scope) (stack : Stack) : IsSteady (s.render t scope stack) := by
  refine hg.steady_renderParts (fun name scope stack => ?_) t scope stack
  have hinside (t : Template) : IsSteady (do
      s.renderWithin (s.settings.limit - 1) t scope (← stack.enter Stack.partialFrames)) :=
    (steady_enter stack _).bind fun stack' => steady_renderWithin hg (s.settings.limit - 1) t scope stack'
  refine steady_inclusion hg (fun name t => steady_tryCatch (hinside t) fun f => ?_) 1 name
  split
  · exact (steady_report _).bind fun _ => steady_pure _
  · exact steady_throw _

end Setting

/-! ### Environments and templates -/

theorem steady_ofRun {α : Type} {r : Run α} (h : IsSteady r) : IsSteady (Operation.ofRun r) := by
  intro σ τ
  have hresult (σ : RunState) : ((Operation.ofRun r).run.run σ).1 = (r.run.run σ).1.mapError Failure.fault := rfl
  rw [hresult, hresult, h σ τ]

/-- What a computation ends in once it ends in always. -/
theorem IsSteady.exists_runFrom {α : Type} {t : Operation α} (ht : IsSteady t) {x : α} {σ σ' : RunState}
    (h : t.runFrom σ = (.ok x, σ')) (τ : RunState) : ∃ τ', t.runFrom τ = (.ok x, τ') := by
  have hsame : (t.runFrom τ).1 = (t.runFrom σ).1 := ht τ σ
  rw [h] at hsame
  exact ⟨(t.runFrom τ).2, Prod.ext hsame rfl⟩

/-- Whether source can be read depends on nothing but the source. Only what is reported of it depends on the
settings. -/
theorem steady_compiled (g : Graph) (settings : Settings) (v : Value) : IsSteady (Compiled.ofValue g settings v) := by
  unfold Compiled.ofValue
  split
  · split
    · exact steady_throw _
    · split
      · exact steady_throw _
      · dsimp only
        split
        · exact (steady_ofRun (steady_report _)).bind fun _ => steady_pure _
        · exact steady_pure _
  · exact steady_throw _

namespace Graph.IsStateless

variable {g : Graph} (hg : g.IsStateless)

include hg

theorem steady_mergeOver (es : Entries) (v : Value) : IsSteady (g.mergeOver es v) := by
  refine steady_memory_bind (fun m => ?_) fun m m' => by rw [hg.mapping?_eq m m' v]
  split
  · exact (steady_entriesOf g _).bind fun more => steady_pure _
  · refine steady_memory_bind (fun m => ?_) fun m m' => by rw [hg.iterate?_eq m m' v]
    split
    · exact steady_throw _
    · exact steady_throw _
    · exact steady_memory_bind (fun m => steady_ofExcept _) fun m m' => by rw [hg.putPairs_eq m m']

theorem steady_mappingEntries (v : Value) : IsSteady (Environment.mappingEntries g v) := by
  refine steady_memory_bind (fun m => ?_) fun m m' => by rw [hg.mapping?_eq m m' v]
  split
  · exact steady_entriesOf g _
  · split <;> exact steady_throw _

/-- Making an environment ends alike at any time. -/
theorem steady_make (partials globals : Value) : IsSteady (Environment.make g partials globals) := by
  have htruth (v : Value) : IsSteady (Operation.ofRun (do Run.ofExcept (g.truth (← memory) v))) :=
    steady_ofRun (steady_memory_bind (fun m => steady_ofExcept _) fun m m' => by rw [hg.truth_eq m m' v])
  have hgiven {r : Run Entries} (hr : IsSteady r) (given : Bool) {k : Entries → Operation Environment}
      (hk : ∀ es, IsSteady (k es)) : IsSteady (if given then Operation.ofRun r >>= k else pure [] >>= k) := by
    split
    · exact (steady_ofRun hr).bind hk
    · exact hk []
  refine (htruth globals).bind fun hasGlobals => hgiven (hg.steady_mergeOver [] globals) hasGlobals ?_
  intro globalEntries
  refine (htruth partials).bind fun hasPartials => hgiven (hg.steady_mappingEntries partials) hasPartials ?_
  intro partialEntries
  dsimp only
  split
  · exact steady_pure _
  · exact steady_throw _

/-- Rendering alone ends alike at any time. -/
theorem steady_renderAlone (settings : Settings) (t : Template) (context partials : Value) :
    IsSteady (renderAlone g settings t context partials) :=
  steady_ofRun (Setting.steady_render hg t (.value context) Stack.ordinary)

/-- Rendering with an environment ends alike at any time. -/
theorem steady_environment_render (settings : Settings) (e : Environment) (t : Template) (context partials : Value) :
    IsSteady (e.render g settings t context partials) := by
  have hpartials : IsSteady (e.partialsWith g partials) := by
    refine steady_memory_bind (fun m => ?_) fun m m' => by rw [hg.mapping?_eq m m' partials]
    split
    · exact (steady_entriesOf g _).bind fun more => steady_pure _
    · exact steady_pure _
  have hscope : IsSteady (e.scopeWith g settings context) := by
    rw [Environment.scopeWith]
    split
    · exact steady_pure _
    · refine steady_memory_bind (fun m => ?_) fun m m' => by rw [hg.mapping?_eq m m' context]
      split
      · exact steady_pure _
      · exact steady_pure _
      · dsimp only
        split
        · exact (steady_report _).bind fun _ => steady_pure _
        · exact steady_pure _
  refine steady_ofRun (hpartials.bind fun from' => hscope.bind fun scope => ?_)
  exact Setting.steady_render (s := ⟨g, settings, from'⟩) hg t scope Stack.ordinary

end Graph.IsStateless

end Stencil
