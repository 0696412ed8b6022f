import Mathlib.Data.Prod.Lex
import Mathlib.Order.WellFounded
import Stencil.Proofs.Defaults
import Stencil.Stage

/-!
# What a rendering ends in is decided at one of its stages

At a stage one question is asked, and what is rendered there follows from the answer (`Stencil.Setting.part_eq`). So
what happens in a rendering happens where one of these questions is asked, as long as it is something that reporting
an event does not bring about (`Stencil.Setting.Incident`). That is an induction along the stages that are passed,
which come to an end: a stage leads to others inside more partials, or with fewer parts or elements left
(`Stencil.Setting.wellFounded_leads`).

There are two uses of this. A rendering ends in a fault if and only if that fault arises at a stage that is passed,
where overflows of the stack count only outside partials (`Stencil.Setting.outcome_eq_error_iff`). And a callable that
is called is called at one of the stages (`Stencil.Setting.exists_calls`).
-/

namespace Stencil

open Run

/-! ### Runs one after the other -/

theorem Run.runFrom_append (r u : Run String) (σ : RunState) :
    (do let first ← r; let second ← u; return first ++ second : Run String).runFrom σ =
      match r.runFrom σ with
      | (.error f, τ) => (.error f, τ)
      | (.ok first, τ) =>
        match u.runFrom τ with
        | (.error f, υ) => (.error f, υ)
        | (.ok second, υ) => (.ok (first ++ second), υ) := by
  rcases hr : r.runFrom σ with ⟨f | first, τ⟩
  · rw [runFrom_bind_error hr]
  · rw [runFrom_bind_ok hr]
    dsimp only
    rcases hu : u.runFrom τ with ⟨f | second, υ⟩
    · rw [runFrom_bind_error hu]
    · rw [runFrom_bind_ok hu, runFrom_pure]

/-- Only what may fail with the kind of fault that ends iterations has to be done inside one. -/
theorem Run.insideIteration_bind {α β : Type} {r : Run α} (hr : ∀ σ f, (r.runFrom σ).1 = .error f → f.kind ≠ .stop)
    (k : α → Run β) : insideIteration (r >>= k) = r >>= fun x => insideIteration (k x) := by
  refine funext fun σ => ?_
  change (insideIteration (r >>= k)).runFrom σ = (r >>= fun x => insideIteration (k x)).runFrom σ
  rw [runFrom_insideIteration]
  rcases hσ : r.runFrom σ with ⟨f | x, τ⟩
  · have hkind : f.kind ≠ .stop := hr σ f (congrArg Prod.fst hσ)
    rw [runFrom_bind_error hσ, runFrom_bind_error hσ, Except.mapError, Fault.outOfIteration_of_kind_ne hkind]
  · rw [runFrom_bind_ok hσ, runFrom_bind_ok hσ, runFrom_insideIteration]

namespace Graph

theorem kind_of_declaredFields_eq_error {type : String} {attributes : List (String × Value)} {names : List String}
    {f : Fault} (h : declaredFields type attributes names = .error f) : f.kind = .attribute := by
  induction names with
  | nil => cases h
  | cons name names ih =>
    rw [declaredFields] at h
    cases hname : attributes.lookup name with
    | none =>
      rw [hname] at h
      cases h
      rfl
    | some v =>
      rw [hname] at h
      cases hrest : declaredFields type attributes names with
      | ok es =>
        rw [hrest] at h
        cases h
      | error f' =>
        rw [hrest] at h
        cases h
        exact ih hrest

/-- Looking at a value as a map fails only where a declared field is not set. -/
theorem kind_of_mapLike?_eq_error {g : Graph} {m : Memory} {v : Value} {f : Fault} (h : g.mapLike? m v = .error f) :
    f.kind = .attribute := by
  unfold mapLike? at h
  split at h
  · cases h
  · next type declared attributes _ =>
    cases hfields : declaredFields type attributes declared.eraseDups with
    | ok es =>
      rw [hfields] at h
      cases h
    | error f' =>
      rw [hfields] at h
      cases h
      exact kind_of_declaredFields_eq_error hfields
  · cases h

theorem runFrom_elementScope (g : Graph) (v : Value) (σ : RunState) :
    (g.elementScope v).runFrom σ =
      ((g.mapLike? σ.memory v).map fun view? => if view?.isSome then .value v else .item v, σ) := by
  rw [elementScope, runFrom_bind_ok (runFrom_memory σ)]
  rcases g.mapLike? σ.memory v with f | _ | view <;> rfl

/-- The scope of an element is made before anything is done in it. -/
theorem insideIteration_elementScope_bind (g : Graph) (v : Value) (k : Scope → Run String) :
    insideIteration (g.elementScope v >>= k) = g.elementScope v >>= fun inner => insideIteration (k inner) := by
  refine insideIteration_bind (fun σ f h => ?_) k
  rw [runFrom_elementScope] at h
  cases hview : g.mapLike? σ.memory v with
  | ok view? =>
    rw [hview] at h
    cases h
  | error f' =>
    rw [hview] at h
    cases h
    rw [kind_of_mapLike?_eq_error hview]
    nofun

end Graph

/-- Asking whether a value is empty changes nothing. -/
theorem Graph.runFrom_empty?_of_isEmpty {g : Graph} {v : Value} {σ : RunState} {r : Except Fault Bool}
    (h : g.isEmpty σ.memory v = r) : (g.empty? v).runFrom σ = (r, σ) := by
  rw [runFrom_empty?, h]

/-- Whether what is to be done inside is as said by `P`, if anything is. -/
def Stage.Answer.Inner (P : Job → Prop) : Stage.Answer → Prop
  | .shows _ => True
  | .enters inner => P inner

namespace Setting

variable {s : Setting} {j : Job} {a b : Stage}

/-! ### What follows from an answer -/

theorem part_partial (s : Setting) (depth : Nat) (name : String) (rest : Template) (scope : Scope) (stack : Stack) :
    let j : Job := ⟨depth, .template (.leaf (.inclusion name) rest), scope, stack⟩
    s.inclusionAt depth name scope stack = s.questionPartial depth name scope stack >>= s.follow j := by
  intro j
  by_cases hroom : depth < s.settings.limit
  · -- The number of partials that may still be rendered inside is that of all less that around.
    have hinclusion : s.inclusionAt depth name scope stack = (do
        (← s.source? name).elim (return "") fun source =>
          s.expand name source (depth + 1) fun t =>
            j.contain (s.bodyAt (depth + 1) Stack.partialFrames t scope stack)) := by
      cases depth with
      | zero =>
        rw [inclusionAt, outermost]
        simp only [renderWithin_eq]
        refine congrArg (s.source? name >>= ·) (funext fun source? => ?_)
        cases source? <;> rfl
      | succ depth =>
        obtain ⟨left, hleft⟩ := Nat.exists_eq_add_of_lt hroom
        have hsucc : s.settings.limit - (depth + 1) = left + 1 := by omega
        have hpred : s.settings.limit - (depth + 2) = left := by omega
        have hdepth : s.settings.limit - left = depth + 2 := by omega
        rw [inclusionAt, hsucc, inclusionWithin_succ, hdepth]
        simp only [renderWithin_eq, ← hpred]
        refine congrArg (s.source? name >>= ·) (funext fun source? => ?_)
        cases source? <;> rfl
    rw [hinclusion, questionPartial, bind_assoc]
    refine congrArg (s.source? name >>= ·) (funext fun source? => ?_)
    cases source? with
    | none => rfl
    | some source =>
      rw [Option.elim_some, questionSource, if_pos hroom, expand]
      cases Template.parse source with
      | error cause => rfl
      | ok t =>
        simp only [bind_assoc, pure_bind]
        rfl
  · have hlimit : 1 ≤ s.settings.limit := s.settings.one_le_limit
    obtain ⟨depth, rfl⟩ : ∃ below, depth = below + 1 := ⟨depth - 1, by omega⟩
    rw [inclusionAt, Nat.sub_eq_zero_of_le (Nat.le_of_not_lt hroom), inclusionWithin, questionPartial, bind_assoc]
    refine congrArg (s.source? name >>= ·) (funext fun source? => ?_)
    cases source? with
    | none => rfl
    | some source =>
      rw [questionSource, if_neg hroom]
      rfl

theorem part_block (s : Setting) (kind : BlockKind) (depth : Nat) (name : String) (body rest : Template) (scope : Scope)
    (stack : Stack) :
    let j : Job := ⟨depth, .template (.block kind name body rest), scope, stack⟩
    renderBlock s.graph kind name (s.templateAt depth body) scope stack =
      s.questionBlock kind depth name body scope stack >>= s.follow j := by
  intro j
  have hcontain (r : Run String) : j.contain r = r := by
    cases depth <;> rfl
  have hfollow (inner : Job) : s.follow j (.enters inner) = s.carryOut inner := hcontain _
  cases kind with
  | plain =>
    rw [renderBlock, Graph.renderPlain, questionBlock, bind_assoc]
    refine congrArg (s.graph.lookup scope name >>= ·) (funext fun v => ?_)
    rw [bind_assoc]
    refine congrArg (s.graph.empty? v >>= ·) (funext fun empty => ?_)
    cases empty with
    | true => rfl
    | false =>
      cases s.graph.elements? v with
      | some xs =>
        dsimp only
        rw [pure_bind, hfollow]
        rfl
      | none =>
        simp only [bind_assoc, pure_bind, hfollow]
        rfl
  | inverted =>
    rw [renderBlock, Graph.renderInverted, questionBlock, bind_assoc]
    refine congrArg (s.graph.lookup scope name >>= ·) (funext fun v => ?_)
    rw [bind_assoc]
    refine congrArg (s.graph.empty? v >>= ·) (funext fun empty => ?_)
    cases empty with
    | true =>
      dsimp only
      rw [pure_bind, hfollow]
      rfl
    | false => rfl

/-- **The part that comes first is what follows from the question.** -/
theorem part_eq (s : Setting) (j : Job) : s.part j = s.question j >>= s.follow j := by
  obtain ⟨depth, task, scope, stack⟩ := j
  rcases task with (_ | ⟨_ | n | n | n, rest⟩ | ⟨kind, name, body, rest⟩) | ⟨frames, t⟩ | ⟨t, _ | ⟨v, vs⟩⟩
  · rfl
  · rfl
  · simp only [part, renderLeaf, question, bind_assoc, pure_bind, follow]
  · simp only [part, renderLeaf, question, bind_assoc, pure_bind, follow, bind_pure]
  · exact s.part_partial depth n rest scope stack
  · exact s.part_block kind depth name body rest scope stack
  · simp only [question, bind_assoc, pure_bind, follow]
    cases depth <;> rfl
  · rfl
  · have hpart : s.part ⟨depth, .elements t (v :: vs), scope, stack⟩ = s.graph.elementScope v >>= fun inner =>
        insideIteration (s.bodyAt depth Stack.iteratedFrames t inner stack) :=
      s.graph.insideIteration_elementScope_bind v _
    rw [hpart]
    simp only [question, bind_assoc, pure_bind, follow]
    cases depth <;> rfl

/-! ### The part that comes first, and the rest -/

theorem outcome_of_rest_none (h : a.task.rest? = none) : s.outcome a = (s.part a.toJob).runFrom a.state := by
  obtain ⟨⟨depth, task, scope, stack⟩, σ⟩ := a
  rcases task with t | ⟨frames, t⟩ | ⟨t, vs⟩
  · cases t with
    | nil => rfl
    | leaf | block => cases h
  · rfl
  · cases vs with
    | nil => rfl
    | cons => cases h

theorem outcome_of_rest_some {task : Task} (h : a.task.rest? = some task) :
    s.outcome a =
      match (s.part a.toJob).runFrom a.state with
      | (.error f, τ) => (.error f, τ)
      | (.ok first, τ) =>
        match s.outcome { a with task, state := τ } with
        | (.error f, υ) => (.error f, υ)
        | (.ok second, υ) => (.ok (first ++ second), υ) := by
  obtain ⟨⟨depth, task', scope, stack⟩, σ⟩ := a
  rcases task' with t | ⟨frames, t⟩ | ⟨t, vs⟩
  · cases t <;> cases h <;> exact runFrom_append _ _ σ
  · cases h
  · cases vs <;> cases h
    exact runFrom_append _ _ σ

theorem outcome_of_part_fails {f : Fault} {τ : RunState} (h : (s.part a.toJob).runFrom a.state = (.error f, τ)) :
    s.outcome a = (.error f, τ) := by
  cases hrest : a.task.rest? with
  | none => rw [outcome_of_rest_none hrest, h]
  | some task => rw [outcome_of_rest_some hrest, h]

/-- A stage that is entered ends in what the part that comes first ends in, unless that contains an overflow. -/
theorem Enters.runFrom_part (h : s.Enters a b) :
    (s.part a.toJob).runFrom a.state = (a.contain (s.carryOut b.toJob)).runFrom b.state := by
  rw [part_eq]
  exact runFrom_bind_ok h _

/-! ### Stages come to an end -/

/-- A number that becomes less with the parts that are left, and with the body of an element, and that of a block. -/
def size : Task → Nat
  | .template t => 3 * t.items.length
  | .body _ t => 3 * t.items.length + 1
  | .elements t _ => 3 * t.items.length + 2

/-- The number of elements that are left. -/
def elementsLeft : Task → Nat
  | .template _ => 0
  | .body _ _ => 0
  | .elements _ vs => vs.length

/-- What becomes less from stage to stage: the number of partials that may still be rendered inside, then the parts that
are left, then the elements that are left. -/
def rank (s : Setting) (j : Job) : ℕ ×ₗ ℕ ×ₗ ℕ :=
  toLex (s.settings.limit - j.depth, toLex (size j.task, elementsLeft j.task))

theorem rank_lt_of_depth {j' : Job} (h : s.settings.limit - j'.depth < s.settings.limit - j.depth) :
    s.rank j' < s.rank j :=
  Prod.Lex.toLex_lt_toLex.mpr (.inl h)

theorem rank_lt_of_task {depth : Nat} {task task' : Task} {scope scope' : Scope} {stack stack' : Stack}
    (h : size task' < size task ∨ size task' = size task ∧ elementsLeft task' < elementsLeft task) :
    s.rank ⟨depth, task', scope', stack'⟩ < s.rank ⟨depth, task, scope, stack⟩ :=
  Prod.Lex.toLex_lt_toLex.mpr (.inr ⟨rfl, Prod.Lex.toLex_lt_toLex.mpr h⟩)

/-- What follows the part that comes first takes fewer parts or elements. -/
theorem rank_lt_of_rest? {task : Task} (h : j.task.rest? = some task) : s.rank { j with task } < s.rank j := by
  obtain ⟨depth, task', scope, stack⟩ := j
  refine rank_lt_of_task ?_
  rcases task' with (_ | ⟨l, rest⟩ | ⟨kind, name, body, rest⟩) | ⟨frames, t⟩ | ⟨t, _ | ⟨v, vs⟩⟩ <;> cases h
  · refine .inl ?_
    rw [size, size, Template.items, List.length_cons]
    omega
  · refine .inl ?_
    rw [size, size, Template.items, List.length_cons, List.length_append]
    omega
  · exact .inr ⟨rfl, Nat.lt_succ_self _⟩

/-- Whether a scope is the one around, or that of a value or of an item. -/
def Inherits (scope inner : Scope) : Prop := inner = scope ∨ ∃ v, inner = .value v ∨ inner = .item v

/-- **Whether one job may be inside the part of another one that comes first**: with as many partials around, or with
one more if that part is a partial. -/
structure Admits (s : Setting) (j inner : Job) : Prop where
  rank_lt : s.rank inner < s.rank j
  depth : inner.depth = j.depth ∧ (∀ name, ¬j.Includes name) ∨ inner.depth = j.depth + 1 ∧ ∃ name, j.Includes name
  scope : Inherits j.scope inner.scope

theorem admits_of_task {depth : Nat} {task task' : Task} {scope scope' : Scope} {stack stack' : Stack}
    (hsize : size task' < size task) (hscope : Inherits scope scope')
    (htask : ∀ name rest, task ≠ .template (.leaf (.inclusion name) rest)) :
    s.Admits ⟨depth, task, scope, stack⟩ ⟨depth, task', scope', stack'⟩ :=
  ⟨rank_lt_of_task (.inl hsize), .inl ⟨rfl, fun name ⟨rest, h⟩ => htask name rest h⟩, hscope⟩

theorem ensures_elementScope (g : Graph) (m : Memory) (scope : Scope) (v : Value) :
    Ensures g m (Inherits scope) (g.elementScope v) := by
  refine ensures_memory.bind fun m' _ => (isQuiet_ofExcept _).ensures.bind fun view? _ => ?_
  cases view? with
  | some view => exact ensures_pure (.inr ⟨v, .inl rfl⟩)
  | none => exact ensures_pure (.inr ⟨v, .inr rfl⟩)

theorem ensures_blockScope (g : Graph) (m : Memory) (scope : Scope) (v : Value) :
    Ensures g m (Inherits scope) (g.blockScope scope v) := by
  refine ensures_memory.bind fun m' _ => (isQuiet_ofExcept _).ensures.bind fun view? _ => ?_
  cases view? with
  | some view => exact ensures_pure (.inr ⟨v, .inl rfl⟩)
  | none => exact ensures_pure (.inl rfl)

/-- What a question asks for changes the memory in the ways in which memories evolve, and what it says to do inside
may be inside the job. -/
theorem ensures_question (s : Setting) (j : Job) (m : Memory) :
    Ensures s.graph m (Stage.Answer.Inner (s.Admits j)) (s.question j) := by
  have hshows {r : Run String} (hr : IsQuiet s.graph r) (f : String → String) :
      Ensures s.graph m (Stage.Answer.Inner (s.Admits j)) (do return .shows (f (← r))) :=
    hr.ensures.bind fun _ _ => ensures_pure trivial
  obtain ⟨depth, task, scope, stack⟩ := j
  rcases task with (_ | ⟨_ | n | n | n, rest⟩ | ⟨kind, name, body, rest⟩) | ⟨frames, t⟩ | ⟨t, _ | ⟨v, vs⟩⟩
  · exact ensures_pure trivial
  · exact ensures_pure trivial
  · exact hshows (s.graph.isQuiet_interpolate scope n) Text.escape
  · exact hshows (s.graph.isQuiet_interpolate scope n) id
  · refine (s.isQuiet_source? n).ensures.bind fun source? _ => ?_
    cases source? with
    | none => exact ensures_pure trivial
    | some source =>
      rw [questionSource]
      split
      · next hroom =>
        cases Template.parse source with
        | error cause => exact (ensures_report _).bind fun _ _ => ensures_pure trivial
        | ok t =>
          refine (s.ensures_debug _).bind fun _ _ => (s.ensures_debug _).bind fun _ _ => ensures_pure ?_
          have hrank : s.settings.limit - (depth + 1) < s.settings.limit - depth :=
            Nat.sub_lt_sub_left hroom (Nat.lt_succ_self depth)
          exact ⟨rank_lt_of_depth hrank, .inr ⟨rfl, n, ⟨rest, rfl⟩⟩, .inl rfl⟩
      · exact (ensures_report _).bind fun _ _ => ensures_pure trivial
  · have hbody {task : Task} {inner : Scope} (h : size task ≤ 3 * body.items.length + 2)
        (hinner : Inherits scope inner) :
        s.Admits ⟨depth, .template (.block kind name body rest), scope, stack⟩ ⟨depth, task, inner, stack⟩ := by
      refine admits_of_task ?_ hinner (by simp)
      rw [size, Template.items, List.length_cons, List.length_append]
      omega
    refine (s.graph.isQuiet_lookup scope name).ensures.bind fun v _ => ?_
    refine (s.graph.isQuiet_empty? v).ensures.bind fun empty _ => ?_
    cases kind <;> cases empty
    · dsimp only
      split
      · exact ensures_pure (hbody (Nat.le_refl _) (.inl rfl))
      · refine (ensures_blockScope s.graph m scope v).bind fun inner hinner => ensures_pure ?_
        exact hbody (Nat.le_succ _) hinner
    · exact ensures_pure trivial
    · exact ensures_pure trivial
    · exact ensures_pure (hbody (Nat.le_succ _) (.inl rfl))
  · refine (s.graph.isQuiet_enter stack frames).ensures.bind fun left _ => ensures_pure ?_
    exact admits_of_task (Nat.lt_succ_self _) (.inl rfl) (by simp)
  · exact ensures_pure trivial
  · refine (ensures_elementScope s.graph m scope v).bind fun inner hinner => ensures_pure ?_
    exact admits_of_task (Nat.lt_succ_self _) hinner (by simp)

theorem Enters.admits (h : s.Enters a b) : s.Admits a.toJob b.toJob :=
  (s.ensures_question a.toJob a.state.memory a.state .refl).2 (.enters b.toJob) (congrArg Prod.fst h)

theorem Admits.depth_le {inner : Job} (h : s.Admits j inner) : j.depth ≤ inner.depth := by
  rcases h.depth with ⟨hsame, -⟩ | ⟨hdeeper, -⟩ <;> omega

theorem Leads.depth_le (h : s.Leads a b) : a.depth ≤ b.depth := by
  cases h with
  | into h => exact h.admits.depth_le
  | past => exact Nat.le_refl _

theorem Passes.depth_le (h : s.Passes a b) : a.depth ≤ b.depth := by
  induction h with
  | refl => exact Nat.le_refl _
  | tail _ hstep ih => exact Nat.le_trans ih hstep.depth_le

theorem Inherits.trans {scope inner innermost : Scope} (h : Inherits scope inner) (h' : Inherits inner innermost) :
    Inherits scope innermost := by
  rcases h' with rfl | hvalue
  · exact h
  · exact .inr hvalue

/-- All scopes of a rendering are the one that it begins with, or those of values and items. -/
theorem Passes.inherits (h : s.Passes a b) : Inherits a.scope b.scope := by
  induction h with
  | refl => exact .inl rfl
  | tail _ hstep ih =>
    cases hstep with
    | into henters => exact ih.trans henters.admits.scope
    | past => exact ih

/-- **Jobs that come up are among those that are closed under what questions are answered by**, and under going on. -/
theorem Passes.job_of_closed {P : Job → Prop}
    (hinto : ∀ j inner σ, P j → ((s.question j).runFrom σ).1 = .ok (.enters inner) → P inner)
    (hpast : ∀ j task, P j → j.task.rest? = some task → P { j with task }) (h : s.Passes a b) (ha : P a.toJob) :
    P b.toJob := by
  induction h with
  | refl => exact ha
  | tail _ hstep ih =>
    cases hstep with
    | into henters => exact hinto _ _ _ ih (congrArg Prod.fst henters)
    | past hrest => exact hpast _ _ ih hrest

theorem Leads.rank_lt (h : s.Leads a b) : s.rank b.toJob < s.rank a.toJob := by
  cases h with
  | into henters => exact henters.admits.rank_lt
  | past hrest => exact rank_lt_of_rest? hrest

theorem wellFounded_leads (s : Setting) : WellFounded fun b a => s.Leads a b :=
  Subrelation.wf Leads.rank_lt (InvImage.wf (fun a : Stage => s.rank a.toJob) wellFounded_lt)

/-! ### What is contained -/

/-- What is done for an element is done inside the iteration. -/
theorem contain_of_iterates (h : j.Iterates) (r : Run String) : j.contain r = insideIteration r := by
  obtain ⟨depth, task, scope, stack⟩ := j
  obtain ⟨t, vs, rfl⟩ : ∃ t vs, task = .elements t vs := h
  cases depth <;> rfl

/-- Nothing is contained elsewhere, where there are as many partials around inside, or where there are others around. -/
theorem Admits.contain_eq {inner : Job} (h : s.Admits j inner) (hother : ¬j.Iterates)
    (hdepth : j.depth ≠ 0 ∨ inner.depth = 0) (r : Run String) : j.contain r = r := by
  unfold Job.contain
  split
  · next hzero htask =>
    rcases h.depth with ⟨-, hother⟩ | ⟨hdeeper, -⟩
    · exact absurd ⟨_, htask⟩ (hother _)
    · omega
  · next htask => exact absurd ⟨_, _, htask⟩ hother
  · rfl

/-- There are as many partials around an element as around the block. -/
theorem Admits.depth_eq_of_iterates {inner : Job} (h : s.Admits j inner) (hj : j.Iterates) : inner.depth = j.depth := by
  obtain ⟨t, vs, htask⟩ := hj
  rcases h.depth with ⟨hsame, -⟩ | ⟨-, name, rest, hname⟩
  · exact hsame
  · cases htask.symm.trans hname

/-- A partial that stands in no other contains an overflow of the stack. -/
theorem Admits.exists_contain_eq {inner : Job} (h : s.Admits j inner) (hj : j.depth = 0) (hinner : inner.depth ≠ 0) :
    ∃ name, j.Includes name ∧ ∀ r, j.contain r = containOverflow name r := by
  rcases h.depth with ⟨hsame, -⟩ | ⟨-, name, rest, htask⟩
  · omega
  · refine ⟨name, ⟨rest, htask⟩, fun r => ?_⟩
    rw [Job.contain, hj, htask]
    rfl

/-! ### Faults go up -/

/-- A fault that arises at a stage is what the stage ends in. -/
theorem outcome_of_arises {f : Fault} (h : s.Arises a f) : s.outcome a = (.error f, (s.answer a).2) := by
  refine outcome_of_part_fails ?_
  rw [part_eq]
  exact runFrom_bind_error (Prod.ext h rfl) _

/-- Whether a fault goes up from a stage to another one that leads to it: an overflow of the stack does not leave the
partial that stands in no other. -/
def GoesUp (f : Fault) (a b : Stage) : Prop := a.depth ≠ 0 ∨ b.depth = 0 ∨ f.kind ≠ .recursion

theorem GoesUp.outOfIteration {f : Fault} (h : GoesUp f a b) : GoesUp f.outOfIteration a b :=
  h.imp id (Or.imp id (mt Fault.kind_outOfIteration_eq_recursion.mp))

/-- A fault that leaves an element leaves the iteration. -/
theorem Enters.outcome_eq_error (h : s.Enters a b) (ha : a.Iterates) {f : Fault} {τ : RunState}
    (hb : s.outcome b = (.error f, τ)) : s.outcome a = (.error f.outOfIteration, τ) := by
  have hinside : (s.carryOut b.toJob).runFrom b.state = (.error f, τ) := hb
  refine outcome_of_part_fails ?_
  rw [h.runFrom_part, contain_of_iterates ha, runFrom_insideIteration, hinside]
  rfl

/-- **A fault goes up from stage to stage.** -/
theorem Leads.outcome_eq_error (h : s.Leads a b) (hother : ¬(a.Iterates ∧ s.Enters a b)) {f : Fault} {τ : RunState}
    (hb : s.outcome b = (.error f, τ)) (hup : GoesUp f a b) : s.outcome a = (.error f, τ) := by
  cases h with
  | past hrest hpart =>
    rw [outcome_of_rest_some hrest, hpart]
    dsimp only
    rw [hb]
  | into henters =>
    refine outcome_of_part_fails ?_
    have hinside : (s.carryOut b.toJob).runFrom b.state = (.error f, τ) := hb
    rw [henters.runFrom_part]
    by_cases hdepth : a.depth ≠ 0 ∨ b.depth = 0
    · rw [henters.admits.contain_eq (fun ha => hother ⟨ha, henters⟩) hdepth, hinside]
    · have hkind : f.kind ≠ .recursion := (or_assoc.mpr hup).resolve_left hdepth
      obtain ⟨ha, hb⟩ := not_or.mp hdepth
      obtain ⟨name, -, hcontain⟩ := henters.admits.exists_contain_eq (not_not.mp ha) hb
      rw [hcontain, runFrom_containOverflow, hinside]
      dsimp only
      rw [if_neg hkind]

/-- The first of the stages that are passed, and the others: what goes up from the last one goes up to the first. -/
theorem Leads.goesUp {c : Stage} (hstep : s.Leads a c) (hpasses : s.Passes c b) {f : Fault} (hup : GoesUp f a b) :
    GoesUp f a c ∧ GoesUp f c b := by
  have hle : a.depth ≤ c.depth := hstep.depth_le
  have hle' : c.depth ≤ b.depth := Passes.depth_le hpasses
  exact ⟨hup.imp id (Or.imp (fun hzero => by omega) id), hup.imp (fun ha hzero => ha (by omega)) id⟩

theorem InElement.head {c : Stage} (hstep : s.Leads a c) (h : s.InElement c b) : s.InElement a b := by
  obtain ⟨houter, hiterates, henters, hinner⟩ := h
  exact ⟨houter.head hstep, hiterates, henters, hinner⟩

/-- Outside of iterations a fault remains the same on its way up. -/
theorem Passes.outcome_eq_error_of_not_inElement (h : s.Passes a b) (hout : ¬s.InElement a b) {f : Fault}
    {τ : RunState} (hb : s.outcome b = (.error f, τ)) (hup : GoesUp f a b) : s.outcome a = (.error f, τ) := by
  induction h using Relation.ReflTransGen.head_induction_on with
  | refl => exact hb
  | @head a c hstep hpasses ih =>
    obtain ⟨ha, hc⟩ := hstep.goesUp hpasses hup
    refine hstep.outcome_eq_error ?_ (ih (fun hin => hout (hin.head hstep)) hc) ha
    rintro ⟨hiterates, henters⟩
    exact hout ⟨.refl, hiterates, henters, hpasses⟩

/-- Whatever a fault leaves on its way up, it remains the same, or becomes what leaves an iteration. -/
theorem Passes.outcome_eq_error_or (h : s.Passes a b) {f : Fault} {τ : RunState} (hb : s.outcome b = (.error f, τ))
    (hup : GoesUp f a b) : s.outcome a = (.error f, τ) ∨ s.outcome a = (.error f.outOfIteration, τ) := by
  induction h using Relation.ReflTransGen.head_induction_on with
  | refl => exact .inl hb
  | @head a c hstep hpasses ih =>
    obtain ⟨ha, hc⟩ := hstep.goesUp hpasses hup
    by_cases hother : a.Iterates ∧ s.Enters a c
    · obtain ⟨hiterates, henters⟩ := hother
      rcases ih hc with hf | hf
      · exact .inr (henters.outcome_eq_error hiterates hf)
      · have houter := henters.outcome_eq_error hiterates hf
        rw [Fault.outOfIteration_outOfIteration] at houter
        exact .inr houter
    · exact (ih hc).imp (hstep.outcome_eq_error hother · ha) (hstep.outcome_eq_error hother · ha.outOfIteration)

/-- **A fault goes up along the stages that are passed**, and leaves the iterations that it arises in. -/
theorem Passes.outcome_eq_error (h : s.Passes a b) {f f' : Fault} (hf : s.Becomes a b f f') {τ : RunState}
    (hb : s.outcome b = (.error f, τ)) (hup : GoesUp f a b) : s.outcome a = (.error f', τ) := by
  by_cases hin : s.InElement a b
  · rw [hf.inElement hin]
    obtain @⟨outer, inner, houter, hiterates, henters, hinner⟩ := hin
    have hle : a.depth ≤ outer.depth := Passes.depth_le houter
    have hle' : outer.depth ≤ inner.depth := henters.admits.depth_le
    have hle'' : inner.depth ≤ b.depth := Passes.depth_le hinner
    have hinside : GoesUp f inner b := hup.imp (fun ha hzero => ha (by omega)) id
    have houtside : GoesUp f a outer := hup.imp id (Or.imp (fun hzero => by omega) id)
    -- However often it has left an iteration before, it is the same fault behind this one.
    have hiteration : s.outcome outer = (.error f.outOfIteration, τ) := by
      rcases hinner.outcome_eq_error_or hb hinside with hfault | hfault
      · exact henters.outcome_eq_error hiterates hfault
      · rw [← Fault.outOfIteration_outOfIteration f]
        exact henters.outcome_eq_error hiterates hfault
    rcases houter.outcome_eq_error_or hiteration houtside.outOfIteration with hfault | hfault
    · exact hfault
    · rwa [Fault.outOfIteration_outOfIteration] at hfault
  · rw [hf.elsewhere hin]
    exact h.outcome_eq_error_of_not_inElement hin hb hup

theorem exists_becomes (s : Setting) (a b : Stage) (f : Fault) : ∃ f', s.Becomes a b f f' := by
  by_cases hin : s.InElement a b
  · exact ⟨f.outOfIteration, fun _ => rfl, fun hout => absurd hin hout⟩
  · exact ⟨f, fun h => absurd h hin, fun _ => rfl⟩

/-- A fault that iterations leave alone becomes no other one. -/
theorem becomes_iff_eq {f f' : Fault} (hf : f.kind ≠ .stop) : s.Becomes a b f f' ↔ f' = f := by
  have hout : f.outOfIteration = f := Fault.outOfIteration_of_kind_ne hf
  constructor
  · intro h
    by_cases hin : s.InElement a b
    · exact (h.inElement hin).trans hout
    · exact h.elsewhere hin
  · rintro rfl
    exact ⟨fun _ => hout.symm, fun _ => rfl⟩

/-! ### What happens in a rendering happens at a stage -/

/-- What may happen in a run: between two states, with a number of partials around, and with the fault that the run ends
in, if it ends in one. -/
abbrev Incident := (depth : Nat) → RunState → Option Fault → RunState → Prop

/-- The fault that a run ends in. -/
def fault? {α : Type} : Except Fault α → Option Fault
  | .ok _ => none
  | .error f => some f

/-- Whether something happens in a run from a state. -/
def Incident.In {α : Type} (H : Incident) (depth : Nat) (r : Run α) (σ : RunState) : Prop :=
  H depth σ (fault? (r.runFrom σ).1) (r.runFrom σ).2

/-- **Whether something happens only where something is asked**: never by reporting an event, and never in a sequence
without happening in one of its parts. What happens around a partial, and is no overflow of the stack that the partial
contains, happens in it, and what happens around an element happens in the element. -/
structure Incident.IsAsked (H : Incident) : Prop where
  still (depth : Nat) (σ : RunState) (events : Array Event) : ¬H depth σ none { σ with events }
  split {depth : Nat} {σ υ : RunState} {f? : Option Fault} (τ : RunState) : H depth σ f? υ →
    H depth σ none τ ∨ H depth τ f? υ
  inside {depth : Nat} {σ τ : RunState} {f? : Option Fault} :
    (depth ≠ 0 ∨ ∀ f, f? = some f → f.kind ≠ .recursion) → H depth σ f? τ → H (depth + 1) σ f? τ
  contained {σ τ : RunState} {f : Fault} : f.kind = .recursion → H 0 σ none τ → H 1 σ (some f) τ
  iterated {depth : Nat} {σ τ : RunState} {f : Fault} : H depth σ (some f.outOfIteration) τ → H depth σ (some f) τ

section Incidents

variable {H : Incident} (hH : H.IsAsked)

include hH

/-- What happens inside the part that comes first after a stage has been entered happens from that stage on. -/
theorem Incident.IsAsked.of_enters (henters : s.Enters a b)
    (h : H.In a.depth (a.contain (s.carryOut b.toJob)) b.state) : H.In b.depth (s.carryOut b.toJob) b.state := by
  -- Around an element a fault may be replaced, around an outermost partial it may be contained.
  by_cases hiterates : a.Iterates
  · rw [contain_of_iterates hiterates, Incident.In, runFrom_insideIteration,
      ← henters.admits.depth_eq_of_iterates hiterates] at h
    rw [Incident.In]
    rcases hrun : (s.carryOut b.toJob).runFrom b.state with ⟨f | shown, υ⟩ <;> rw [hrun] at h
    · exact hH.iterated h
    · exact h
  by_cases hdepth : a.depth ≠ 0 ∨ b.depth = 0
  · rw [henters.admits.contain_eq hiterates hdepth] at h
    rcases henters.admits.depth with ⟨hsame, -⟩ | ⟨hdeeper, -⟩
    · rwa [hsame]
    · have ha : a.depth ≠ 0 := hdepth.resolve_right (by omega)
      rw [hdeeper]
      exact hH.inside (.inl ha) h
  · obtain ⟨ha, hb⟩ := not_or.mp hdepth
    have ha : a.depth = 0 := not_not.mp ha
    have hdeeper : b.depth = 1 := by
      rcases henters.admits.depth with ⟨hsame, -⟩ | ⟨hdeeper, -⟩ <;> omega
    obtain ⟨name, -, hcontain⟩ := henters.admits.exists_contain_eq ha hb
    rw [hcontain, Incident.In, runFrom_containOverflow, ha] at h
    rw [Incident.In, hdeeper]
    rcases hrun : (s.carryOut b.toJob).runFrom b.state with ⟨f | shown, υ⟩ <;> rw [hrun] at h <;> dsimp only at h
    · by_cases hkind : f.kind = .recursion
      · rw [if_pos hkind] at h
        -- The event that reports the overflow is not what happens.
        exact hH.contained hkind ((hH.split υ h).resolve_right (hH.still 0 υ _))
      · rw [if_neg hkind] at h
        refine hH.inside (.inr ?_) h
        rintro _ ⟨⟩
        exact hkind
    · exact hH.inside (.inr nofun) h

/-- What happens in the part that comes first happens in the question, or from the stage on that is entered. -/
theorem Incident.IsAsked.part_cases (h : H.In a.depth (s.part a.toJob) a.state) :
    H.In a.depth (s.question a.toJob) a.state ∨ ∃ b, s.Enters a b ∧ H.In b.depth (s.carryOut b.toJob) b.state := by
  rw [part_eq, Incident.In] at h
  rcases hanswer : (s.question a.toJob).runFrom a.state with ⟨f | shown | inner, τ⟩
  · rw [runFrom_bind_error hanswer] at h
    exact .inl (by rwa [Incident.In, hanswer])
  · rw [runFrom_bind_ok hanswer] at h
    exact .inl (by rwa [Incident.In, hanswer])
  · have henters : s.Enters a ⟨inner, τ⟩ := hanswer
    rw [runFrom_bind_ok hanswer] at h
    rcases hH.split τ h with hbefore | hafter
    · exact .inl (by rwa [Incident.In, hanswer])
    · exact .inr ⟨⟨inner, τ⟩, henters, hH.of_enters henters hafter⟩

/-- **What happens from a stage on happens at that stage, or from a stage on that it leads to.** -/
theorem Incident.IsAsked.cases (h : H.In a.depth (s.carryOut a.toJob) a.state) :
    H.In a.depth (s.question a.toJob) a.state ∨ ∃ b, s.Leads a b ∧ H.In b.depth (s.carryOut b.toJob) b.state := by
  have hpart (h : H.In a.depth (s.part a.toJob) a.state) : H.In a.depth (s.question a.toJob) a.state ∨
      ∃ b, s.Leads a b ∧ H.In b.depth (s.carryOut b.toJob) b.state :=
    (hH.part_cases h).imp id fun ⟨b, henters, hb⟩ => ⟨b, .into henters, hb⟩
  have houtcome : H a.depth a.state (fault? (s.outcome a).1) (s.outcome a).2 := h
  cases hrest : a.task.rest? with
  | none =>
    rw [outcome_of_rest_none hrest] at houtcome
    exact hpart houtcome
  | some task =>
    rw [outcome_of_rest_some hrest] at houtcome
    rcases hfirst : (s.part a.toJob).runFrom a.state with ⟨f | shown, τ⟩ <;> rw [hfirst] at houtcome <;>
      dsimp only at houtcome
    · refine hpart ?_
      rw [Incident.In, hfirst]
      exact houtcome
    · -- The text that is put in front makes no difference.
      have hrest' : H a.depth a.state (fault? (s.outcome { a with task, state := τ }).1)
          (s.outcome { a with task, state := τ }).2 := by
        rcases hlater : s.outcome { a with task, state := τ } with ⟨f | tail, υ⟩ <;> rw [hlater] at houtcome <;>
          exact houtcome
      rcases hH.split τ hrest' with hbefore | hafter
      · refine hpart ?_
        rw [Incident.In, hfirst]
        exact hbefore
      · exact .inr ⟨_, .past hrest hfirst, hafter⟩

/-- **What happens in a rendering happens at a stage that is passed.** -/
theorem Incident.IsAsked.exists_passes (h : H.In a.depth (s.carryOut a.toJob) a.state) :
    ∃ b, s.Passes a b ∧ H.In b.depth (s.question b.toJob) b.state := by
  induction a using s.wellFounded_leads.induction with
  | _ a ih =>
    rcases hH.cases h with hhere | ⟨b, hstep, hb⟩
    · exact ⟨a, .refl, hhere⟩
    · obtain ⟨c, hpasses, hc⟩ := ih b hstep hb
      exact ⟨c, hpasses.head hstep, hc⟩

end Incidents

/-! ### Memories evolve from stage to stage -/

theorem evolves_answer (s : Setting) (a : Stage) : s.graph.Evolves a.state.memory (s.answer a).2.memory :=
  (s.ensures_question a.toJob a.state.memory a.state .refl).1

/-- The incident that a memory becomes one that memories cannot become. It does not happen. -/
theorem isAsked_evolves (g : Graph) : Incident.IsAsked fun _ σ _ τ => ¬g.Evolves σ.memory τ.memory where
  still _ _ _ h := h .refl
  split τ h := by
    by_contra! hboth
    exact h (hboth.1.trans hboth.2)
  inside _ h := h
  contained _ h := h
  iterated h := h

/-- **What is done from a stage on makes the memory evolve.** -/
theorem evolves_outcome (s : Setting) (a : Stage) :
    s.graph.Evolves a.state.memory (s.outcome a).2.memory := by
  by_contra h
  obtain ⟨b, -, hb⟩ := (isAsked_evolves s.graph).exists_passes h
  exact hb (s.evolves_answer b)

theorem evolves_part (s : Setting) (a : Stage) :
    s.graph.Evolves a.state.memory ((s.part a.toJob).runFrom a.state).2.memory := by
  by_contra h
  rcases (isAsked_evolves s.graph).part_cases h with hquestion | ⟨b, -, hb⟩
  · exact hquestion (s.evolves_answer a)
  · exact hb (s.evolves_outcome b)

theorem Leads.evolves (h : s.Leads a b) : s.graph.Evolves a.state.memory b.state.memory := by
  cases h with
  | into henters =>
    have hevolves := s.evolves_answer a
    rwa [henters] at hevolves
  | past _ hpart =>
    have hevolves := s.evolves_part a
    rwa [hpart] at hevolves

theorem Passes.evolves (h : s.Passes a b) : s.graph.Evolves a.state.memory b.state.memory := by
  induction h with
  | refl => exact .refl
  | tail _ hstep ih => exact ih.trans hstep.evolves

/-- What is made of what is done inside leaves the memory as it is. -/
theorem memory_contain (j : Job) (r : Run String) (σ : RunState) :
    ((j.contain r).runFrom σ).2.memory = (r.runFrom σ).2.memory := by
  unfold Job.contain
  split
  · rw [runFrom_containOverflow]
    rcases r.runFrom σ with ⟨f | shown, τ⟩
    · dsimp only
      split <;> rfl
    · rfl
  · rw [runFrom_insideIteration]
  · rfl

/-- What a stage ends in comes after the part that comes first. -/
theorem evolves_outcome_of_part (s : Setting) (a : Stage) :
    s.graph.Evolves ((s.part a.toJob).runFrom a.state).2.memory (s.outcome a).2.memory := by
  cases hrest : a.task.rest? with
  | none =>
    rw [outcome_of_rest_none hrest]
    exact .refl
  | some task =>
    rw [outcome_of_rest_some hrest]
    rcases (s.part a.toJob).runFrom a.state with ⟨f | first, τ⟩
    · exact .refl
    · have hlater := s.evolves_outcome { a with task, state := τ }
      dsimp only at hlater ⊢
      rcases hsecond : s.outcome { a with task, state := τ } with ⟨f | second, υ⟩ <;> rw [hsecond] at hlater <;>
        exact hlater

/-- **What a stage ends in comes after what the stages end in that it leads to.** -/
theorem Leads.evolves_outcome (h : s.Leads a b) : s.graph.Evolves (s.outcome b).2.memory (s.outcome a).2.memory := by
  cases h with
  | into henters =>
    have hpart := s.evolves_outcome_of_part a
    rw [henters.runFrom_part, memory_contain] at hpart
    exact hpart
  | @past task shown τ hrest hpart =>
    rw [outcome_of_rest_some hrest, hpart]
    dsimp only
    rcases s.outcome { a with task, state := τ } with ⟨f | second, υ⟩ <;> exact .refl

/-- What a stage ends in comes after the answer to its question. -/
theorem evolves_outcome_of_answer (s : Setting) (a : Stage) :
    s.graph.Evolves (s.answer a).2.memory (s.outcome a).2.memory := by
  have hpart := s.evolves_outcome_of_part a
  rcases hanswer : s.answer a with ⟨f | text | inner, τ⟩
  · rw [part_eq, runFrom_bind_error hanswer] at hpart
    exact hpart
  · rw [part_eq, runFrom_bind_ok hanswer] at hpart
    exact hpart
  · have hinto : s.Leads a ⟨inner, τ⟩ := .into hanswer
    exact (s.evolves_outcome ⟨inner, τ⟩).trans hinto.evolves_outcome

/-! ### Faults and calls -/

/-- The incident that a run ends in a fault that leaves the partials around. -/
theorem isAsked_fault :
    Incident.IsAsked fun depth _ f? _ => ∃ f, f? = some f ∧ (f.kind = .recursion → depth = 0) where
  still _ _ _ := by
    rintro ⟨f, ⟨⟩, -⟩
  split _ h := .inr h
  inside hkind := by
    rintro ⟨f, rfl, hdepth⟩
    refine ⟨f, rfl, fun hrecursion => ?_⟩
    rcases hkind with hinside | hother
    · exact absurd (hdepth hrecursion) hinside
    · exact absurd hrecursion (hother f rfl)
  contained _ := by
    rintro ⟨f, ⟨⟩, -⟩
  iterated := by
    rintro depth σ τ f ⟨_, ⟨⟩, hdepth⟩
    exact ⟨f, rfl, fun hrecursion => hdepth (Fault.kind_outOfIteration_eq_recursion.mpr hrecursion)⟩

/-- **A stage ends in a fault if and only if a fault that becomes it arises at a stage that is passed**, where an
overflow of the stack has to arise outside all partials. -/
theorem outcome_eq_error_iff {f' : Fault} (ha : a.depth = 0) :
    (s.outcome a).1 = .error f' ↔
      ∃ b f, s.Passes a b ∧ s.Arises b f ∧ (f.kind = .recursion → b.depth = 0) ∧ s.Becomes a b f f' := by
  have hends {b : Stage} {f f' : Fault} (hpasses : s.Passes a b) (harises : s.Arises b f)
      (hdepth : f.kind = .recursion → b.depth = 0) (hf : s.Becomes a b f f') : (s.outcome a).1 = .error f' := by
    have hup : GoesUp f a b := by
      by_cases hkind : f.kind = .recursion
      · exact .inr (.inl (hdepth hkind))
      · exact .inr (.inr hkind)
    rw [Passes.outcome_eq_error hpasses hf (outcome_of_arises harises) hup]
  constructor
  · intro h
    have hin : ∃ f, fault? (s.outcome a).1 = some f ∧ (f.kind = .recursion → a.depth = 0) :=
      ⟨f', by rw [h]; rfl, fun _ => ha⟩
    obtain ⟨b, hpasses, f, hfault, hdepth⟩ := isAsked_fault.exists_passes hin
    have harises : s.Arises b f := by
      rw [Arises, answer]
      cases hres : ((s.question b.toJob).runFrom b.state).1 with
      | ok _ =>
        rw [hres] at hfault
        cases hfault
      | error f' =>
        rw [hres] at hfault
        obtain rfl := Option.some.inj hfault
        rfl
    -- What the fault becomes is what the stage ends in, and that is known.
    obtain ⟨f'', hf''⟩ := s.exists_becomes a b f
    obtain rfl : f'' = f' := Except.error.inj ((hends hpasses harises hdepth hf'').symm.trans h)
    exact ⟨b, f, hpasses, harises, hdepth, hf''⟩
  · rintro ⟨b, f, hpasses, harises, hdepth, hf⟩
    exact hends hpasses harises hdepth hf

/-- A stage inside partials is passed inside one that stands in no other. -/
theorem Passes.exists_outermost {b : Stage} (h : s.Passes a b) (ha : a.depth = 0) (hb : b.depth ≠ 0) :
    ∃ outer inner, s.Passes a outer ∧ outer.depth = 0 ∧ s.Enters outer inner ∧ inner.depth ≠ 0 ∧ s.Passes inner b := by
  induction h with
  | refl => exact absurd ha hb
  | @tail c b hpasses hstep ih =>
    by_cases hc : c.depth = 0
    · cases hstep with
      | into henters => exact ⟨c, b, hpasses, hc, henters, hb, .refl⟩
      | past => exact absurd hc hb
    · obtain ⟨outer, inner, houter, hzero, henters, hinner, hinside⟩ := ih hc
      exact ⟨outer, inner, houter, hzero, henters, hinner, hinside.tail hstep⟩

/-- Where an overflow of the stack arises inside a partial, the outermost partial around it is given up. -/
theorem givenUpAround_of_arises {b : Stage} (h : s.Passes a b) (ha : a.depth = 0) (hb : b.depth ≠ 0) {f : Fault}
    (hf : f.kind = .recursion) (harises : s.Arises b f) : s.GivenUpAround a b := by
  obtain ⟨outer, inner, houter, hzero, henters, hinner, hinside⟩ := Passes.exists_outermost h ha hb
  obtain ⟨name, ⟨rest, htask⟩, hcontain⟩ := henters.admits.exists_contain_eq hzero hinner
  have hfails : (s.carryOut inner.toJob).runFrom inner.state = (.error f, (s.answer b).2) :=
    hinside.outcome_eq_error ((becomes_iff_eq (hf ▸ nofun)).mpr rfl) (outcome_of_arises harises) (.inl hinner)
  have hpart : s.part outer.toJob = s.outermost name outer.scope outer.stack := by
    rw [part, htask, hzero]
    rfl
  refine .intro houter hzero ⟨rest, htask⟩ henters hinside (τ := (s.answer b).2) ?_
  rw [← hpart, henters.runFrom_part, hcontain, runFrom_containOverflow, hfails]
  dsimp only
  rw [if_pos hf]

/-- **A fault that arises at a stage that is passed ends the rendering**, but for an overflow of the stack inside a
partial; and if it is of the kind that ends iterations, it must not leave one as it is. -/
theorem Passes.ends_of_arises (h : s.Passes a b) (ha : a.depth = 0) {f : Fault} (harises : s.Arises b f) :
    (f.kind ≠ .recursion ∨ b.depth = 0 → f.kind ≠ .stop ∨ ¬s.InElement a b → (s.outcome a).1 = .error f) ∧
      (f.kind = .stop → s.InElement a b → (s.outcome a).1 = .error .iterationStopped) ∧
      (f.kind = .recursion → b.depth ≠ 0 → s.GivenUpAround a b) := by
  refine ⟨fun hkind hout => ?_, fun hstop hin => ?_, fun hkind hdepth => ?_⟩
  · refine (outcome_eq_error_iff ha).mpr ⟨b, f, h, harises, fun hrecursion => ?_, fun hin => ?_, fun _ => rfl⟩
    · exact hkind.resolve_left fun hother => hother hrecursion
    · exact (Fault.outOfIteration_of_kind_ne (hout.resolve_right fun hnot => hnot hin)).symm
  · refine (outcome_eq_error_iff ha).mpr ⟨b, f, h, harises, fun hrecursion => ?_, fun _ => ?_, fun hout => ?_⟩
    · cases hstop.symm.trans hrecursion
    · exact (Fault.outOfIteration_of_kind_eq hstop).symm
    · exact absurd hin hout
  · exact givenUpAround_of_arises h ha hdepth hkind harises

/-- The incident that the callable at a place is called. -/
theorem isAsked_call (place : Nat) :
    Incident.IsAsked fun _ σ _ τ => σ.memory.calls place < τ.memory.calls place where
  still _ _ _ := Nat.lt_irrefl _
  split _ h := by omega
  inside _ h := h
  contained _ h := h
  iterated h := h

/-- **A callable that is called in a rendering is called at a stage that is passed.** -/
theorem exists_calls {place : Nat} (h : a.state.memory.calls place < (s.outcome a).2.memory.calls place) :
    ∃ b, s.Passes a b ∧ s.Calls b place :=
  (isAsked_call place).exists_passes h

end Setting

end Stencil
