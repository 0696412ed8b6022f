import Stencil.Proofs.Inlining
import Stencil.Proofs.Stages

/-!
# What callables raise

A callable that raises is called at one of the stages of a rendering, by the name that comes first there. From that
stage the fault goes up, through blocks, through elements and through partials, and ends the rendering
(`Stencil.Setting.render_raises`).

There are two kinds of fault that do not go up everywhere. A partial that stands in no other takes a fault of the kind
`recursion` for an overflow of the stack, even if it is raised by a callable. Such a partial shows nothing then, and
is reported to have exceeded the stack. And an iteration over the elements of a list lets no fault out that would end
it, and makes another one of it (`Stencil.Fault.outOfIteration`).
-/

namespace Stencil

open Run

/-! ### Runs that call nothing -/

namespace Run

variable {α β : Type}

/-- Whether a run calls no callable. -/
def CallsNothing (r : Run α) : Prop := ∀ σ, (r.runFrom σ).2.memory.called = σ.memory.called

theorem callsNothing_pure (x : α) : CallsNothing (pure x) := fun _ => rfl

theorem callsNothing_report (e : Event) : CallsNothing (report e) := fun _ => rfl

theorem Reads.callsNothing {r : Run α} (h : Reads r) : CallsNothing r := fun σ => by rw [h σ]

/-- Runs without calls can be put one after the other. -/
theorem CallsNothing.bind {r : Run α} {k : α → Run β} (hr : CallsNothing r) (hk : ∀ x, CallsNothing (k x)) :
    CallsNothing (r >>= k) :=
  kept_bind (fun σ => σ.memory.called) hr hk

theorem CallsNothing.memory_bind {k : Memory → Run α} (hk : ∀ m, CallsNothing (k m)) :
    CallsNothing (Run.memory >>= k) :=
  CallsNothing.bind (fun _ => rfl) hk

theorem callsNothing_ofExcept (r : Except Fault α) : CallsNothing (ofExcept r) := (reads_ofExcept r).callsNothing

/-! ### Runs that end with a call -/

/-- **Whether a run that calls the callable at a place ends in a fault**, then and there. -/
def EndsWithCall (place : Nat) (f : Fault) (r : Run α) : Prop :=
  ∀ σ, σ.memory.calls place < (r.runFrom σ).2.memory.calls place → (r.runFrom σ).1 = .error f

variable {place : Nat} {f : Fault}

/-- Where nothing is called there is no call to end with. -/
theorem CallsNothing.endsWithCall {r : Run α} (h : CallsNothing r) : EndsWithCall place f r := by
  intro σ hcalled
  rw [Memory.calls, Memory.calls, h σ] at hcalled
  exact absurd hcalled (Nat.lt_irrefl _)

/-- If the call is made in the first run, that ends in the fault of it, and nothing follows. Otherwise it is made in the
second. -/
theorem EndsWithCall.bind {r : Run α} {k : α → Run β} (hr : EndsWithCall place f r)
    (hk : ∀ x, EndsWithCall place f (k x)) : EndsWithCall place f (r >>= k) := by
  intro σ hcalled
  have hfirst := hr σ
  rcases hrun : r.runFrom σ with ⟨f' | x, τ⟩ <;> rw [hrun] at hfirst
  · rw [runFrom_bind_error hrun] at hcalled ⊢
    exact congrArg Except.error (Except.error.inj (hfirst hcalled))
  · rw [runFrom_bind_ok hrun] at hcalled ⊢
    -- The first run has not ended in a fault, so that it is the second one that calls.
    have hnot : ¬σ.memory.calls place < τ.memory.calls place := fun hcalled => nomatch hfirst hcalled
    exact hk x τ (by omega)

end Run

namespace Graph

variable {g : Graph}

theorem callsNothing_answer (key : Value) (ls : List Layer) : CallsNothing (g.answer key ls) := by
  induction ls with
  | nil => exact callsNothing_pure Value.null
  | cons l ls ih =>
    rw [answer]
    split
    · exact callsNothing_pure _
    · exact CallsNothing.bind (fun _ => rfl) fun _ => callsNothing_pure _
    · exact ih

theorem callsNothing_get (key : Value) (view : MapView) : CallsNothing (g.get key view) := by
  cases view with
  | single es => exact callsNothing_pure _
  | layered ls =>
    rw [get]
    split
    · exact callsNothing_answer key ls
    · exact callsNothing_pure _

theorem callsNothing_child (v : Value) (key : String) : CallsNothing (g.child v key) := by
  refine .memory_bind fun m => (callsNothing_ofExcept _).bind fun view? => ?_
  split
  · exact callsNothing_get _ _
  · split <;> exact callsNothing_pure _

theorem callsNothing_walk (v : Value) (ss : List String) : CallsNothing (g.walk v ss) := by
  induction ss generalizing v with
  | nil => exact callsNothing_pure v
  | cons s ss ih =>
    refine (reads_empty? v).callsNothing.bind fun empty => ?_
    split
    · exact callsNothing_pure v
    · exact (callsNothing_child v s).bind ih

theorem callsNothing_scopeChild (scope : Scope) (key : String) : CallsNothing (g.scopeChild scope key) := by
  cases scope with
  | value v => exact callsNothing_child v key
  | record es => exact callsNothing_pure _
  | layered v es => exact .memory_bind fun m => callsNothing_get _ _

/-- **Resolving a name calls nothing.** -/
theorem callsNothing_resolve (scope : Scope) (name : String) : CallsNothing (g.resolve scope name) := by
  rw [resolve]
  split
  · cases segments name with
    | nil => exact callsNothing_pure Value.null
    | cons s ss =>
      cases scope with
      | value v => exact callsNothing_walk v (s :: ss)
      | record es => exact (callsNothing_scopeChild _ s).bind fun v => callsNothing_walk v ss
      | layered v es => exact (callsNothing_scopeChild _ s).bind fun v => callsNothing_walk v ss
  · exact callsNothing_scopeChild scope name

/-! ### Calls that raise -/

variable {place : Nat} {parameters : Option (List Parameter)} {kind : FaultKind} {text : String}
  (hnode : g.nodes[place]? = some (.callable parameters (.fails kind text)))

include hnode

theorem endsWithCall_invoke (v : Value) : EndsWithCall place (.raised kind text) (g.invoke v) := by
  unfold invoke
  split
  · next place' parameters' behaviour hnode' =>
    split
    · intro σ hcalled
      by_cases hplace : place' = place
      · subst hplace
        obtain ⟨-, rfl⟩ := Node.callable.inj (Option.some.inj (hnode'.symm.trans hnode))
        rfl
      · -- The call of another callable is not counted here.
        have hsame : ((call place' behaviour).runFrom σ).2.memory.calls place = σ.memory.calls place := by
          cases behaviour <;> exact List.count_cons_of_ne hplace
        rw [hsame] at hcalled
        exact absurd hcalled (Nat.lt_irrefl _)
    · exact (callsNothing_pure _).endsWithCall
  · split <;> exact (callsNothing_pure _).endsWithCall
  · exact (callsNothing_pure _).endsWithCall

/-- **A name that calls a callable that raises ends in what that raises.** -/
theorem endsWithCall_lookup (scope : Scope) (name : String) :
    EndsWithCall place (.raised kind text) (g.lookup scope name) :=
  (callsNothing_resolve scope name).endsWithCall.bind (endsWithCall_invoke hnode)

theorem endsWithCall_interpolate (scope : Scope) (name : String) :
    EndsWithCall place (.raised kind text) (g.interpolate scope name) := by
  refine (endsWithCall_lookup hnode scope name).bind fun v => CallsNothing.endsWithCall ?_
  refine (reads_empty? v).callsNothing.bind fun empty => ?_
  split
  · exact callsNothing_pure _
  · exact .memory_bind fun m => callsNothing_ofExcept _

end Graph

namespace Setting

variable {s : Setting} {a : Stage} {place : Nat} {parameters : Option (List Parameter)} {kind : FaultKind}
  {text : String}

/-- Entries of the partials are looked up and tested, but they are not called. -/
theorem callsNothing_source? (s : Setting) (name : String) : CallsNothing (s.source? name) := by
  refine .memory_bind fun m => ?_
  split
  · exact callsNothing_pure _
  · refine (Graph.callsNothing_get _ _).bind fun v => .memory_bind fun m' => (callsNothing_ofExcept _).bind fun b => ?_
    split
    · split <;> exact callsNothing_pure _
    · exact callsNothing_pure _

theorem callsNothing_debug (s : Setting) (e : Event) : CallsNothing (s.debug e) := by
  rw [debug]
  split
  · exact callsNothing_report e
  · exact callsNothing_pure _

theorem callsNothing_questionPartial (s : Setting) (depth : Nat) (name : String) (scope : Scope) (stack : Stack) :
    CallsNothing (s.questionPartial depth name scope stack) := by
  refine (s.callsNothing_source? name).bind fun source? => ?_
  cases source? with
  | none => exact callsNothing_pure _
  | some source =>
    rw [questionSource]
    split
    · cases Template.parse source with
      | error cause => exact (callsNothing_report _).bind fun _ => callsNothing_pure _
      | ok t =>
        exact (s.callsNothing_debug _).bind fun _ => (s.callsNothing_debug _).bind fun _ => callsNothing_pure _
    · exact (callsNothing_report _).bind fun _ => callsNothing_pure _

theorem endsWithCall_questionBlock (hnode : s.graph.nodes[place]? = some (.callable parameters (.fails kind text)))
    (block : BlockKind) (depth : Nat) (name : String) (body : Template) (scope : Scope) (stack : Stack) :
    EndsWithCall place (.raised kind text) (s.questionBlock block depth name body scope stack) := by
  refine (Graph.endsWithCall_lookup hnode scope name).bind fun v => CallsNothing.endsWithCall ?_
  refine (reads_empty? v).callsNothing.bind fun empty => ?_
  cases block <;> cases empty
  · dsimp only
    split
    · exact callsNothing_pure _
    · exact (reads_blockScope scope v).callsNothing.bind fun _ => callsNothing_pure _
  · exact callsNothing_pure _
  · exact callsNothing_pure _
  · exact callsNothing_pure _

/-- **What a callable raises arises at the stage at which it is called.** -/
theorem arises_of_calls (hnode : s.graph.nodes[place]? = some (.callable parameters (.fails kind text)))
    (hcalls : s.Calls a place) : s.Arises a (.raised kind text) := by
  have hanswer {α : Type} {r : Run α} (hr : EndsWithCall place (.raised kind text) r) (f : α → Stage.Answer) :
      EndsWithCall place (.raised kind text) (do return f (← r) : Run Stage.Answer) :=
    hr.bind fun _ => (callsNothing_pure _).endsWithCall
  refine (?_ : EndsWithCall place (.raised kind text) (s.question a.toJob)) a.state hcalls
  obtain ⟨⟨depth, task, scope, stack⟩, σ⟩ := a
  rcases task with (_ | ⟨_ | n | n | n, rest⟩ | ⟨block, name, body, rest⟩) | ⟨frames, t⟩ | ⟨t, _ | ⟨v, vs⟩⟩
  · exact (callsNothing_pure _).endsWithCall
  · exact (callsNothing_pure _).endsWithCall
  · exact hanswer (Graph.endsWithCall_interpolate hnode scope n) _
  · exact hanswer (Graph.endsWithCall_interpolate hnode scope n) _
  · exact (s.callsNothing_questionPartial depth n scope stack).endsWithCall
  · exact endsWithCall_questionBlock hnode block depth name body scope stack
  · exact hanswer (reads_enter stack frames).callsNothing.endsWithCall _
  · exact (callsNothing_pure _).endsWithCall
  · exact hanswer (reads_elementScope v).callsNothing.endsWithCall _

/-- **What a callable raises ends the rendering**, wherever the tag stands that calls it: every call is made at a
stage that is passed, and from there the fault goes up. Two kinds of fault do not do so everywhere. One of the kind
`recursion` that is raised inside a partial does not leave it: the outermost partial around takes it for an overflow of
the stack and is given up. And one of the kind `stop` that is raised inside an element of a list ends the rendering in
another fault, the one that iterations make of it. -/
theorem render_raises (s : Setting) (t : Template) (scope : Scope) (stack : Stack) (σ : RunState) {place : Nat}
    {parameters : Option (List Parameter)} {kind : FaultKind} {text : String}
    (hnode : s.graph.nodes[place]? = some (.callable parameters (.fails kind text))) :
    let rendered := (s.render t scope stack).runFrom σ
    (σ.memory.calls place < rendered.2.memory.calls place →
      ∃ a, s.Passes (start t scope stack σ) a ∧ s.Calls a place) ∧
    ∀ a, s.Passes (start t scope stack σ) a → s.Calls a place →
      (kind ≠ .recursion ∨ a.depth = 0 → kind ≠ .stop ∨ ¬s.InElement (start t scope stack σ) a →
        rendered.1 = .error (.raised kind text)) ∧
      (kind = .stop → s.InElement (start t scope stack σ) a → rendered.1 = .error .iterationStopped) ∧
      (kind = .recursion → a.depth ≠ 0 → s.GivenUpAround (start t scope stack σ) a) := by
  refine ⟨exists_calls (a := start t scope stack σ), fun a hpasses hcalls => ?_⟩
  exact Passes.ends_of_arises hpasses rfl (arises_of_calls hnode hcalls)

/-! ### Callables that raise, and one that is contained -/

/-- A list `xs` to render a partial `p` for, which calls `f` in an inverted block. The callable raises. -/
def crashing (kind : FaultKind) : Setting where
  graph := ⟨#[.table .plain [(.text "xs", .ref 1), (.text "f", .ref 2)], .sequence .list [.ref 0, .ref 0],
    .callable (some []) (.fails kind "boom"),
    .table .plain [(.text "p", .text "\x7b\x7b^none\x7d\x7d\x7b\x7bf\x7d\x7d\x7b\x7b/none\x7d\x7d")]],
    by simp [Node.KeepsDefault]⟩
  settings := .initial
  partials := .value (.ref 3)

/-- The partial inside a list section. -/
def crashingTemplate : Template := .block .plain "xs" (.leaf (.inclusion "p") .nil) .nil

/-- What the callable raises for the first element ends the rendering. -/
theorem render_raises_crashing :
    (crashing .value).graph.nodes[2]? = some (.callable (some []) (.fails .value "boom")) ∧
    ∃ a, (crashing .value).Passes (start crashingTemplate (.value (.ref 0)) Stack.ordinary ⟨.fresh, #[]⟩) a ∧
      (crashing .value).Calls a 2 ∧ (((crashing .value).render crashingTemplate (.value (.ref 0))
        Stack.ordinary).runFrom ⟨.fresh, #[]⟩).1 = .error (.raised .value "boom") := by
  have hnode : (crashing .value).graph.nodes[2]? = some (.callable (some []) (.fails .value "boom")) := rfl
  obtain ⟨hpassed, hraises⟩ := render_raises (crashing .value) crashingTemplate (.value (.ref 0)) Stack.ordinary
    ⟨.fresh, #[]⟩ hnode
  obtain ⟨a, hpasses, hcalls⟩ := hpassed (by decide +kernel)
  exact ⟨hnode, a, hpasses, hcalls, (hraises a hpasses hcalls).1 (.inl nofun) (.inl nofun)⟩

/-- **Not everything that a callable raises ends the rendering as it is**: what looks like an overflow of the stack is
contained by the partial that calls it, and what must not leave an iteration is replaced. -/
theorem exists_raised_contained :
    (overflowing.graph.nodes[2]? = some (.callable (some []) (.fails .recursion "deep")) ∧
      let rendered := (overflowing.render inclusionOnly (.value (.ref 1)) Stack.ordinary).runFrom ⟨.fresh, #[]⟩
      Memory.fresh.calls 2 < rendered.2.memory.calls 2 ∧ rendered.1 = .ok "" ∧
        rendered.2.events = #[.stackExceeded "p"]) ∧
    ((crashing .stop).graph.nodes[2]? = some (.callable (some []) (.fails .stop "boom")) ∧
      let rendered := ((crashing .stop).render crashingTemplate (.value (.ref 0)) Stack.ordinary).runFrom ⟨.fresh, #[]⟩
      Memory.fresh.calls 2 < rendered.2.memory.calls 2 ∧ rendered.1 = .error .iterationStopped) := by
  exact ⟨⟨rfl, by decide +kernel, rfl, by decide +kernel⟩, rfl, by decide +kernel, rfl⟩

end Setting

end Stencil
