import Stencil.Proofs.Agreement
import Stencil.Proofs.Dependence
import Stencil.Proofs.Kinds
import Stencil.Proofs.Simulation

/-!
# Containers of other kinds are rendered the same

What a name stands for in one of two interchangeable scopes is interchangeable with what it stands for in the other one
(`Stencil.Scope.Interchangeable.alikeFrom_lookup`). So the stages of two renderings differ in nothing but
interchangeable values (`Stencil.Setting.ExchangedAt`), and the same text is shown at each of them as long as no
container is shown.

Two kinds of table are told apart by more than their text. A table with a default stores an entry when it is asked for a
key that only a later table of its chain has, and gives the default; a table of another kind is passed over. So all this
is about runs in which no table gains an entry (`Stencil.Run.AlikeFrom`). As tables never lose entries, a rendering that
leaves them as they were has left them so at each of its stages (`Stencil.Setting.Leads.keeps`).
-/

namespace Stencil

open Run

/-! ### Runs that keep what they find -/

namespace Run

variable {α β γ δ : Type} {g : Graph} {σ : RunState}

/-- Whether two runs end in the same state, and in the same fault or in values that are related. -/
def EndsAs (P : α → β → Prop) (first : Except Fault α × RunState) (second : Except Fault β × RunState) : Prop :=
  first.2 = second.2 ∧ EndAlike P first.1 second.1

/-- **Whether two runs do alike from a state if tables gain nothing in them.** -/
def AlikeFrom (P : α → β → Prop) (σ : RunState) (r : Run α) (r' : Run β) : Prop :=
  (r.runFrom σ).2.memory.gained = σ.memory.gained → (r'.runFrom σ).2.memory.gained = σ.memory.gained →
    EndsAs P (r.runFrom σ) (r'.runFrom σ)

theorem alikeFrom_pure {P : α → β → Prop} {x : α} {y : β} (h : P x y) : AlikeFrom P σ (pure x) (pure y) :=
  fun _ _ => ⟨rfl, .ok h⟩

theorem AlikeFrom.refl {P : α → α → Prop} (hP : ∀ x, P x x) (r : Run α) : AlikeFrom P σ r r :=
  fun _ _ => ⟨rfl, .refl hP _⟩

theorem alikeFrom_memory_bind {P : α → β → Prop} {k : Memory → Run α} {k' : Memory → Run β}
    (h : AlikeFrom P σ (k σ.memory) (k' σ.memory)) : AlikeFrom P σ (memory >>= k) (memory >>= k') := by
  rw [AlikeFrom, runFrom_bind_ok (runFrom_memory σ), runFrom_bind_ok (runFrom_memory σ)]
  exact h

theorem alikeFrom_ofExcept_bind {P : α → β → Prop} {Q : γ → δ → Prop} {r : Except Fault α} {r' : Except Fault β}
    (h : EndAlike P r r') {k : α → Run γ} {k' : β → Run δ} (hk : ∀ x y, P x y → AlikeFrom Q σ (k x) (k' y)) :
    AlikeFrom Q σ (ofExcept r >>= k) (ofExcept r' >>= k') := by
  cases h with
  | error f => exact fun _ _ => ⟨rfl, .error f⟩
  | ok hxy => exact hk _ _ hxy

/-- Runs whose values are changed at their ends. -/
theorem AlikeFrom.map {P : α → β → Prop} {Q : γ → δ → Prop} {r : Run α} {r' : Run β} (h : AlikeFrom P σ r r')
    {f : α → γ} {f' : β → δ} (hf : ∀ x y, P x y → Q (f x) (f' y)) :
    AlikeFrom Q σ (r >>= fun x => pure (f x)) (r' >>= fun y => pure (f' y)) := by
  rw [AlikeFrom, runFrom_bind_pure, runFrom_bind_pure]
  intro hkept hkept'
  obtain ⟨hstate, hend⟩ := h hkept hkept'
  exact ⟨hstate, hend.map hf⟩

/-- Two runs in sequence do alike: tables that have gained nothing in the end have gained nothing on the way. -/
theorem AlikeFrom.bind {P : α → β → Prop} {Q : γ → δ → Prop} {r : Run α} {r' : Run β} {k : α → Run γ} {k' : β → Run δ}
    (h : AlikeFrom P σ r r') (hgrows : Grows g r) (hgrows' : Grows g r') (hk : ∀ x, Grows g (k x))
    (hk' : ∀ y, Grows g (k' y))
    (hkk' : ∀ x y τ, r.runFrom σ = (.ok x, τ) → τ.memory.gained = σ.memory.gained → P x y →
      AlikeFrom Q τ (k x) (k' y)) : AlikeFrom Q σ (r >>= k) (r' >>= k') := by
  intro hkept hkept'
  have hfirst := hgrows.kept_of_bind hk hkept
  obtain ⟨hstate, hend⟩ := h hfirst (hgrows'.kept_of_bind hk' hkept')
  rcases hrun : r.runFrom σ with ⟨res, τ⟩
  rcases hrun' : r'.runFrom σ with ⟨res', τ'⟩
  rw [hrun, hrun'] at hstate hend
  rw [hrun] at hfirst
  obtain rfl : τ = τ' := hstate
  cases hend with
  | error f =>
    rw [runFrom_bind_error hrun, runFrom_bind_error hrun']
    exact ⟨rfl, .error f⟩
  | @ok x y hxy =>
    rw [runFrom_bind_ok hrun] at hkept ⊢
    rw [runFrom_bind_ok hrun'] at hkept' ⊢
    exact hkk' x y τ hrun hfirst hxy (hkept.trans hfirst.symm) (hkept'.trans hfirst.symm)

end Run

/-! ### Looking up names -/

namespace Graph

variable {g : Graph} {m : Memory} {σ : RunState} {v w : Value}

/-- Where no table gains an entry, asking layers has no effect. -/
theorem answer_unchanged (key : Value) (ls : List Layer)
    (hkept : ((g.answer key ls).runFrom σ).2.memory.gained = σ.memory.gained) :
    ((g.answer key ls).runFrom σ).2 = σ := by
  induction ls with
  | nil => rfl
  | cons l ls ih =>
    rw [answer] at hkept ⊢
    cases hfound : g.find? key l.entries with
    | some v => rfl
    | none =>
      rw [hfound] at hkept
      cases hfallback : l.fallback with
      | none =>
        rw [hfallback] at hkept
        exact ih hkept
      | some default =>
        rw [hfallback] at hkept
        have hgain : (σ.memory.gain default.1 key default.2).gained = σ.memory.gained := hkept
        have hlength := congrArg (fun gained => (gained default.1).length) hgain
        simp [Memory.gain] at hlength

/-- Where no table gains an entry, asking a map for a key gives what the first of its tables has. -/
theorem runFrom_get_of_kept {key : Value} {view : MapView}
    (hkept : ((g.get key view).runFrom σ).2.memory.gained = σ.memory.gained) :
    (g.get key view).runFrom σ = (.ok ((view.value? g key).getD .null), σ) := by
  refine runFrom_get_of_unchanged ?_
  cases view with
  | single es => rfl
  | layered ls =>
    rw [get] at hkept ⊢
    split at hkept
    · next hany =>
      rw [if_pos hany]
      exact answer_unchanged key ls hkept
    · next hany =>
      rw [if_neg hany]
      rfl

theorem alikeFrom_get {view view' : MapView} (h : view.SameNames g (g.Interchangeable m) view') (name : String) :
    AlikeFrom (g.Interchangeable m) σ (g.get (.text name) view) (g.get (.text name) view') := by
  intro hkept hkept'
  rw [runFrom_get_of_kept hkept, runFrom_get_of_kept hkept']
  exact ⟨rfl, .ok (rel_getD (interchangeable_refl g m .null) (h.rel_value? name))⟩

/-- Interchangeable values are the same maps whenever they are looked at. -/
theorem Interchangeable.endAlike_mapLike?_of_kept (hσ : σ.memory.gained = m.gained) (h : g.Interchangeable m v w) :
    EndAlike (Option.Rel (MapView.SameNames g (g.Interchangeable m))) (g.mapLike? σ.memory v)
      (g.mapLike? σ.memory w) :=
  (h.of_gained_eq hσ).endAlike_mapLike?.mono fun _ _ hviews =>
    rel_imp (fun _ _ hview => hview.mono fun _ _ hxy => hxy.of_gained_eq hσ.symm) hviews

theorem Interchangeable.isEmpty_eq_of_kept (hσ : σ.memory.gained = m.gained) (h : g.Interchangeable m v w) :
    g.isEmpty σ.memory v = g.isEmpty σ.memory w := (h.of_gained_eq hσ).isEmpty_eq

theorem Interchangeable.alikeFrom_child (hσ : σ.memory.gained = m.gained) (h : g.Interchangeable m v w) (key : String) :
    AlikeFrom (g.Interchangeable m) σ (g.child v key) (g.child w key) := by
  refine alikeFrom_memory_bind (alikeFrom_ofExcept_bind (h.endAlike_mapLike?_of_kept hσ) ?_)
  intro view? view'? hviews
  cases hviews with
  | some hviews => exact alikeFrom_get hviews key
  | none =>
    have helements := h.rel_elements?
    generalize g.elements? v = xs?, g.elements? w = ys? at helements
    cases helements with
    | none => exact alikeFrom_pure (interchangeable_refl g m .null)
    | some hitems =>
      cases Number.readInteger key.toList with
      | none => exact alikeFrom_pure (interchangeable_refl g m .null)
      | some i => exact alikeFrom_pure (rel_getD (interchangeable_refl g m .null) (Elements.rel_at? hitems i))

theorem Interchangeable.alikeFrom_empty?_bind {β γ : Type} {Q : β → γ → Prop} (hσ : σ.memory.gained = m.gained)
    (h : g.Interchangeable m v w) {k : Bool → Run β} {k' : Bool → Run γ}
    (hk : ∀ empty, g.isEmpty σ.memory v = .ok empty → AlikeFrom Q σ (k empty) (k' empty)) :
    AlikeFrom Q σ (g.empty? v >>= k) (g.empty? w >>= k') := by
  have hsame := h.isEmpty_eq_of_kept hσ
  have hempty := g.runFrom_empty? v σ
  have hempty' := g.runFrom_empty? w σ
  rw [← hsame] at hempty'
  cases htold : g.isEmpty σ.memory v with
  | error f =>
    rw [htold] at hempty hempty'
    rw [AlikeFrom, runFrom_bind_error hempty, runFrom_bind_error hempty']
    exact fun _ _ => ⟨rfl, .error f⟩
  | ok empty =>
    rw [htold] at hempty hempty'
    rw [AlikeFrom, runFrom_bind_ok hempty, runFrom_bind_ok hempty']
    exact hk empty htold

theorem Interchangeable.alikeFrom_walk (hσ : σ.memory.gained = m.gained) (h : g.Interchangeable m v w)
    (ss : List String) : AlikeFrom (g.Interchangeable m) σ (g.walk v ss) (g.walk w ss) := by
  induction ss generalizing v w σ with
  | nil => exact alikeFrom_pure h
  | cons s ss ih =>
    refine h.alikeFrom_empty?_bind hσ fun empty _ => ?_
    split
    · exact alikeFrom_pure h
    · refine (h.alikeFrom_child hσ s).bind (g.isQuiet_child v s).grows (g.isQuiet_child w s).grows
        (fun x => (g.isQuiet_walk x ss).grows) (fun y => (g.isQuiet_walk y ss).grows) ?_
      exact fun x y τ _ hτ hxy => ih (hτ.trans hσ) hxy

end Graph

/-- Whether two scopes are those of interchangeable values, or of interchangeable items. -/
inductive Scope.Interchangeable (g : Graph) (m : Memory) : Scope → Scope → Prop
  | value {v w : Value} : g.Interchangeable m v w → Interchangeable g m (.value v) (.value w)
  | item {v w : Value} : g.Interchangeable m v w → Interchangeable g m (.item v) (.item w)

namespace Scope.Interchangeable

variable {g : Graph} {m : Memory} {σ : RunState} {scope scope' : Scope}

theorem alikeFrom_scopeChild (hσ : σ.memory.gained = m.gained) (h : scope.Interchangeable g m scope') (key : String) :
    AlikeFrom (g.Interchangeable m) σ (g.scopeChild scope key) (g.scopeChild scope' key) := by
  cases h with
  | value h => exact h.alikeFrom_child hσ key
  | item h =>
    refine Graph.alikeFrom_get (.single ?_) key
    exact Graph.sameNames_of_forall₂ (.cons ⟨rfl, h⟩ .nil)

theorem alikeFrom_resolve (hσ : σ.memory.gained = m.gained) (h : scope.Interchangeable g m scope') (name : String) :
    AlikeFrom (g.Interchangeable m) σ (g.resolve scope name) (g.resolve scope' name) := by
  rw [Graph.resolve, Graph.resolve]
  split
  · cases segments name with
    | nil => cases h <;> exact alikeFrom_pure (Graph.interchangeable_refl g m .null)
    | cons s ss =>
      have hfirst := h.alikeFrom_scopeChild hσ s
      cases h with
      | value h => exact h.alikeFrom_walk hσ (s :: ss)
      | @item v w h =>
        refine hfirst.bind (g.isQuiet_scopeChild (.item v) s).grows (g.isQuiet_scopeChild (.item w) s).grows
          (fun x => (g.isQuiet_walk x ss).grows) (fun y => (g.isQuiet_walk y ss).grows) ?_
        exact fun x y τ _ hτ hxy => hxy.alikeFrom_walk (hτ.trans hσ) ss
  · exact h.alikeFrom_scopeChild hσ name

/-- **A name stands for interchangeable values in interchangeable scopes.** -/
theorem alikeFrom_lookup (hσ : σ.memory.gained = m.gained) (h : scope.Interchangeable g m scope') (name : String) :
    AlikeFrom (g.Interchangeable m) σ (g.lookup scope name) (g.lookup scope' name) := by
  refine (h.alikeFrom_resolve hσ name).bind (g.isQuiet_resolve scope name).grows (g.isQuiet_resolve scope' name).grows
    (fun v => (g.isQuiet_invoke v).grows) (fun w => (g.isQuiet_invoke w).grows) ?_
  intro v w τ _ _ hvw
  rcases hvw.invoke_cases with rfl | ⟨hv, hw⟩
  · exact .refl (Graph.interchangeable_refl g m) _
  · rw [hv, hw]
    exact alikeFrom_pure hvw

end Scope.Interchangeable

namespace Graph

variable {g : Graph} {m : Memory} {σ : RunState} {v w : Value} {scope scope' : Scope}

theorem Interchangeable.alikeFrom_elementScope (hσ : σ.memory.gained = m.gained) (h : g.Interchangeable m v w) :
    AlikeFrom (Scope.Interchangeable g m) σ (g.elementScope v) (g.elementScope w) := by
  refine alikeFrom_memory_bind (alikeFrom_ofExcept_bind (h.endAlike_mapLike?_of_kept hσ) ?_)
  intro view? view'? hviews
  cases hviews with
  | some _ => exact alikeFrom_pure (.value h)
  | none => exact alikeFrom_pure (.item h)

theorem Interchangeable.alikeFrom_blockScope (hσ : σ.memory.gained = m.gained) (h : g.Interchangeable m v w)
    (hscope : scope.Interchangeable g m scope') :
    AlikeFrom (Scope.Interchangeable g m) σ (g.blockScope scope v) (g.blockScope scope' w) := by
  refine alikeFrom_memory_bind (alikeFrom_ofExcept_bind (h.endAlike_mapLike?_of_kept hσ) ?_)
  intro view? view'? hviews
  cases hviews with
  | some _ => exact alikeFrom_pure (.value h)
  | none => exact alikeFrom_pure hscope

/-- **A name shows the same in interchangeable scopes**, if what it shows holds no container. -/
theorem alikeFrom_interpolate (hσ : σ.memory.gained = m.gained) (hscope : scope.Interchangeable g m scope')
    (name : String)
    (hshown : ∀ v τ, (g.lookup scope name).runFrom σ = (.ok v, τ) → g.isEmpty τ.memory v = .ok false →
      ∀ x, g.Holds τ.memory v x → ¬g.IsContainer x) :
    AlikeFrom Eq σ (g.interpolate scope name) (g.interpolate scope' name) := by
  refine (hscope.alikeFrom_lookup hσ name).bind (g.isQuiet_lookup scope name).grows
    (g.isQuiet_lookup scope' name).grows grows_shown grows_shown ?_
  intro v w τ hlookup hτ hvw
  refine hvw.alikeFrom_empty?_bind (hτ.trans hσ) fun empty hempty => ?_
  cases empty with
  | true => exact alikeFrom_pure rfl
  | false =>
    -- Texts of interchangeable values differ, so what is shown has to be the same value.
    obtain rfl := (hvw.of_gained_eq (hτ.trans hσ)).eq_of_holds_no_container (hshown v τ hlookup hempty)
    exact .refl (fun _ => rfl) _

end Graph

/-! ### Stages -/

/-- Whether two tasks are the same but for the elements, which are interchangeable. -/
inductive Task.Interchangeable (g : Graph) (m : Memory) : Task → Task → Prop
  | template (t : Template) : Interchangeable g m (.template t) (.template t)
  | body (frames : Nat) (t : Template) : Interchangeable g m (.body frames t) (.body frames t)
  | elements (t : Template) {vs ws : List Value} : List.Forall₂ (g.Interchangeable m) vs ws →
    Interchangeable g m (.elements t vs) (.elements t ws)

/-- What follows the part that comes first. -/
theorem Task.Interchangeable.rel_rest? {g : Graph} {m : Memory} {task task' : Task}
    (h : task.Interchangeable g m task') : Option.Rel (Task.Interchangeable g m) task.rest? task'.rest? := by
  cases h with
  | template t =>
    cases t with
    | nil => exact .none
    | leaf l rest => exact .some (.template rest)
    | block kind name body rest => exact .some (.template rest)
  | body frames t => exact .none
  | elements t hvs =>
    cases hvs with
    | nil => exact .none
    | cons _ hrest => exact .some (.elements t hrest)

/-- Whether two jobs differ in nothing but interchangeable values. -/
structure Job.Interchangeable (g : Graph) (m : Memory) (j j' : Job) : Prop where
  depth : j.depth = j'.depth
  task : j.task.Interchangeable g m j'.task
  scope : j.scope.Interchangeable g m j'.scope
  stack : j.stack = j'.stack

namespace Setting

variable {s : Setting} {m : Memory} {σ : RunState} {scope scope' : Scope} {j j' : Job}

/-- What comes of a block whose name stands for a value. -/
def questionFound (s : Setting) (kind : BlockKind) (depth : Nat) (body : Template) (scope : Scope) (stack : Stack)
    (v : Value) : Run Stage.Answer := do
  match kind, ← s.graph.empty? v with
  | .plain, true => return .shows ""
  | .plain, false =>
    match s.graph.elements? v with
    | some xs => return .enters ⟨depth, .elements body xs.toList, scope, stack⟩
    | none => return .enters ⟨depth, .body Stack.plainFrames body, ← s.graph.blockScope scope v, stack⟩
  | .inverted, true => return .enters ⟨depth, .body Stack.invertedFrames body, scope, stack⟩
  | .inverted, false => return .shows ""

theorem questionBlock_eq (s : Setting) (kind : BlockKind) (depth : Nat) (name : String) (body : Template)
    (scope : Scope) (stack : Stack) :
    s.questionBlock kind depth name body scope stack =
      s.graph.lookup scope name >>= s.questionFound kind depth body scope stack := rfl

theorem grows_questionFound (s : Setting) (kind : BlockKind) (depth : Nat) (body : Template) (scope : Scope)
    (stack : Stack) (v : Value) : Grows s.graph (s.questionFound kind depth body scope stack v) := by
  refine (s.graph.isQuiet_empty? v).grows.bind fun empty => ?_
  cases kind <;> cases empty
  · dsimp only
    split
    · exact (isQuiet_pure _).grows
    · exact (s.graph.isQuiet_blockScope scope v).grows.bind fun _ => (isQuiet_pure _).grows
  · exact (isQuiet_pure _).grows
  · exact (isQuiet_pure _).grows
  · exact (isQuiet_pure _).grows

theorem alikeFrom_questionBlock (hσ : σ.memory.gained = m.gained) (hscope : scope.Interchangeable s.graph m scope')
    (kind : BlockKind) (depth : Nat) (name : String) (body : Template) (stack : Stack) :
    AlikeFrom (Stage.Answer.Alike (Job.Interchangeable s.graph m)) σ
      (s.questionBlock kind depth name body scope stack) (s.questionBlock kind depth name body scope' stack) := by
  rw [questionBlock_eq, questionBlock_eq]
  refine (hscope.alikeFrom_lookup hσ name).bind (s.graph.isQuiet_lookup scope name).grows
    (s.graph.isQuiet_lookup scope' name).grows (s.grows_questionFound kind depth body scope stack)
    (s.grows_questionFound kind depth body scope' stack) ?_
  intro v w τ _ hτ hvw
  refine hvw.alikeFrom_empty?_bind (hτ.trans hσ) fun empty _ => ?_
  cases kind <;> cases empty
  · have helements := hvw.rel_elements?
    dsimp only
    generalize s.graph.elements? v = xs?, s.graph.elements? w = ys? at helements
    cases helements with
    | some hitems => exact alikeFrom_pure (.enters ⟨rfl, .elements body hitems, hscope, rfl⟩)
    | none =>
      exact (hvw.alikeFrom_blockScope (hτ.trans hσ) hscope).map fun _ _ hinner =>
        .enters ⟨rfl, .body _ body, hinner, rfl⟩
  · exact alikeFrom_pure (.shows "")
  · exact alikeFrom_pure (.shows "")
  · exact alikeFrom_pure (.enters ⟨rfl, .body _ body, hscope, rfl⟩)

theorem endsAs_questionPartial (hscope : scope.Interchangeable s.graph m scope') (depth : Nat) (name : String)
    (stack : Stack) (σ : RunState) :
    EndsAs (Stage.Answer.Alike (Job.Interchangeable s.graph m))
      ((s.questionPartial depth name scope stack).runFrom σ)
      ((s.questionPartial depth name scope' stack).runFrom σ) := by
  rw [questionPartial, questionPartial]
  rcases hsource : (s.source? name).runFrom σ with ⟨f | source?, τ⟩
  · rw [runFrom_bind_error hsource, runFrom_bind_error hsource]
    exact ⟨rfl, .error f⟩
  · rw [runFrom_bind_ok hsource, runFrom_bind_ok hsource]
    cases source? with
    | none => exact ⟨rfl, .ok (.shows "")⟩
    | some source =>
      rw [questionSource, questionSource]
      split
      · cases Template.parse source with
        | error cause => exact ⟨rfl, .ok (.shows "")⟩
        | ok t =>
          have hparsed := s.runFrom_debug (.parsed source.length t.length) τ
          have hexpanding := s.runFrom_debug (.expanding name (depth + 1))
          simp only [runFrom_bind_ok hparsed, runFrom_bind_ok (hexpanding _), runFrom_pure]
          exact ⟨rfl, .ok (.enters ⟨rfl, .body _ t, hscope, rfl⟩)⟩
      · exact ⟨rfl, .ok (.shows "")⟩

/-- **Interchangeable jobs are given alike answers**, if what is shown holds no container. -/
theorem alikeFrom_question {a : Stage} (hσ : a.state.memory.gained = m.gained)
    (h : a.toJob.Interchangeable s.graph m j')
    (hshown : ∀ v m', s.Shows a v m' → ∀ x, s.graph.Holds m' v x → ¬s.graph.IsContainer x) :
    AlikeFrom (Stage.Answer.Alike (Job.Interchangeable s.graph m)) a.state (s.question a.toJob) (s.question j') := by
  obtain ⟨⟨depth, task, scope, stack⟩, σ⟩ := a
  obtain ⟨depth', task', scope', stack'⟩ := j'
  obtain ⟨hdepth, htask, hscope, hstack⟩ := h
  obtain rfl : depth = depth' := hdepth
  obtain rfl : stack = stack' := hstack
  have hname {l : Leaf} {rest : Template} {n : String} (hl : l = .name n ∨ l = .raw n)
      (htask : task = .template (.leaf l rest)) :
      AlikeFrom Eq σ (s.graph.interpolate scope n) (s.graph.interpolate scope' n) :=
    Graph.alikeFrom_interpolate hσ hscope n fun v τ hlookup hempty =>
      hshown v τ.memory (.intro htask hl hlookup hempty)
  cases htask with
  | template t =>
    rcases t with _ | ⟨_ | n | n | n, rest⟩ | ⟨kind, name, body, rest⟩
    · exact alikeFrom_pure (.shows "")
    · exact alikeFrom_pure (.shows _)
    · exact (hname (.inl rfl) rfl).map fun shown _ hsame => hsame ▸ .shows (Text.escape shown)
    · exact (hname (.inr rfl) rfl).map fun shown _ hsame => hsame ▸ .shows shown
    · exact fun _ _ => endsAs_questionPartial hscope depth n stack σ
    · exact alikeFrom_questionBlock hσ hscope kind depth name body stack
  | body frames t =>
    exact (AlikeFrom.refl (fun _ => rfl) (stack.enter frames)).map fun left left' hleft =>
      .enters ⟨rfl, .template t, hscope, hleft⟩
  | elements t hvs =>
    cases hvs with
    | nil => exact alikeFrom_pure (.shows "")
    | @cons v w vs ws hvw _ =>
      exact (hvw.alikeFrom_elementScope hσ).map fun _ _ hinner => .enters ⟨rfl, .body _ t, hinner, rfl⟩

/-- Whether tables gain nothing from a stage on. -/
def Keeps (s : Setting) (a : Stage) : Prop := (s.outcome a).2.memory.gained = a.state.memory.gained

theorem Leads.keeps {a b : Stage} (h : s.Leads a b) (ha : s.Keeps a) :
    b.state.memory.gained = a.state.memory.gained ∧ s.Keeps b := by
  have hbefore : b.state.memory.gained = a.state.memory.gained :=
    h.evolves.gained_eq ((s.evolves_outcome b).trans h.evolves_outcome) ha
  have hafter : (s.outcome b).2.memory.gained = a.state.memory.gained :=
    (h.evolves.trans (s.evolves_outcome b)).gained_eq h.evolves_outcome ha
  exact ⟨hbefore, hafter.trans hbefore.symm⟩

theorem Keeps.gained_answer {a : Stage} (h : s.Keeps a) :
    (s.answer a).2.memory.gained = a.state.memory.gained :=
  (s.evolves_answer a).gained_eq (s.evolves_outcome_of_answer a) h

/-- Whether two stages differ in nothing but interchangeable values, and tables have gained what they have in `m` and
gain nothing from there on. -/
structure ExchangedAt (s : Setting) (m : Memory) (a b : Stage) : Prop where
  job : a.toJob.Interchangeable s.graph m b.toJob
  state : a.state = b.state
  gained : a.state.memory.gained = m.gained
  keeps : s.Keeps a
  keeps' : s.Keeps b

theorem ExchangedAt.leads {a b c d : Stage} (h : s.ExchangedAt m a b) (hac : s.Leads a c) (hbd : s.Leads b d)
    (hjob : c.toJob.Interchangeable s.graph m d.toJob) (hstate : c.state = d.state) : s.ExchangedAt m c d where
  job := hjob
  state := hstate
  gained := (hac.keeps h.keeps).1.trans h.gained
  keeps := (hac.keeps h.keeps).2
  keeps' := (hbd.keeps h.keeps').2

theorem ExchangedAt.contain_eq {a b : Stage} (h : s.ExchangedAt m a b) : a.contain = b.contain := by
  obtain ⟨⟨depth, task, scope, stack⟩, σ⟩ := a
  obtain ⟨⟨depth', task', scope', stack'⟩, τ⟩ := b
  obtain rfl : depth = depth' := h.job.depth
  have htask : task.Interchangeable s.graph m task' := h.job.task
  funext r
  cases htask with
  | template | body => rfl
  | elements => cases depth <;> rfl

/-- **Whatever comes of stages that differ in nothing but interchangeable values**, does so again. -/
theorem isSimulation_exchangedAt {start : Stage}
    (hshown : ∀ a v m', s.Passes start a → s.Shows a v m' → ∀ x, s.graph.Holds m' v x → ¬s.graph.IsContainer x) :
    IsSimulation Eq s s fun a b => s.Passes start a ∧ s.ExchangedAt m a b := by
  have hanswer {a b : Stage} (hab : s.Passes start a ∧ s.ExchangedAt m a b) :
      EndsAs (Stage.Answer.Alike (Job.Interchangeable s.graph m)) (s.answer a) (s.answer b) := by
    obtain ⟨hpasses, hexchanged⟩ := hab
    have hkept := hexchanged.keeps.gained_answer
    have hkept' := hexchanged.keeps'.gained_answer
    -- Both questions are asked from one state, which the second stage has under another name.
    rw [answer, ← hexchanged.state] at hkept'
    have hends := alikeFrom_question hexchanged.gained hexchanged.job (hshown a · · hpasses) hkept hkept'
    rw [hexchanged.state] at hends
    rw [answer, answer, hexchanged.state]
    exact hends
  refine ⟨fun hab => hab.2.contain_eq, fun hab => (hanswer hab).1, fun {a b} hab => ?_, ?_⟩
  · obtain ⟨hstate, hend⟩ := hanswer hab
    rcases ha : s.answer a with ⟨res, σ⟩
    rcases hb : s.answer b with ⟨res', τ⟩
    rw [ha, hb] at hstate hend
    cases hend with
    | error f => exact .error f
    | ok halike =>
      cases halike with
      | shows text => exact .ok (.shows text)
      | enters hinner =>
        have hinto : s.Leads a ⟨_, σ⟩ := .into ha
        exact .ok (.enters ⟨hab.1.tail hinto, hab.2.leads hinto (.into hb) hinner hstate⟩)
  · rintro a b shown σ τ ⟨hpasses, hexchanged⟩ hpart hpart' hstate
    have hrest := hexchanged.job.task.rel_rest?
    rcases ha : a.task.rest? with _ | task <;> rcases hb : b.task.rest? with _ | task' <;> rw [ha, hb] at hrest <;>
      cases hrest
    · exact .none
    · next htask =>
      have hpast : s.Leads a { a with task, state := σ } := .past ha hpart
      have hpast' : s.Leads b { b with task := task', state := τ } := .past hb hpart'
      have hjob := hexchanged.job
      exact .some ⟨hpasses.tail hpast,
        hexchanged.leads hpast hpast' ⟨hjob.depth, htask, hjob.scope, hjob.stack⟩ hstate⟩

/-- **Containers of other kinds are rendered the same.** Two renderings of a template with interchangeable values end in
the same text or fault, and in the same state, if nothing that is shown holds a container, and no table gains an entry
in either of them. -/
theorem render_eq_of_interchangeable (s : Setting) (t : Template) {v w : Value} (stack : Stack) (σ : RunState)
    (hvalues : s.graph.Interchangeable σ.memory v w)
    (hshown : ∀ a x m, s.Passes (start t (.value v) stack σ) a → s.Shows a x m →
      ∀ y, s.graph.Holds m x y → ¬s.graph.IsContainer y)
    (hkept : ((s.render t (.value v) stack).runFrom σ).2.memory.gained = σ.memory.gained)
    (hkept' : ((s.render t (.value w) stack).runFrom σ).2.memory.gained = σ.memory.gained) :
    (s.render t (.value w) stack).runFrom σ = (s.render t (.value v) stack).runFrom σ := by
  have hexchanged : s.ExchangedAt σ.memory (start t (.value v) stack σ) (start t (.value w) stack σ) :=
    ⟨⟨rfl, .template t, .value hvalues, rfl⟩, rfl, rfl, hkept, hkept'⟩
  have hsame : EndsLike Eq (s.outcome (start t (.value v) stack σ)) (s.outcome (start t (.value w) stack σ)) :=
    (isSimulation_exchangedAt hshown).endsLike (fun _ _ e h => by rw [h]) ⟨.refl, hexchanged⟩
  exact Prod.ext hsame.1 hsame.2.symm

/-! ### Rows of different kinds -/

/-- Two pages with rows: tables in a list in a table, and objects in a tuple in an object. -/
def paged : Setting where
  graph := ⟨#[.table .plain [(.text "rows", .ref 1)], .sequence .list [.ref 2],
    .table .plain [(.text "name", .text "a")], .struct "Page" [("rows", .ref 4)], .sequence .tuple [.ref 5],
    .model "Row" (some ["name"]) [("name", .text "a")]], by decide⟩
  settings := .initial
  partials := .value .null

/-- The name of a row. -/
def pagedBody : Template := .leaf (.name "name") .nil

/-- What follows the block: the name of the last row. -/
def pagedRest : Template := .leaf (.raw "rows.-1.name") .nil

/-- The names of all rows, and the name of the last one once more. -/
def pagedTemplate : Template := .block .plain "rows" pagedBody pagedRest

theorem paged_interchangeable : paged.graph.Interchangeable .fresh (.ref 0) (.ref 3) := by
  refine ⟨fun v w => v = w ∨ v = .ref 0 ∧ w = .ref 3 ∨ v = .ref 1 ∧ w = .ref 4 ∨ v = .ref 2 ∧ w = .ref 5, ?_, by simp⟩
  rintro v w (rfl | ⟨rfl, rfl⟩ | ⟨rfl, rfl⟩ | ⟨rfl, rfl⟩)
  · exact .same v
  · exact .table rfl rfl rfl rfl (Graph.sameNames_of_forall₂ (.cons ⟨rfl, by simp⟩ .nil))
  · exact .sequence rfl rfl rfl rfl (.cons (by simp) .nil)
  · exact .table rfl rfl rfl rfl (Graph.sameNames_of_forall₂ (.cons ⟨rfl, by simp⟩ .nil))

/-- What is to be done at the stages of the rendering of the first page. -/
def pagedJobs : List Job :=
  [⟨0, .template pagedTemplate, .value (.ref 0), some 1000⟩,
    ⟨0, .template pagedRest, .value (.ref 0), some 1000⟩,
    ⟨0, .template .nil, .value (.ref 0), some 1000⟩,
    ⟨0, .elements pagedBody [.ref 2], .value (.ref 0), some 1000⟩,
    ⟨0, .elements pagedBody [], .value (.ref 0), some 1000⟩,
    ⟨0, .body Stack.iteratedFrames pagedBody, .value (.ref 2), some 1000⟩,
    ⟨0, .template pagedBody, .value (.ref 2), some 997⟩,
    ⟨0, .template .nil, .value (.ref 2), some 997⟩]

theorem paged_enters {j inner : Job} {σ : RunState} (hj : j ∈ pagedJobs)
    (h : ((paged.question j).runFrom σ).1 = .ok (.enters inner)) : inner ∈ pagedJobs := by
  simp only [pagedJobs, List.mem_cons, List.not_mem_nil, or_false] at hj
  rcases hj with rfl | rfl | rfl | rfl | rfl | rfl | rfl | rfl <;> cases h <;>
    simp [pagedJobs, Elements.toList, Stack.iteratedFrames]

theorem paged_rest {j : Job} (hj : j ∈ pagedJobs) {task : Task} (hrest : j.task.rest? = some task) :
    { j with task } ∈ pagedJobs := by
  simp only [pagedJobs, List.mem_cons, List.not_mem_nil, or_false] at hj
  rcases hj with rfl | rfl | rfl | rfl | rfl | rfl | rfl | rfl <;> cases hrest <;> simp [pagedJobs]

/-- Nothing is shown but the name of the row. -/
theorem paged_shows {a : Stage} (ha : a.toJob ∈ pagedJobs) {v : Value} {m : Memory} (h : paged.Shows a v m) :
    v = .text "a" := by
  obtain ⟨j, σ⟩ := a
  cases h with
  | @intro l name rest τ htask hleaf hlookup =>
    have hname : ((paged.graph.lookup j.scope name).runFrom σ).1 = .ok (.text "a") := by
      simp only [pagedJobs, List.mem_cons, List.not_mem_nil, or_false] at ha
      rcases ha with rfl | rfl | rfl | rfl | rfl | rfl | rfl | rfl <;> cases htask <;>
        rcases hleaf with hleaf | hleaf <;> cases hleaf <;> rfl
    rw [hlookup] at hname
    exact Except.ok.inj hname

/-- Both pages show the same. -/
theorem render_eq_of_interchangeable_paged :
    let rendered := (paged.render pagedTemplate (.value (.ref 0)) Stack.ordinary).runFrom ⟨.fresh, #[]⟩
    let rendered' := (paged.render pagedTemplate (.value (.ref 3)) Stack.ordinary).runFrom ⟨.fresh, #[]⟩
    paged.graph.Interchangeable .fresh (.ref 0) (.ref 3) ∧
      (∀ a x m, paged.Passes (start pagedTemplate (.value (.ref 0)) Stack.ordinary ⟨.fresh, #[]⟩) a →
        paged.Shows a x m → ∀ y, paged.graph.Holds m x y → ¬paged.graph.IsContainer y) ∧
      rendered.2.memory.gained = Memory.fresh.gained ∧ rendered'.2.memory.gained = Memory.fresh.gained ∧
      rendered.1.toOption = some "aa" ∧ rendered' = rendered := by
  have hshown : ∀ a x m, paged.Passes (start pagedTemplate (.value (.ref 0)) Stack.ordinary ⟨.fresh, #[]⟩) a →
      paged.Shows a x m → ∀ y, paged.graph.Holds m x y → ¬paged.graph.IsContainer y := by
    rintro a x m hpasses hshows y hy ⟨n, hnode, -⟩
    have ha := Passes.job_of_closed (P := (· ∈ pagedJobs)) (fun _ _ _ => paged_enters)
      (fun _ _ hj => paged_rest hj) hpasses (by simp [pagedJobs, start, Stack.ordinary])
    obtain rfl := paged_shows ha hshows
    rw [hy.eq_of_scalar (by simp)] at hnode
    cases hnode
  refine ⟨paged_interchangeable, hshown, rfl, rfl, by decide +kernel, ?_⟩
  exact render_eq_of_interchangeable paged pagedTemplate Stack.ordinary ⟨.fresh, #[]⟩ paged_interchangeable hshown rfl
    rfl

/-! ### Where kinds can be told apart

A chain whose front table has a default answers for a key that only a later table has, while one with a front table of
another kind does not. And a set is neither a sequence nor map-like, so that it may be shown, with the kinds of all that
is in it. -/

/-- In a template that is nothing but a name only what the name stands for is shown. -/
theorem Shows.lookup_of_single {s : Setting} {name : String} {scope : Scope} {stack : Stack} {a : Stage} {v : Value}
    (hpasses : s.Passes (start (.leaf (.name name) .nil) scope stack σ) a) (h : s.Shows a v m) :
    ((s.graph.lookup scope name).runFrom σ).1 = .ok v := by
  have hanswer : (s.answer (start (.leaf (.name name) .nil) scope stack σ)).1 =
      ((s.graph.interpolate scope name).runFrom σ).1.map fun shown => .shows (Text.escape shown) :=
    congrArg Prod.fst (runFrom_bind_pure _ _ σ)
  rcases hpasses.cases_head with rfl | ⟨b, hstep, hlater⟩
  · cases h with
    | intro htask hleaf hlookup =>
      cases htask
      rcases hleaf with hleaf | hleaf <;> cases hleaf
      rw [show (s.graph.lookup scope name).runFrom σ = _ from hlookup]
  · -- Behind the name nothing is left.
    have hb : b.task = .template .nil := by
      cases hstep with
      | into henters =>
        rw [henters] at hanswer
        generalize ((s.graph.interpolate scope name).runFrom σ).1 = res at hanswer
        cases res <;> cases hanswer
      | past hrest => exact (Option.some.inj hrest).symm
    have ha : a.task = .template .nil := by
      refine Passes.job_of_closed (P := fun j => j.task = .template .nil) (fun j inner τ hj henters => ?_)
        (fun j task hj hrest => ?_) hlater hb
      · rw [question, hj] at henters
        cases henters
      · rw [hj] at hrest
        cases hrest
    cases h with
    | intro htask => cases ha.symm.trans htask

/-- Two chains that differ in the kind of their front tables, both empty, and two sets that differ in the kind of the
tuple in them. -/
def telling : Setting where
  graph := ⟨#[.table (.defaulting .int (.int 0)) [], .table .plain [], .table .plain [(.text "k", .int 1)],
    .chain [.ref 0, .ref 2], .chain [.ref 1, .ref 2], .table .plain [(.text "c", .ref 3)],
    .table .plain [(.text "c", .ref 4)], .sequence .tuple [.int 1], .sequence (.named "Pt" ["x"]) [.int 1],
    .set false [.ref 7], .set false [.ref 8], .table .plain [(.text "s", .ref 9)],
    .table .plain [(.text "s", .ref 10)]], by decide⟩
  settings := .initial
  partials := .value .null

/-- The values that are put in each other's place in these data. -/
def TellingPairs (v w : Value) : Prop :=
  v = w ∨ v = .ref 0 ∧ w = .ref 1 ∨ v = .ref 3 ∧ w = .ref 4 ∨ v = .ref 5 ∧ w = .ref 6 ∨ v = .ref 7 ∧ w = .ref 8 ∨
    v = .ref 9 ∧ w = .ref 10 ∨ v = .ref 11 ∧ w = .ref 12

theorem telling_swapped {v w : Value} (h : TellingPairs v w) : telling.graph.Swapped .fresh TellingPairs v w := by
  have hpair {key : String} {v w : Value} (hvw : TellingPairs v w) :
      telling.graph.SameNames TellingPairs [(.text key, v)] [(.text key, w)] :=
    Graph.sameNames_of_forall₂ (.cons ⟨rfl, hvw⟩ .nil)
  rcases h with rfl | ⟨rfl, rfl⟩ | ⟨rfl, rfl⟩ | ⟨rfl, rfl⟩ | ⟨rfl, rfl⟩ | ⟨rfl, rfl⟩ | ⟨rfl, rfl⟩
  · exact .same v
  · exact .table rfl rfl rfl rfl (Graph.sameNames_refl (fun _ => .inl rfl) [])
  · refine .chain rfl rfl ?_ (.cons (by simp [TellingPairs]) (.cons (.inl rfl) .nil))
    intro x hx
    simp only [List.cons_append, List.nil_append, List.mem_cons, List.not_mem_nil, or_false] at hx
    rcases hx with rfl | rfl | rfl | rfl <;> exact ⟨_, rfl, trivial⟩
  · exact .table rfl rfl rfl rfl (hpair (by simp [TellingPairs]))
  · exact .sequence rfl rfl rfl rfl (.cons (.inl rfl) .nil)
  · have hholds : telling.graph.Holds .fresh (.ref 9) (.ref 7) :=
      .contents (n := .set false [.ref 7]) rfl List.mem_cons_self
    exact .set rfl rfl hholds ⟨_, rfl, trivial⟩ (by simp [TellingPairs]) (by simp [TellingPairs])
  · exact .table rfl rfl rfl rfl (hpair (by simp [TellingPairs]))

/-- **Containers of other kinds are told apart** by a chain with a default in it, and by the text of a set. What the
names stand for is neither a sequence nor map-like. -/
theorem exists_render_ne_of_interchangeable :
    let chained := Template.leaf (.name "c.k") .nil
    let held := Template.leaf (.name "s") .nil
    let rendered (t : Template) (v : Value) := (telling.render t (.value v) Stack.ordinary).runFrom ⟨.fresh, #[]⟩
    let showsNoContainer (t : Template) (v : Value) := ∀ a x m,
      telling.Passes (start t (.value v) Stack.ordinary ⟨.fresh, #[]⟩) a → telling.Shows a x m →
        ¬telling.graph.IsContainer x
    (telling.graph.Interchangeable .fresh (.ref 5) (.ref 6) ∧
      showsNoContainer chained (.ref 5) ∧ showsNoContainer chained (.ref 6) ∧
      (rendered chained (.ref 5)).1 = .ok "" ∧ (rendered chained (.ref 6)).1 = .ok "1") ∧
    (telling.graph.Interchangeable .fresh (.ref 11) (.ref 12) ∧
      showsNoContainer held (.ref 11) ∧ showsNoContainer held (.ref 12) ∧
      (rendered held (.ref 11)).1 = .ok "\x7b(1,)\x7d" ∧ (rendered held (.ref 12)).1 = .ok "\x7bPt(x=1)\x7d") := by
  have hscalar {n : Int} : ¬telling.graph.IsContainer (.int n) := nofun
  intro chained held rendered showsNoContainer
  have hshown {name : String} {v x : Value}
      (hlookup : ((telling.graph.lookup (.value v) name).runFrom ⟨.fresh, #[]⟩).1 = .ok x)
      (hx : ¬telling.graph.IsContainer x) : showsNoContainer (.leaf (.name name) .nil) v := by
    intro a y m hpasses hshows
    have hsame := (Shows.lookup_of_single hpasses hshows).symm.trans hlookup
    rwa [Except.ok.inj hsame]
  refine ⟨⟨⟨TellingPairs, fun _ _ => telling_swapped, by simp [TellingPairs]⟩, hshown rfl hscalar, hshown rfl hscalar,
    by decide +kernel, by decide +kernel⟩, ⟨TellingPairs, fun _ _ => telling_swapped, by simp [TellingPairs]⟩,
    hshown rfl ?_, hshown rfl ?_, by decide +kernel, by decide +kernel⟩
  all_goals
    rintro ⟨n, hnode, hcontainer⟩
    cases hnode
    exact hcontainer

end Setting

end Stencil
