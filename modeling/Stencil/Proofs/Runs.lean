import Stencil.Render

/-!
# Reasoning about runs

A run is taken from a state and ends in a result and a state. The equations in this file say so for the ways in
which runs are put together, so that no proof about a run has to look into how the monad is built.

Resolving names has no effect but on the memory, and depends on nothing else: such runs are *quiet*
(`Stencil.Run.IsQuiet`). Everything that templates ask of their data is quiet; only rendering itself reports
events.
-/

namespace Stencil

namespace Run

variable {α β : Type}

/-! ### Running -/

@[simp] theorem runFrom_pure (x : α) (σ : RunState) : (pure x : Run α).runFrom σ = (.ok x, σ) := rfl

@[simp] theorem runFrom_memory (σ : RunState) : memory.runFrom σ = (.ok σ.memory, σ) := rfl

@[simp] theorem runFrom_report (e : Event) (σ : RunState) :
    (report e).runFrom σ = (.ok (), { σ with events := σ.events.push e }) := rfl

@[simp] theorem runFrom_ofExcept (r : Except Fault α) (σ : RunState) : (ofExcept r).runFrom σ = (r, σ) := by
  cases r <;> rfl

/-- What follows a run that ends in a value goes on from the state in which that has ended. -/
theorem runFrom_bind_ok {r : Run α} {σ τ : RunState} {x : α} (h : r.runFrom σ = (.ok x, τ)) (k : α → Run β) :
    (r >>= k).runFrom σ = (k x).runFrom τ := by
  have hbind : (r >>= k).runFrom σ = (ExceptT.bindCont k (r.runFrom σ).1).run (r.runFrom σ).2 := rfl
  rw [hbind, h]
  rfl

/-- What follows a run that ends in a fault does not come about. -/
theorem runFrom_bind_error {r : Run α} {σ τ : RunState} {f : Fault} (h : r.runFrom σ = (.error f, τ))
    (k : α → Run β) : (r >>= k).runFrom σ = (.error f, τ) := by
  have hbind : (r >>= k).runFrom σ = (ExceptT.bindCont k (r.runFrom σ).1).run (r.runFrom σ).2 := rfl
  rw [hbind, h]
  rfl

/-- A run that is gone on with ends in a value if it ends in one, with which the rest ends in the value. -/
theorem runFrom_bind_eq_ok_iff {r : Run α} {k : α → Run β} {σ τ : RunState} {y : β} :
    (r >>= k).runFrom σ = (.ok y, τ) ↔ ∃ x ρ, r.runFrom σ = (.ok x, ρ) ∧ (k x).runFrom ρ = (.ok y, τ) := by
  rcases hσ : r.runFrom σ with ⟨f | x, ρ⟩
  · rw [runFrom_bind_error hσ]
    constructor
    · exact nofun
    · rintro ⟨_, _, h, -⟩
      exact nomatch h
  · rw [runFrom_bind_ok hσ]
    constructor
    · exact fun h => ⟨x, ρ, rfl, h⟩
    · rintro ⟨_, _, hx, h⟩
      cases hx
      exact h

/-- Runs that end alike can be gone on with alike, from whatever states they start. -/
theorem runFrom_bind_congr {r r' : Run α} {σ τ : RunState} (h : r.runFrom σ = r'.runFrom τ) (k : α → Run β) :
    (r >>= k).runFrom σ = (r' >>= k).runFrom τ := by
  rcases hτ : r'.runFrom τ with ⟨f | x, τ'⟩
  · rw [runFrom_bind_error (h.trans hτ), runFrom_bind_error hτ]
  · rw [runFrom_bind_ok (h.trans hτ), runFrom_bind_ok hτ]

/-- A run whose value is changed at its end. -/
theorem runFrom_bind_pure (r : Run α) (f : α → β) (σ : RunState) :
    (r >>= fun x => pure (f x)).runFrom σ = ((r.runFrom σ).1.map f, (r.runFrom σ).2) := by
  rcases hσ : r.runFrom σ with ⟨e | x, τ⟩
  · rw [runFrom_bind_error hσ]
    rfl
  · rw [runFrom_bind_ok hσ]
    rfl

/-- What each of two runs leaves as it is stays as it is where they are put one after the other. -/
theorem kept_bind {γ : Type} (kept : RunState → γ) {r : Run α} {k : α → Run β}
    (hr : ∀ σ, kept (r.runFrom σ).2 = kept σ) (hk : ∀ x σ, kept ((k x).runFrom σ).2 = kept σ) (σ : RunState) :
    kept ((r >>= k).runFrom σ).2 = kept σ := by
  have hfirst := hr σ
  rcases hrun : r.runFrom σ with ⟨f | x, τ⟩ <;> rw [hrun] at hfirst
  · rw [runFrom_bind_error hrun]
    exact hfirst
  · rw [runFrom_bind_ok hrun, hk x τ]
    exact hfirst

/-- A fault is handled in the state in which the run has ended: what it did before is not taken back. -/
theorem runFrom_tryCatch (r : Run α) (handle : Fault → Run α) (σ : RunState) :
    (tryCatch r handle).runFrom σ =
      match r.runFrom σ with
      | (.ok x, τ) => (.ok x, τ)
      | (.error f, τ) => (handle f).runFrom τ := by
  rcases hr : r.runFrom σ with ⟨_ | _, _⟩
  all_goals
    have hrun : r σ = _ := hr
    simp [tryCatch, tryCatchThe, MonadExceptOf.tryCatch, ExceptT.tryCatch, runFrom, ExceptT.run, ExceptT.mk,
      StateT.run, bind, StateT.bind, hrun]
  rfl

/-- Only faults of the stack are contained. The partial then shows nothing, and that is the last that is reported of
it. -/
theorem runFrom_containOverflow (name : String) (r : Run String) (σ : RunState) :
    (containOverflow name r).runFrom σ =
      match r.runFrom σ with
      | (.ok shown, τ) => (.ok shown, τ)
      | (.error f, τ) =>
        if f.kind = .recursion then (.ok "", { τ with events := τ.events.push (.stackExceeded name) })
        else (.error f, τ) := by
  rw [containOverflow, runFrom_tryCatch]
  rcases r.runFrom σ with ⟨f | shown, τ⟩
  · dsimp only
    split <;> rfl
  · rfl

/-- An iteration changes the fault that leaves it, and nothing else. -/
theorem runFrom_insideIteration (r : Run α) (σ : RunState) :
    (insideIteration r).runFrom σ = ((r.runFrom σ).1.mapError Fault.outOfIteration, (r.runFrom σ).2) := by
  rw [insideIteration, runFrom_tryCatch]
  rcases r.runFrom σ with ⟨f | x, τ⟩ <;> rfl

/-- Another fault does not make a value. -/
theorem mapError_eq_ok_iff {r : Except Fault α} {f : Fault → Fault} {x : α} : r.mapError f = .ok x ↔ r = .ok x := by
  cases r with
  | ok y => exact Iff.rfl
  | error e => exact ⟨nofun, nofun⟩

@[simp] theorem ofExcept_ok (x : α) : ofExcept (.ok x) = pure x := rfl

/-! ### Quiet runs -/

/-- **Whether a run does nothing but read and change the memory**: it reports no events, it changes the memory in
the ways in which memories evolve, and from states with the same memory it ends alike. -/
structure IsQuiet (g : Graph) (r : Run α) : Prop where
  events (σ : RunState) : (r.runFrom σ).2.events = σ.events
  evolves (σ : RunState) : g.Evolves σ.memory (r.runFrom σ).2.memory
  alike {σ τ : RunState} : σ.memory = τ.memory →
    (r.runFrom σ).1 = (r.runFrom τ).1 ∧ (r.runFrom σ).2.memory = (r.runFrom τ).2.memory

variable {g : Graph}

theorem isQuiet_pure (x : α) : IsQuiet g (pure x : Run α) := ⟨fun _ => rfl, fun _ => .refl, fun h => ⟨rfl, h⟩⟩

theorem isQuiet_fail (f : Fault) : IsQuiet g (fail f : Run α) := ⟨fun _ => rfl, fun _ => .refl, fun h => ⟨rfl, h⟩⟩

theorem isQuiet_memory : IsQuiet g memory :=
  ⟨fun _ => rfl, fun _ => .refl, fun h => ⟨congrArg Except.ok h, h⟩⟩

theorem isQuiet_ofExcept (r : Except Fault α) : IsQuiet g (ofExcept r) := by
  cases r with
  | ok x => exact isQuiet_pure x
  | error f => exact isQuiet_fail f

/-- A change of the memory alone. -/
theorem isQuiet_modify {u : Memory → Memory} (hu : ∀ m, g.Evolves m (u m)) :
    IsQuiet g (modify fun s => { s with memory := u s.memory } : Run Unit) :=
  ⟨fun _ => rfl, fun σ => hu σ.memory, fun h => ⟨rfl, congrArg u h⟩⟩

end Run

/-- What a memory has become may go on to become what that becomes. -/
theorem Graph.Evolves.trans {g : Graph} {m m' m'' : Memory} (h : g.Evolves m m') (h' : g.Evolves m' m'') :
    g.Evolves m m'' := by
  induction h' with
  | refl => exact h
  | call place _ ih => exact .call place ih
  | gain key hnode _ ih => exact .gain key hnode ih

namespace Run

variable {α β : Type} {g : Graph}

/-- Quiet runs can be put one after the other. The second one sees only the memory of the first, so that events in
between make no difference. -/
theorem IsQuiet.bind {r : Run α} {k : α → Run β} (hr : IsQuiet g r) (hk : ∀ x, IsQuiet g (k x)) :
    IsQuiet g (r >>= k) := by
  refine ⟨fun σ => ?_, fun σ => ?_, fun {σ τ} hmem => ?_⟩
  · have hevents := hr.events σ
    rcases hσ : r.runFrom σ with ⟨f | x, σ'⟩
    · rw [runFrom_bind_error hσ]
      rwa [hσ] at hevents
    · rw [runFrom_bind_ok hσ, (hk x).events σ']
      rwa [hσ] at hevents
  · have hevolves := hr.evolves σ
    rcases hσ : r.runFrom σ with ⟨f | x, σ'⟩
    · rw [runFrom_bind_error hσ]
      rwa [hσ] at hevolves
    · rw [hσ] at hevolves
      rw [runFrom_bind_ok hσ]
      exact hevolves.trans ((hk x).evolves σ')
  · obtain ⟨hres, hmem'⟩ := hr.alike hmem
    rcases hσ : r.runFrom σ with ⟨f | x, σ'⟩
    all_goals
      rcases hτ : r.runFrom τ with ⟨res, τ'⟩
      rw [hσ, hτ] at hres hmem'
      subst hres
    · rw [runFrom_bind_error hσ, runFrom_bind_error hτ]
      exact ⟨rfl, hmem'⟩
    · rw [runFrom_bind_ok hσ, runFrom_bind_ok hτ]
      exact (hk x).alike hmem'

theorem isQuiet_mapM {f : α → Run β} (h : ∀ x, IsQuiet g (f x)) (xs : List α) : IsQuiet g (xs.mapM f) := by
  induction xs with
  | nil => exact isQuiet_pure []
  | cons x xs ih =>
    rw [List.mapM_cons]
    exact (h x).bind fun y => ih.bind fun ys => isQuiet_pure (y :: ys)

end Run

/-! ### Tables -/

namespace Graph

/-- What is found under a key is one of the values of the table. -/
theorem exists_mem_of_find? {g : Graph} {key v : Value} {es : Entries} (h : g.find? key es = some v) :
    ∃ e ∈ es, v = e.2 := by
  induction es with
  | nil => cases h
  | cons e es ih =>
    rw [find?] at h
    split at h
    · exact ⟨e, List.mem_cons_self, (Option.some.inj h).symm⟩
    · obtain ⟨e', hmem, he'⟩ := ih h
      exact ⟨e', List.mem_cons_of_mem _ hmem, he'⟩

/-- What is found under a key, or nothing where there is none, is nothing or the value of an entry. -/
theorem getD_find?_mem (g : Graph) (key : Value) (es : Entries) :
    (g.find? key es).getD .null = .null ∨ ∃ e ∈ es, (g.find? key es).getD .null = e.2 := by
  cases hfound : g.find? key es with
  | none => exact .inl rfl
  | some v => exact .inr (exists_mem_of_find? hfound)

/-- What is found under a key can be tested for its truth if the values of the table can. -/
theorem exists_truth_getD_find? {g : Graph} {m : Memory} {es : Entries}
    (h : ∀ e ∈ es, ∃ b, g.truth m e.2 = .ok b) (key : Value) :
    ∃ b, g.truth m ((g.find? key es).getD .null) = .ok b := by
  rcases g.getD_find?_mem key es with hnull | ⟨e, hmem, he⟩
  · rw [hnull]
    exact ⟨false, rfl⟩
  · rw [he]
    exact h e hmem

/-- A table without a default is the map of its entries, whatever the memory. -/
theorem mapping?_of_table {g : Graph} {v : Value} {kind : TableKind} {es : Entries}
    (hnode : g.node? v = some (.table kind es)) (hkind : ∀ factory fresh, kind ≠ .defaulting factory fresh)
    (m : Memory) : g.mapping? m v = some (.single es) := by
  have hlayers : g.layers m 1 v = [⟨es, none⟩] := by
    unfold layers
    split
    · next factory fresh _ hdefaulting =>
      rw [hnode] at hdefaulting
      cases hdefaulting
      exact absurd rfl (hkind factory fresh)
    · next htable =>
      rw [hnode] at htable
      cases htable
      rfl
    · next hchain =>
      rw [hnode] at hchain
      cases hchain
    · next hother _ _ => exact absurd hnode (hother kind es)
  rw [mapping?, hnode]
  dsimp only
  rw [hlayers, List.flatMap_singleton]

end Graph


/-- Whether the default of a layer is that of the table that gains the entries. -/
def Layer.Fits (g : Graph) (l : Layer) : Prop :=
  ∀ place fresh, l.fallback = some (place, fresh) →
    ∃ factory es, g.nodes[place]? = some (.table (.defaulting factory fresh) es)

/-- Whether the defaults of a map are those of the tables that it consists of. -/
def MapView.Fits (g : Graph) : MapView → Prop
  | single _ => True
  | layered ls => ∀ l ∈ ls, l.Fits g

namespace Graph

open Run

variable {g : Graph}

/-- The default of a layer is that of the table that the layer is. The layers of a chain are those of what it consists
of, so the induction is on the depth to which chains are followed. -/
theorem fits_of_mem_layers {m : Memory} {depth : Nat} {v : Value} {l : Layer} (h : l ∈ g.layers m depth v) :
    l.Fits g := by
  induction depth generalizing v with
  | zero => cases h
  | succ depth ih =>
    unfold layers at h
    split at h
    · next i _ factory fresh es hnode =>
      obtain rfl := List.mem_singleton.mp h
      rintro place fresh' ⟨⟩
      exact ⟨_, _, hnode⟩
    · obtain rfl := List.mem_singleton.mp h
      rintro place fresh' ⟨⟩
    · obtain ⟨w, -, hw⟩ := List.mem_flatMap.mp h
      exact ih hw
    · cases h

/-- Views of tables and chains are made of their layers, so that whatever a view answers by default is the default of a
table. -/
theorem fits_of_mapping? {m : Memory} {v : Value} {view : MapView} (h : g.mapping? m v = some view) :
    view.Fits g := by
  unfold mapping? at h
  split at h
  · obtain rfl := Option.some.inj h
    trivial
  · obtain rfl := Option.some.inj h
    exact fun l hl => fits_of_mem_layers hl
  · cases h

theorem fits_of_mapLike? {m : Memory} {v : Value} {view : MapView} (h : g.mapLike? m v = .ok (some view)) :
    view.Fits g := by
  unfold mapLike? at h
  split at h
  · cases h
    trivial
  · next type declared attributes _ =>
    cases hfields : declaredFields type attributes declared.eraseDups with
    | error f =>
      rw [hfields] at h
      cases h
    | ok es =>
      rw [hfields] at h
      cases h
      trivial
  · exact fits_of_mapping? (Except.ok.inj h)

theorem fits_scopeView (m : Memory) (scope : Scope) : (g.scopeView m scope).Fits g := by
  cases scope with
  | value v => trivial
  | record es => trivial
  | layered v globals =>
    intro l hl
    rcases List.mem_append.mp hl with hl | hl
    · exact fits_of_mem_layers hl
    · obtain rfl := List.mem_singleton.mp hl
      rintro place fresh ⟨⟩

theorem fits_of_partialsView? {m : Memory} {partials : Scope} {view : MapView}
    (h : g.partialsView? m partials = some view) : view.Fits g := by
  cases partials with
  | value v => exact fits_of_mapping? h
  | record es =>
    obtain rfl := Option.some.inj h
    exact fits_scopeView m _
  | layered v es =>
    obtain rfl := Option.some.inj h
    exact fits_scopeView m _

variable (g)

/-! ### Resolving names is quiet -/

/-- The answer of layers may be a default that is stored from then on, which is how the memory of a quiet run
changes. -/
theorem isQuiet_answer (key : Value) {ls : List Layer} (h : ∀ l ∈ ls, l.Fits g) : IsQuiet g (g.answer key ls) := by
  induction ls with
  | nil => exact isQuiet_pure _
  | cons l ls ih =>
    rw [answer]
    split
    · exact isQuiet_pure _
    · next place fresh _ hfallback =>
      obtain ⟨factory, es, hnode⟩ := h l List.mem_cons_self place fresh hfallback
      exact (isQuiet_modify fun m => .gain key hnode .refl).bind fun _ => isQuiet_pure _
    · exact ih fun l hl => h l (List.mem_cons_of_mem _ hl)

theorem isQuiet_get (key : Value) {view : MapView} (h : view.Fits g) : IsQuiet g (g.get key view) := by
  cases view with
  | single es => exact isQuiet_pure _
  | layered ls =>
    rw [get]
    split
    · exact g.isQuiet_answer key h
    · exact isQuiet_pure _

theorem isQuiet_child (v : Value) (key : String) : IsQuiet g (g.child v key) := by
  refine isQuiet_memory.bind fun m => ?_
  cases hview : g.mapLike? m v with
  | error f => exact isQuiet_fail f
  | ok view? =>
    rw [ofExcept_ok, pure_bind]
    cases view? with
    | some view => exact g.isQuiet_get _ (fits_of_mapLike? hview)
    | none =>
      dsimp only
      split <;> exact isQuiet_pure _

theorem isQuiet_empty? (v : Value) : IsQuiet g (g.empty? v) :=
  isQuiet_memory.bind fun _ => isQuiet_ofExcept _

theorem runFrom_empty? (v : Value) (σ : RunState) : (g.empty? v).runFrom σ = (g.isEmpty σ.memory v, σ) := by
  rw [empty?, runFrom_bind_ok (runFrom_memory σ), runFrom_ofExcept]

/-- **Following segments is quiet**, as each step is one look at a value. -/
theorem isQuiet_walk (v : Value) (ss : List String) : IsQuiet g (g.walk v ss) := by
  induction ss generalizing v with
  | nil => exact isQuiet_pure v
  | cons s ss ih =>
    refine (g.isQuiet_empty? v).bind fun empty => ?_
    split
    · exact isQuiet_pure v
    · exact (g.isQuiet_child v s).bind ih

theorem isQuiet_scopeChild (scope : Scope) (key : String) : IsQuiet g (g.scopeChild scope key) := by
  cases scope with
  | value v => exact g.isQuiet_child v key
  | record es => exact isQuiet_pure _
  | layered v es => exact isQuiet_memory.bind fun m => g.isQuiet_get _ (fits_scopeView m _)

theorem isQuiet_scopeWalk (scope : Scope) (ss : List String) : IsQuiet g (g.scopeWalk scope ss) := by
  cases ss with
  | nil => exact isQuiet_pure _
  | cons s ss =>
    cases scope with
    | value v => exact g.isQuiet_walk v (s :: ss)
    | record es => exact (g.isQuiet_scopeChild _ s).bind fun v => g.isQuiet_walk v ss
    | layered v es => exact (g.isQuiet_scopeChild _ s).bind fun v => g.isQuiet_walk v ss

/-- A path is walked along, and a single key is looked up in the scope. -/
theorem isQuiet_resolve (scope : Scope) (name : String) : IsQuiet g (g.resolve scope name) := by
  rw [resolve]
  split
  · exact g.isQuiet_scopeWalk scope _
  · exact g.isQuiet_scopeChild scope name

theorem isQuiet_call (place : Nat) (b : Behaviour) : IsQuiet g (call place b) := by
  have hcall : IsQuiet g (modify fun s => { s with memory := s.memory.call place } : Run Unit) :=
    isQuiet_modify fun _ => .call place .refl
  cases b with
  | fails kind text => exact hcall.bind fun _ => isQuiet_fail _
  | replies first later => exact isQuiet_memory.bind fun _ => hcall.bind fun _ => isQuiet_pure _

/-- A call is counted, and that is all that it does to the memory. -/
theorem isQuiet_invoke (v : Value) : IsQuiet g (g.invoke v) := by
  unfold invoke
  split
  · split
    · exact g.isQuiet_call _ _
    · exact isQuiet_pure _
  · split <;> exact isQuiet_pure _
  · exact isQuiet_pure _

/-- **Resolving a name is quiet.** -/
theorem isQuiet_lookup (scope : Scope) (name : String) : IsQuiet g (g.lookup scope name) :=
  (g.isQuiet_resolve scope name).bind g.isQuiet_invoke

theorem isQuiet_show? (v : Value) : IsQuiet g (g.show? v) :=
  isQuiet_memory.bind fun _ => isQuiet_ofExcept _

theorem runFrom_show? (v : Value) (σ : RunState) : (g.show? v).runFrom σ = (g.display σ.memory v, σ) := by
  rw [show?, runFrom_bind_ok (runFrom_memory σ), runFrom_ofExcept]

theorem isQuiet_interpolate (scope : Scope) (name : String) : IsQuiet g (g.interpolate scope name) := by
  refine (g.isQuiet_lookup scope name).bind fun v => (g.isQuiet_empty? v).bind fun empty => ?_
  split
  · exact isQuiet_pure _
  · exact g.isQuiet_show? v

theorem isQuiet_elementScope (v : Value) : IsQuiet g (g.elementScope v) := by
  refine isQuiet_memory.bind fun m => (isQuiet_ofExcept _).bind fun view? => ?_
  split <;> exact isQuiet_pure _

theorem isQuiet_blockScope (scope : Scope) (v : Value) : IsQuiet g (g.blockScope scope v) := by
  refine isQuiet_memory.bind fun m => (isQuiet_ofExcept _).bind fun view? => ?_
  split <;> exact isQuiet_pure _

/-- Frames are counted in the stack that is handed on, and not in the state. -/
theorem isQuiet_enter (stack : Stack) (frames : Nat) : IsQuiet g (stack.enter frames) := by
  cases stack with
  | none => exact isQuiet_pure none
  | some n =>
    rw [Stack.enter]
    split
    · exact isQuiet_pure _
    · exact isQuiet_fail _

end Graph

/-! ### Room on the stack -/

namespace Stack

/-- A stack that is short of some frames is short of more. -/
theorem Short.mono {stack : Stack} {frames frames' : Nat} (h : stack.Short frames) (hle : frames ≤ frames') :
    stack.Short frames' := by
  obtain ⟨n, hstack, hn⟩ := h
  exact ⟨n, hstack, Nat.lt_of_lt_of_le hn hle⟩

/-- What is left of a stack after frames have been taken is short of no more than the stack is. -/
theorem Short.of_enter {stack left : Stack} {frames more : Nat} {σ τ : RunState}
    (h : (stack.enter frames).runFrom σ = (.ok left, τ)) (hshort : left.Short more) : stack.Short (frames + more) := by
  obtain ⟨n, rfl, hn⟩ := hshort
  cases stack with
  | none => cases h
  | some k =>
    rw [enter] at h
    split at h
    · next hroom =>
      obtain rfl : k - frames = n := Option.some.inj (Except.ok.inj (Prod.mk.inj h).1)
      exact ⟨k, rfl, by omega⟩
    · cases h

/-- Where the stack is short of frames, what is left after some of them have been taken is short of the others. -/
theorem Short.left_of_enter {stack left : Stack} {frames more : Nat} {σ τ : RunState}
    (h : (stack.enter frames).runFrom σ = (.ok left, τ)) (hshort : stack.Short (frames + more)) : left.Short more := by
  obtain ⟨k, rfl, hk⟩ := hshort
  rw [enter] at h
  split at h
  · next hroom =>
    obtain rfl : some (k - frames) = left := Except.ok.inj (Prod.mk.inj h).1
    exact ⟨k - frames, rfl, by omega⟩
  · cases h

/-- Frames are taken from the stack alone. -/
theorem of_enter_ok {stack left : Stack} {frames : Nat} {σ τ : RunState}
    (h : (stack.enter frames).runFrom σ = (.ok left, τ)) : σ = τ := by
  cases stack with
  | none => exact (Prod.mk.inj h).2
  | some k =>
    rw [enter] at h
    split at h
    · exact (Prod.mk.inj h).2
    · cases h

/-- Where the stack is short of the frames that are taken, the run ends in a fault of the stack. -/
theorem Short.runFrom_enter {stack : Stack} {frames : Nat} (h : stack.Short frames) (σ : RunState) :
    (stack.enter frames).runFrom σ = (.error .stackExhausted, σ) := by
  obtain ⟨n, rfl, hn⟩ := h
  rw [enter, if_neg (Nat.not_le_of_lt hn)]
  rfl

/-- Frames cannot be taken only where there are fewer. -/
theorem of_enter_error {stack : Stack} {frames : Nat} {σ τ : RunState} {f : Fault}
    (h : (stack.enter frames).runFrom σ = (.error f, τ)) : ∃ n, stack = some n ∧ n < frames ∧ f = .stackExhausted := by
  cases stack with
  | none => cases h
  | some n =>
    rw [enter] at h
    split at h
    · cases h
    · next hshort => exact ⟨n, rfl, Nat.lt_of_not_le hshort, (Except.error.inj (Prod.mk.inj h).1).symm⟩

end Stack

/-! ### Asking for a partial is quiet -/

namespace Setting

open Run

theorem runFrom_debug (s : Setting) (e : Event) (σ : RunState) :
    (s.debug e).runFrom σ = (.ok (), if s.settings.debug then { σ with events := σ.events.push e } else σ) := by
  rw [debug]
  split <;> rfl

/-- **Asking for a partial is quiet**: its entry is looked up, tested for its truth, and taken for a source if it is a
text. -/
theorem isQuiet_source? (s : Setting) (name : String) : IsQuiet s.graph (s.source? name) := by
  refine isQuiet_memory.bind fun m => ?_
  split
  · exact isQuiet_pure _
  · next view hview =>
    refine (s.graph.isQuiet_get _ (Graph.fits_of_partialsView? hview)).bind fun v => ?_
    refine isQuiet_memory.bind fun m' => (isQuiet_ofExcept _).bind fun b => ?_
    split
    · split <;> exact isQuiet_pure _
    · exact isQuiet_pure _

end Setting

end Stencil
