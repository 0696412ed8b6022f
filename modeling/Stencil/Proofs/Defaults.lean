import Stencil.Proofs.Dependence
import Stencil.Proofs.Layering
import Stencil.Proofs.Markup

/-!
# Globals behind a mapping with defaults

A table with a default has an answer to every key. Where a context has one, the globals behind it are out of reach: for
a name that is no key of the context the first default answers, and is kept as an entry
(`Stencil.Graph.runFrom_answer`). So globals show through exactly the contexts without defaults, and these are the
contexts that a rendering leaves as they are (`Stencil.Environment.resolve_global`).

Of any other table a rendering changes no entry, and what it adds holds the default of the table
(`Stencil.Graph.Evolves.exists_gained`).
-/

namespace Stencil

open Run

/-! ### What a rendering adds -/

/-- **Tables keep their entries, and gain no others than their defaults.** -/
theorem Graph.Evolves.exists_gained {g : Graph} {m m' : Memory} (h : g.Evolves m m') (place : Nat) :
    ∃ added, m'.gained place = m.gained place ++ added ∧
      ∀ entry ∈ added, ∃ factory es, g.nodes[place]? = some (.table (.defaulting factory entry.2) es) := by
  induction h with
  | refl => exact ⟨[], (List.append_nil _).symm, nofun⟩
  | call _ _ ih => exact ih
  | @gain m' place' factory fresh es key hnode _ ih =>
    obtain ⟨added, hgained, hadded⟩ := ih
    rw [Memory.gain]
    dsimp only
    by_cases hplace : place = place'
    · subst hplace
      refine ⟨added ++ [(key, fresh)], ?_, fun entry hentry => ?_⟩
      · rw [if_pos rfl, hgained, List.append_assoc]
      · rcases List.mem_append.mp hentry with hold | hnew
        · exact hadded entry hold
        · obtain rfl := List.mem_singleton.mp hnew
          exact ⟨factory, es, hnode⟩
    · exact ⟨added, by rw [if_neg hplace, hgained], hadded⟩

namespace Run

variable {α β : Type} {g : Graph}

theorem grows_mapM {f : α → Run β} (h : ∀ x, Grows g (f x)) (xs : List α) : Grows g (xs.mapM f) := by
  induction xs with
  | nil => exact (isQuiet_pure _).grows
  | cons x xs ih =>
    rw [List.mapM_cons]
    exact (h x).bind fun y => ih.bind fun ys => (isQuiet_pure _).grows

theorem grows_report (e : Event) : Grows g (report e) := fun _ => ensures_report e

end Run

theorem Setting.grows_render (s : Setting) (t : Template) (scope : Scope) (stack : Stack) :
    Grows s.graph (s.render t scope stack) :=
  fun _ => ensures_render isKept_true (fun _ _ l _ => l.shows_true) scope stack

namespace Environment

variable {g : Graph} {settings : Settings} {e : Environment}

theorem grows_partialsWith (g : Graph) (e : Environment) (partials : Value) : Grows g (e.partialsWith g partials) := by
  intro m
  refine ensures_memory.bind fun m' _ => ?_
  cases hview : g.mapping? m' partials with
  | none => exact ensures_pure trivial
  | some view =>
    have hentries : Grows g (g.entriesOf view) := by
      cases view with
      | single es => exact (isQuiet_pure _).grows
      | layered ls =>
        refine grows_mapM (fun k => ?_) _
        exact (g.isQuiet_get k (Graph.fits_of_mapping? hview)).grows.bind fun v => (isQuiet_pure _).grows
    exact hentries.bind (fun more => (isQuiet_pure _).grows) m

theorem grows_scopeWith (g : Graph) (settings : Settings) (e : Environment) (context : Value) :
    Grows g (e.scopeWith g settings context) := by
  rw [scopeWith]
  split
  · exact (isQuiet_pure _).grows
  · refine isQuiet_memory.grows.bind fun m => ?_
    split
    · exact (isQuiet_pure _).grows
    · exact (isQuiet_pure _).grows
    · dsimp only
      split
      · exact (grows_report _).bind fun _ => (isQuiet_pure _).grows
      · exact (isQuiet_pure _).grows

/-- **Rendering changes the memory in no other ways than memories evolve.** -/
theorem evolves_render (g : Graph) (settings : Settings) (e : Environment) (t : Template) (context partials : Value)
    (σ : RunState) : g.Evolves σ.memory ((e.render g settings t context partials).runFrom σ).2.memory := by
  have hgrows : Grows g (do
      let from' ← e.partialsWith g partials
      let scope ← e.scopeWith g settings context
      (Setting.mk g settings from').render t scope Stack.ordinary) :=
    (e.grows_partialsWith g partials).bind fun from' =>
      (e.grows_scopeWith g settings context).bind fun scope =>
        Setting.grows_render ⟨g, settings, from'⟩ t scope Stack.ordinary
  rw [Environment.render, Operation.runFrom_ofRun]
  exact hgrows.evolves σ

end Environment

/-! ### Which table answers -/

namespace Graph

variable {g : Graph}

/-- Which defaults the tables of a value have does not depend on the memory. -/
theorem filterMap_fallback_layers (g : Graph) (m m' : Memory) (depth : Nat) (v : Value) :
    (g.layers m depth v).filterMap Layer.fallback = (g.layers m' depth v).filterMap Layer.fallback := by
  induction depth generalizing v with
  | zero => rfl
  | succ depth ih =>
    unfold layers
    split
    · rfl
    · rfl
    · rw [List.filterMap_flatMap, List.filterMap_flatMap]
      exact congrArg (List.flatMap · _) (funext ih)
    · rfl

/-- **A key that only the last table may have is answered by the first default in front of it**, which is kept. -/
theorem runFrom_answer {ls : List Layer} {key : Value} (h : ∀ l ∈ ls, g.find? key l.entries = none) (last : Entries)
    (σ : RunState) :
    (g.answer key (ls ++ [⟨last, none⟩])).runFrom σ =
      match ls.filterMap Layer.fallback with
      | [] => (.ok ((g.find? key last).getD .null), σ)
      | (place, fresh) :: _ => (.ok fresh, { σ with memory := σ.memory.gain place key fresh }) := by
  induction ls with
  | nil =>
    rw [List.nil_append, answer]
    cases g.find? key last <;> rfl
  | cons l ls ih =>
    have hl : g.find? key l.entries = none := h l List.mem_cons_self
    rw [List.cons_append, answer, hl, List.filterMap_cons]
    cases l.fallback with
    | none => exact ih fun l' hl' => h l' (List.mem_cons_of_mem _ hl')
    | some default => rfl

end Graph

namespace Environment

variable {g : Graph} {settings : Settings} {e : Environment} {context : Value} {σ : RunState}

/-- What a global stands for that is no key of the context. -/
theorem runFrom_resolve_global (settings : Settings) {view : MapView}
    (hview : g.mapping? σ.memory context = some view) {name : String} {v : Value} (hname : isPath name = false)
    (hglobal : g.find? (.text name) e.globals = some v) (hkey : g.entry? σ.memory context name = none) :
    (e.scopeWith g settings context >>= fun scope => g.resolve scope name : Run Value).runFrom σ =
      match g.defaults context with
      | [] => (.ok v, σ)
      | (place, fresh) :: _ => (.ok fresh, { σ with memory := σ.memory.gain place (.text name) fresh }) := by
  have hglobals : e.globals ≠ [] := by
    rintro hnil
    rw [hnil] at hglobal
    cases hglobal
  have hvalue : view.value? g (.text name) = none := by
    rw [Graph.entry?, hview] at hkey
    exact hkey
  have hlayers : ∀ l ∈ g.layers σ.memory (g.nodes.size + 1) context, g.find? (.text name) l.entries = none := by
    rw [← Graph.findSome?_layers hview] at hvalue
    exact List.findSome?_eq_none_iff.mp hvalue
  simp only [g.resolve_of_not_isPath hname]
  rw [runFrom_bind_ok (scopeWith_of_mapping? settings hglobals hview), Graph.scopeChild,
    runFrom_bind_ok (runFrom_memory σ), Graph.scopeView, Graph.get]
  -- The globals have the key, so that the tables are searched for it.
  have hany : ((g.layers σ.memory (g.nodes.size + 1) context ++ [Layer.mk e.globals none]).any fun l =>
      (g.find? (.text name) l.entries).isSome) = true := by
    rw [List.any_append, List.any_cons, hglobal, Option.isSome_some, Bool.true_or, Bool.or_true]
  rw [if_pos hany, Graph.runFrom_answer hlayers, hglobal, g.filterMap_fallback_layers σ.memory .fresh]
  rfl

/-- **A global shows through exactly the contexts without defaults**, and these are left by a rendering as they are.
For a name that the context lacks, the first of its defaults answers in place of the global, and stays in its table.
Whatever the context is, tables keep their entries, and gain no others than their defaults. -/
theorem resolve_global (settings : Settings) {view : MapView} (hview : g.mapping? σ.memory context = some view)
    {name : String} {v : Value} (hname : isPath name = false) (hglobal : g.find? (.text name) e.globals = some v)
    (hkey : g.entry? σ.memory context name = none) :
    ((e.scopeWith g settings context >>= fun scope => g.resolve scope name : Run Value).runFrom σ = (.ok v, σ) ↔
      g.defaults context = []) ∧
    (∀ place fresh, (g.defaults context).head? = some (place, fresh) →
      (e.scopeWith g settings context >>= fun scope => g.resolve scope name : Run Value).runFrom σ =
        (.ok fresh, { σ with memory := σ.memory.gain place (.text name) fresh })) ∧
    ∀ t partials, let after := ((e.render g settings t context partials).runFrom σ).2.memory
      (g.defaults context = [] → g.mapping? after context = g.mapping? σ.memory context) ∧
      ∀ place, ∃ added, after.gained place = σ.memory.gained place ++ added ∧
        ∀ entry ∈ added, ∃ factory es, g.nodes[place]? = some (.table (.defaulting factory entry.2) es) := by
  have hresolved := runFrom_resolve_global settings hview hname hglobal hkey
  refine ⟨⟨fun hshown => ?_, fun hplain => ?_⟩, fun place fresh hhead => ?_, fun t partials => ⟨fun hplain => ?_, ?_⟩⟩
  · cases hdefaults : g.defaults context with
    | nil => rfl
    | cons default rest =>
      rw [hresolved, hdefaults] at hshown
      -- The table of the default has gained an entry, so that the memory is not what it was.
      have hlength := congrArg (fun r : Except Fault Value × RunState => (r.2.memory.gained default.1).length) hshown
      dsimp only [Memory.gain] at hlength
      rw [if_pos rfl, List.length_append, List.length_singleton] at hlength
      omega
  · rw [hresolved, hplain]
  · obtain ⟨rest, hdefaults⟩ := List.head?_eq_some_iff.mp hhead
    rw [hresolved, hdefaults]
  · exact Graph.mapping?_eq hplain _ _
  · exact (e.evolves_render g settings t context partials σ).exists_gained

/-- Data with two contexts: a chain of two tables, and a table that answers with zero. -/
def visiting : Graph where
  nodes := #[
    .chain [.ref 1, .ref 2],
    .table .readOnly [(.text "title", .text "Home")],
    .table .ordered [(.text "year", .null)],
    .table (.defaulting .int (.int 0)) []]
  keepsDefaults := by decide

/-- An environment with one global. -/
def visited : Environment where
  partials := []
  globals := [(.text "site", .text "Example")]

/-- The template that shows the global. -/
def visitingTemplate : Template := .leaf (.name "site") .nil

/-- The global shows through a chain of tables. -/
theorem resolve_global_visiting :
    (visited.scopeWith visiting .initial (.ref 0) >>= fun scope => visiting.resolve scope "site" : Run Value).runFrom
      ⟨.fresh, #[]⟩ = (.ok (.text "Example"), ⟨.fresh, #[]⟩) := by
  have hview : visiting.mapping? .fresh (.ref 0) = some (.layered [⟨[(.text "title", .text "Home")], none⟩,
      ⟨[(.text "year", .null)], none⟩]) := rfl
  have hglobal : visiting.find? (.text "site") visited.globals = some (.text "Example") := rfl
  have hkey : visiting.entry? .fresh (.ref 0) "site" = none := rfl
  exact (resolve_global .initial (σ := ⟨.fresh, #[]⟩) hview (by decide) hglobal hkey).1.mpr rfl

/-- **A global does not show through a table with a default, which a rendering changes**: the name stands for zero,
nothing is shown, and the table has the name as a key from then on. -/
theorem exists_global_hidden :
    let rendered := (visited.render visiting .initial visitingTemplate (.ref 3) .null).runFrom ⟨.fresh, #[]⟩
    visiting.find? (.text "site") visited.globals = some (.text "Example") ∧
      visiting.entry? .fresh (.ref 3) "site" = none ∧
      ((visited.scopeWith visiting .initial (.ref 3) >>= fun scope => visiting.resolve scope "site" :
        Run Value).runFrom ⟨.fresh, #[]⟩).1.toOption = some (.int 0) ∧
      rendered.1.toOption = some "" ∧
      visiting.mapping? .fresh (.ref 3) = some (.single []) ∧
      visiting.mapping? rendered.2.memory (.ref 3) = some (.single [(.text "site", .int 0)]) := by
  decide +kernel

end Environment

end Stencil
