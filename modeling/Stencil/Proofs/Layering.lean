import Stencil.Proofs.Likeness
import Stencil.Proofs.Maps
import Stencil.Proofs.Inlining

/-!
# One table in the place of two

To a template a context in front of the globals looks like the one table of both (`Stencil.Graph.alike_layered`), and
so does a table that is a value like one that belongs to no graph (`Stencil.Graph.alike_table`), with one difference
that no template sees: where a path is followed into an empty table, the table itself is what is found.

Rendering a template of an environment is therefore rendering it alone, with one table in the place of the context and
the globals, and with another in the place of the partials (`Stencil.Environment.render_eq_renderAlone`).
-/

namespace Stencil

open Run

/-- An operation that is a run ends as the run does. -/
theorem Operation.runFrom_ofRun {α : Type} (r : Run α) (σ : RunState) :
    (ofRun r).runFrom σ = ((r.runFrom σ).1.mapError Failure.fault, (r.runFrom σ).2) := rfl

namespace Graph

variable {g : Graph}

/-! ### Tables and nothing -/

section

variable {v : Value} {es : Entries} (hnode : g.node? v = some (.table .plain es))

include hnode

theorem child_of_table (key : String) : g.child v key = pure ((g.find? (.text key) es).getD .null) := by
  have hview (m : Memory) : g.mapLike? m v = .ok (some (.single es)) := by
    rw [mapLike?, hnode]
    dsimp only
    rw [mapping?_of_table hnode nofun m]
  rw [child]
  simp only [hview, Run.ofExcept_ok, pure_bind]
  rfl

theorem empty?_of_table : g.empty? v = pure es.isEmpty := by
  have hempty (m : Memory) : g.isEmpty m v = .ok es.isEmpty := by
    rw [isEmpty, elements?, mapLike?, hnode]
    dsimp only
    rw [mapping?_of_table hnode nofun m]
    rfl
  rw [empty?]
  simp only [hempty]
  rfl

theorem invoke_of_table : g.invoke v = pure v := by
  unfold invoke
  split
  · next hcallable =>
    rw [hnode] at hcallable
    cases hcallable
  · next htype =>
    rw [hnode] at htype
    cases htype
  · rfl

end

/-- A path into a scope that is no value goes on from what the scope has under the first segment. -/
theorem scopeWalk_record (g : Graph) (es : Entries) (s : String) (ss : List String) :
    g.scopeWalk (.record es) (s :: ss) = g.scopeChild (.record es) s >>= fun v => g.walk v ss := rfl

theorem scopeWalk_layered (g : Graph) (v : Value) (es : Entries) (s : String) (ss : List String) :
    g.scopeWalk (.layered v es) (s :: ss) = g.scopeChild (.layered v es) s >>= fun w => g.walk w ss := rfl

theorem scopeWalk_value (g : Graph) (v : Value) (s : String) (ss : List String) :
    g.scopeWalk (.value v) (s :: ss) = g.empty? v >>= fun empty =>
      if empty then pure v else g.child v s >>= fun w => g.walk w ss := rfl

theorem walk_null (g : Graph) (ss : List String) : g.walk .null ss = pure .null := by
  cases ss with
  | nil => rfl
  | cons s ss => rfl

theorem resolve_null (g : Graph) (name : String) : g.resolve (.value .null) name = pure .null := by
  rw [resolve]
  split
  · cases segments name with
    | nil => rfl
    | cons s ss => exact g.walk_null (s :: ss)
  · rfl

theorem resolve_record_nil (g : Graph) (name : String) : g.resolve (.record []) name = pure .null := by
  rw [resolve]
  split
  · cases segments name with
    | nil => rfl
    | cons s ss => exact g.walk_null ss
  · rfl

/-- Nothing and the table without entries look alike. -/
theorem alike_null (g : Graph) : g.Alike (.value .null) (.record []) :=
  alike_of_resolve fun name => (g.resolve_null name).trans (g.resolve_record_nil name).symm

/-- **A table looks alike as a value and on its own.** -/
theorem alike_table {v : Value} {es : Entries} (hnode : g.node? v = some (.table .plain es)) :
    g.Alike (.value v) (.record es) := by
  intro name
  by_cases hes : es = []
  · -- A path into the empty table leads to the table itself, which is as empty as nothing.
    subst hes
    have hseen : g.see v = pure none := by rw [see, invoke_of_table hnode, pure_bind, empty?_of_table hnode]; rfl
    rw [seen?, seen?, resolve_record_nil, resolve, scopeChild, child_of_table hnode]
    split
    · cases segments name with
      | nil => rfl
      | cons s ss =>
        rw [scopeWalk_value, empty?_of_table hnode]
        exact hseen
    · rfl
  · have hempty : g.empty? v = pure false := by
      rw [empty?_of_table hnode, List.isEmpty_eq_false_iff.mpr hes]
    have hresolve : g.resolve (.value v) name = g.resolve (.record es) name := by
      rw [resolve, resolve, scopeChild, child_of_table hnode]
      split
      · cases segments name with
        | nil => rfl
        | cons s ss =>
          rw [scopeWalk_value, scopeWalk_record, hempty, child_of_table hnode]
          rfl
      · rfl
    rw [seen?, seen?, hresolve]

/-! ### A mapping in front of the globals -/

/-- A name that is no path is a key of the scope. -/
theorem resolve_of_not_isPath (g : Graph) {name : String} (hname : isPath name = false) (scope : Scope) :
    g.resolve scope name = g.scopeChild scope name := by
  rw [resolve, hname, if_neg Bool.false_ne_true]

section

variable {context : Value} {view : MapView} {m : Memory} (hcontext : g.defaults context = [])
  (hview : g.mapping? m context = some view)

include hcontext hview

/-- Where the mapping has no defaults, its keys come first and then those of the globals. -/
theorem scopeChild_layered (globals : Entries) (key : String) :
    g.scopeChild (.layered context globals) key =
      pure (((view.value? g (.text key)).or (g.find? (.text key) globals)).getD .null) := by
  have hget (m' : Memory) : g.get (.text key) (g.scopeView m' (.layered context globals)) =
      pure (((view.value? g (.text key)).or (g.find? (.text key) globals)).getD .null) := by
    have hplain : (g.scopeView m' (.layered context globals)).IsPlain := by
      intro l hl
      rcases List.mem_append.mp hl with hfront | hback
      · exact fallback_eq_none hcontext m' l hfront
      · rw [List.mem_singleton.mp hback]
    have hview' : g.mapping? m' context = some view := (mapping?_eq hcontext m' m).trans hview
    rw [get_eq_value? hplain, scopeView, MapView.value?, List.findSome?_append, findSome?_layers hview',
      List.findSome?_singleton]
  rw [scopeChild]
  simp only [hget]
  rfl

/-- **A mapping in front of the globals looks like the one table** that holds what is found in them, the mapping
first. -/
theorem alike_layered {globals es : Entries}
    (hes : ∀ s, g.find? (.text s) es = (view.value? g (.text s)).or (g.find? (.text s) globals)) :
    g.Alike (.layered context globals) (.record es) := by
  have hchild (key : String) : g.scopeChild (.layered context globals) key = g.scopeChild (.record es) key := by
    rw [scopeChild_layered hcontext hview, ← hes key]
    rfl
  refine alike_of_resolve fun name => ?_
  rw [resolve, resolve, hchild name]
  split
  · cases segments name with
    | nil => rfl
    | cons s ss =>
      rw [scopeWalk_layered, scopeWalk_record, hchild s]
  · rfl

end

end Graph

/-! ### Environments -/

namespace Environment

variable {g : Graph} {settings : Settings} {e : Environment} {context partials flat flatPartials : Value}
  {σ σ' : RunState}

/-! ### Environments -/

/-- Updating entries from a mapping is putting the entries of the mapping over them. -/
theorem mergeOver_eq {view : MapView} (hview : g.mapping? σ.memory context = some view) (es : Entries) :
    (g.mergeOver es context).runFrom σ =
      (g.entriesOf view >>= fun more => pure (g.putAll es more) : Run Entries).runFrom σ := by
  rw [Graph.mergeOver, runFrom_bind_ok (runFrom_memory σ), hview]

theorem scopeWith_of_globals_eq_nil (hglobals : e.globals = []) (context : Value) :
    e.scopeWith g settings context = pure (.value context) := by
  rw [Environment.scopeWith, hglobals]
  rfl

theorem scopeWith_null (hglobals : e.globals ≠ []) : e.scopeWith g settings .null = pure (.record e.globals) := by
  rw [Environment.scopeWith, List.isEmpty_eq_false_iff.mpr hglobals]
  rfl

/-- A mapping is placed in front of the globals. -/
theorem scopeWith_of_mapping? (settings : Settings) (hglobals : e.globals ≠ []) {view : MapView}
    (hview : g.mapping? σ.memory context = some view) :
    (e.scopeWith g settings context).runFrom σ = (.ok (.layered context e.globals), σ) := by
  rw [Environment.scopeWith, List.isEmpty_eq_false_iff.mpr hglobals, if_neg Bool.false_ne_true,
    runFrom_bind_ok (runFrom_memory σ), hview]
  cases context with
  | null => cases hview
  | _ => rfl

/-- **What the context and the globals amount to looks like the scope that they are placed in.** -/
theorem Flattens.scopeWith (settings : Settings) (h : e.Flattens g σ context flat) (hσ : g.Orderly σ.memory)
    (hplain : g.defaults context = []) :
    ∃ scope, g.Alike scope (.value flat) ∧ ∀ τ, (e.scopeWith g settings context).runFrom τ = (.ok scope, τ) := by
  cases h with
  | context hglobals =>
    exact ⟨.value context, g.alike_refl _, fun τ => by rw [scopeWith_of_globals_eq_nil hglobals, runFrom_pure]⟩
  | globals hflat =>
    by_cases hglobals : e.globals = []
    · rw [hglobals] at hflat
      refine ⟨.value .null, g.alike_null.trans (Graph.alike_table hflat).symm, fun τ => ?_⟩
      rw [scopeWith_of_globals_eq_nil hglobals, runFrom_pure]
    · refine ⟨.record e.globals, (Graph.alike_table hflat).symm, fun τ => ?_⟩
      rw [scopeWith_null hglobals, runFrom_pure]
  | @both _ _ view es hglobals hview hes hflat =>
    have hentries : g.entriesOf view = pure (view.table g) :=
      Graph.entriesOf_eq (Graph.isPlain_of_mapping? hplain hview)
    have hrun : (g.entriesOf view).runFrom σ = (.ok (view.table g), σ) := by rw [hentries, runFrom_pure]
    have hdistinct : g.Distinct (view.table g) := hσ.distinct_of_entriesOf hview hrun
    rw [mergeOver_eq hview, hentries, pure_bind, runFrom_pure] at hes
    obtain rfl : g.putAll e.globals (view.table g) = es := Except.ok.inj hes
    have hfound (s : String) : g.find? (.text s) (g.putAll e.globals (view.table g)) =
        (view.value? g (.text s)).or (g.find? (.text s) e.globals) := by
      rw [Graph.find?_putAll s e.globals hdistinct, Graph.find?_table]
    refine ⟨.layered context e.globals, ?_, fun τ => ?_⟩
    · exact (Graph.alike_layered hplain hview hfound).trans (Graph.alike_table hflat).symm
    · exact scopeWith_of_mapping? settings hglobals ((Graph.mapping?_eq hplain τ.memory σ.memory).trans hview)

/-- The partials of a rendering are the one table of those of the environment and those of the call. -/
theorem Overrides.partialsWith (h : e.Overrides g σ partials flatPartials σ') :
    ∃ es, g.node? flatPartials = some (.table .plain es) ∧
      (e.partialsWith g partials).runFrom σ = (.ok (.record es), σ') := by
  cases h with
  | alone hview hflat =>
    refine ⟨e.partials, hflat, ?_⟩
    rw [Environment.partialsWith, runFrom_bind_ok (runFrom_memory σ), hview]
    rfl
  | updated hview hes hflat =>
    refine ⟨_, hflat, ?_⟩
    rw [mergeOver_eq hview] at hes
    rw [Environment.partialsWith, runFrom_bind_ok (runFrom_memory σ), hview]
    dsimp only
    rcases hentries : (g.entriesOf _).runFrom σ with ⟨f | more, τ⟩
    · rw [runFrom_bind_error hentries] at hes
      cases hes
    · rw [runFrom_bind_ok hentries] at hes ⊢
      cases hes
      rfl

/-- Sources from a table are the same whether the table is a value or belongs to no graph. -/
theorem source?_of_table (settings : Settings) {es : Entries}
    (hflat : g.node? flatPartials = some (.table .plain es)) (name : String) :
    (Setting.mk g settings (.record es)).source? name = (Setting.mk g settings (.value flatPartials)).source? name := by
  have hview (m : Memory) : g.partialsView? m (.record es) = g.partialsView? m (.value flatPartials) :=
    (Graph.mapping?_of_table hflat nofun m).symm
  rw [Setting.source?, Setting.source?]
  dsimp only
  simp only [hview]

/-- A name that a context without defaults has stands for what the context has under it, whatever the globals are. -/
theorem resolve_of_entry? (hplain : g.defaults context = []) {m : Memory} {name : String} {v : Value}
    (hname : isPath name = false) (hv : g.entry? m context name = some v) (τ : RunState) :
    (e.scopeWith g settings context >>= fun scope => g.resolve scope name : Run Value).runFrom τ = (.ok v, τ) := by
  obtain ⟨view, hview, hvalue⟩ := Option.bind_eq_some_iff.mp hv
  simp only [g.resolve_of_not_isPath hname]
  by_cases hglobals : e.globals = []
  · rw [scopeWith_of_globals_eq_nil hglobals, pure_bind, Graph.scopeChild, Graph.child_of_entry? hplain hv,
      runFrom_pure]
  · have hscope := scopeWith_of_mapping? settings hglobals
      ((Graph.mapping?_eq hplain τ.memory m).trans hview)
    rw [runFrom_bind_ok hscope, Graph.scopeChild_layered hplain hview, hvalue, runFrom_pure]
    rfl

/-- An entry of the partials of a call is what a partial is, whatever the environment has under the name. -/
theorem source?_of_entry (hσ : g.Orderly σ.memory) {more : Entries}
    (hmore : (mappingEntries g partials).runFrom σ = (.ok more, σ')) {name : String} {v : Value}
    (hv : (.text name, v) ∈ more) :
    (e.partialsWith g partials >>= fun partials => (Setting.mk g settings partials).source? name : Run _).runFrom σ =
      ((g.truth σ'.memory v).map fun _ => v.source?, σ') := by
  rw [mappingEntries, runFrom_bind_ok (runFrom_memory σ)] at hmore
  cases hview : g.mapping? σ.memory partials with
  | none =>
    rw [hview] at hmore
    dsimp only at hmore
    split at hmore <;> cases hmore
  | some view =>
    rw [hview] at hmore
    have hfound : g.find? (.text name) (g.putAll e.partials more) = some v := by
      have hdistinct := hσ.distinct_of_entriesOf hview hmore
      rw [Graph.find?_putAll name _ hdistinct, hdistinct.find?_of_mem hv]
      rfl
    have hwith : (e.partialsWith g partials).runFrom σ = (.ok (.record (g.putAll e.partials more)), σ') := by
      rw [Environment.partialsWith, runFrom_bind_ok (runFrom_memory σ), hview]
      dsimp only
      rw [runFrom_bind_ok hmore]
      rfl
    have hview' : g.partialsView? σ'.memory (.record (g.putAll e.partials more)) =
        some (.single (g.putAll e.partials more)) := rfl
    rw [runFrom_bind_ok hwith, Setting.runFrom_source? hview', hfound]
    rfl

/-- **Rendering with an environment is rendering alone with the tables that it amounts to.** A name that the context
has stands for what the context has under it, be it empty or not, and a partial that the call has is what the call has
under its name, be it text or not. -/
theorem render_eq_renderAlone (settings : Settings) (e : Environment) (t : Template) (hσ : g.Orderly σ.memory)
    (hplain : g.defaults context = []) (hflat : e.Flattens g σ context flat)
    (hpartials : e.Overrides g σ partials flatPartials σ') :
    (e.render g settings t context partials).runFrom σ = (renderAlone g settings t flat flatPartials).runFrom σ' ∧
    (∀ name v τ, isPath name = false → g.entry? σ.memory context name = some v →
      (e.scopeWith g settings context >>= fun scope => g.resolve scope name : Run Value).runFrom τ = (.ok v, τ)) ∧
    ∀ more name v, (mappingEntries g partials).runFrom σ = (.ok more, σ') → (.text name, v) ∈ more →
      (e.partialsWith g partials >>= fun partials => (Setting.mk g settings partials).source? name : Run _).runFrom σ =
        ((g.truth σ'.memory v).map fun _ => v.source?, σ') := by
  refine ⟨?_, fun name v τ hname hv => ?_, fun more name v hmore hv => ?_⟩
  · obtain ⟨scope, halike, hscope⟩ := hflat.scopeWith settings hσ hplain
    obtain ⟨es, htable, hes⟩ := hpartials.partialsWith
    have hsource := source?_of_table settings htable
    rw [Environment.render, renderAlone, Operation.runFrom_ofRun, Operation.runFrom_ofRun, runFrom_bind_ok hes,
      runFrom_bind_ok (hscope σ'), Setting.render_eq_of_alike hsource t halike]
  · exact resolve_of_entry? hplain hname hv τ
  · exact source?_of_entry hσ hmore hv

/-- Globals and partials, a context that has nothing under a name that the globals have, partials of a call one of
which is no text, and the two tables that these amount to. -/
def shadowing : Graph where
  nodes := #[
    .chain [.ref 1, .ref 2],
    .table .plain [(.text "a", .null)],
    .table .ordered [(.text "a", .text "hidden"), (.text "c", .text "C")],
    .table .plain [(.text "a", .null), (.text "b", .text "B"), (.text "c", .text "C")],
    .table .readOnly [(.text "p", .int 3)],
    .table .plain [(.text "p", .int 3), (.text "q", .text "\x7b\x7bc\x7d\x7d!")]]
  keepsDefaults := by decide

/-- The environment of `shadowing`. -/
def shadowed : Environment where
  partials := [(.text "p", .text "P"), (.text "q", .text "\x7b\x7bc\x7d\x7d!")]
  globals := [(.text "a", .text "A"), (.text "b", .text "B")]

/-- A template that shows `a`, the partials `p` and `q`, and `b`. -/
def shadowingTemplate : Template :=
  .leaf (.name "a") (.leaf (.inclusion "p") (.leaf (.inclusion "q") (.leaf (.name "b") .nil)))

/-- What is empty hides a global, and what is no text hides a partial. -/
theorem render_eq_renderAlone_shadowing :
    ((shadowed.render shadowing .initial shadowingTemplate (.ref 0) (.ref 4)).runFrom ⟨.fresh, #[]⟩).1.toOption =
      some "C!B" ∧
    (shadowed.render shadowing .initial shadowingTemplate (.ref 0) (.ref 4)).runFrom ⟨.fresh, #[]⟩ =
      (renderAlone shadowing .initial shadowingTemplate (.ref 3) (.ref 5)).runFrom ⟨.fresh, #[]⟩ := by
  have hσ : shadowing.Orderly .fresh := by
    refine Graph.orderly_fresh ?_
    decide
  have hflat : shadowed.Flattens shadowing ⟨.fresh, #[]⟩ (.ref 0) (.ref 3) :=
    .both (by decide) rfl rfl rfl
  have hpartials : shadowed.Overrides shadowing ⟨.fresh, #[]⟩ (.ref 4) (.ref 5) ⟨.fresh, #[]⟩ :=
    .updated rfl rfl rfl
  refine ⟨by decide +kernel, ?_⟩
  exact (render_eq_renderAlone .initial shadowed shadowingTemplate hσ (by decide) hflat hpartials).1

end Environment

end Stencil
