import Stencil.Agreement
import Stencil.Proofs.Defaults
import Stencil.Proofs.Inlining
import Stencil.Proofs.Repeating
import Stencil.Proofs.Safety
import Stencil.Visit

/-!
# Only reachable partials matter

A rendering asks for the partials that its template mentions, and inside these for the ones that the templates behind
them mention. Which these are is a least set, given by the entries at the beginning, while the partials are read one by
one from mappings that may have gained entries meanwhile. The two are connected by a fact about tables: an entry that
was there at the beginning is still found, and one that has come up since is no source
(`Stencil.Setting.runFrom_source?_of_isInert`). So what is read under a reachable name is what stood there at the
beginning, and the names in it are reachable again.

Two mappings that agree on the reachable names therefore give the same sources at every point of a rendering, and it
does the same with both (`Stencil.Setting.render_eq_of_agree`).
-/

namespace Stencil

open Run

theorem Template.mem_inclusions_iff {t : Template} {name : String} :
    name ∈ t.inclusions ↔ .leaf (.inclusion name) ∈ t.items := by
  rw [inclusions, List.mem_eraseDups, List.mem_filterMap]
  constructor
  · rintro ⟨item, hitem, hname⟩
    rcases item with (_ | _ | _ | _) | _ <;> cases hname
    exact hitem
  · intro h
    exact ⟨_, h, rfl⟩

/-! ### Entries that come up -/

/-- Whether a value is no source of a partial, and testing it for its truth does not fail. -/
def Value.IsBlank (g : Graph) (v : Value) : Prop := ∀ m, g.taken m v = .ok none

theorem Factory.Makes.isBlank {g : Graph} {factory : Factory} {v : Value} (h : factory.Makes g.nodes v) :
    v.IsBlank g := by
  intro m
  cases factory with
  | int =>
    obtain rfl : v = .int 0 := h
    rfl
  | text =>
    obtain rfl : v = .text "" := h
    rfl
  | list =>
    have hnode : g.node? v = some (.sequence .list []) := h
    cases v with
    | ref place => simp [Graph.taken, Graph.truth, Graph.elements?, hnode, Except.map, Value.source?]
    | _ => cases hnode
  | table =>
    have hnode : g.node? v = some (.table .plain []) := h
    cases v with
    | ref place =>
      have hplain (factory : Factory) (fresh : Value) : TableKind.plain ≠ .defaulting factory fresh := by simp
      have hview : g.mapping? m (.ref place) = some (.single []) := Graph.mapping?_of_table hnode hplain m
      simp [Graph.taken, Graph.truth, Graph.elements?, hnode, hview, Except.map, Value.source?]
    | _ => cases hnode

namespace Graph

variable {g : Graph} {m m' : Memory}

/-- What an entry is taken for does not depend on the memory: only objects that refuse to be tested are taken for
anything but texts and for nothing, and they refuse always. -/
theorem taken_eq (m m' : Memory) (v : Value) : g.taken m v = g.taken m' v := by
  rw [taken, taken]
  cases v with
  | ref place =>
    dsimp only [truth]
    cases g.node? (.ref place) with
    | none => rfl
    | some n =>
      cases n with
      | set => rfl
      | buffer => rfl
      | object text truth => cases truth <;> rfl
      | _ =>
        -- Whether a mapping is empty depends on the memory, but either way it is no source.
        dsimp only
        cases g.elements? (.ref place) <;> cases g.mapping? m (.ref place) <;> cases g.mapping? m' (.ref place) <;> rfl
  | _ => rfl

/-! ### Layers and views that grow -/

/-- What is found among entries that are followed by others. -/
theorem find?_append (key : Value) (es added : Entries) :
    g.find? key (es ++ added) = (g.find? key es).or (g.find? key added) := by
  induction es with
  | nil => rfl
  | cons e es ih =>
    rw [List.cons_append, find?, find?]
    split
    · rfl
    · exact ih

end Graph

/-- Whether a layer is what another one becomes when it gains blank entries, which only tables with a default do. -/
structure Layer.Grows (g : Graph) (l l' : Layer) : Prop where
  fallback : l'.fallback = l.fallback
  entries : ∃ added, l'.entries = l.entries ++ added ∧ (∀ e ∈ added, e.2.IsBlank g) ∧ (l.fallback = none → added = [])

/-- Whether a map is what another one becomes when tables gain blank entries. -/
inductive MapView.Grows (g : Graph) : MapView → MapView → Prop
  | single {es added : Entries} : (∀ e ∈ added, e.2.IsBlank g) → Grows g (.single es) (.single (es ++ added))
  | layered {ls ls' : List Layer} : List.Forall₂ (Layer.Grows g) ls ls' → Grows g (.layered ls) (.layered ls')

namespace Graph

variable {g : Graph} {m m' : Memory}

theorem layer_grows_refl (l : Layer) : l.Grows g l :=
  ⟨rfl, [], (List.append_nil _).symm, nofun, fun _ => rfl⟩

theorem forall₂_layers_grows (hm : g.Evolves m m') (depth : Nat) (v : Value) :
    List.Forall₂ (Layer.Grows g) (g.layers m depth v) (g.layers m' depth v) := by
  induction depth generalizing v with
  | zero => exact .nil
  | succ depth ih =>
    unfold layers
    split
    · next place factory fresh es hnode =>
      obtain ⟨added, hgained, hadded⟩ := hm.exists_gained place
      refine .cons ⟨rfl, added, ?_, fun e he => ?_, nofun⟩ .nil
      · rw [hgained, List.append_assoc]
      · obtain ⟨factory', es', hnode'⟩ := hadded e he
        exact (makes_of_getElem? hnode').isBlank
    · exact .cons (layer_grows_refl _) .nil
    · exact List.rel_flatMap (List.forall₂_same.mpr fun w _ => rfl) fun w _ hw => hw ▸ ih w
    · exact .nil

theorem rel_mapping?_grows (hm : g.Evolves m m') (v : Value) :
    Option.Rel (MapView.Grows g) (g.mapping? m v) (g.mapping? m' v) := by
  unfold mapping?
  split
  · next kind es hnode =>
    obtain ⟨l, hl⟩ := layers_of_table hnode m
    obtain ⟨l', hl'⟩ := layers_of_table hnode m'
    have hgrows := forall₂_layers_grows hm 1 v
    rw [hl 0, hl' 0] at hgrows
    rw [hl 0, hl' 0]
    rw [List.flatMap_singleton, List.flatMap_singleton]
    cases hgrows with
    | cons hlayer _ =>
      obtain ⟨added, hentries, hblank, -⟩ := hlayer.entries
      rw [hentries]
      exact .some (.single hblank)
  · exact .some (.layered (forall₂_layers_grows hm _ v))
  · exact .none

theorem rel_partialsView?_grows (hm : g.Evolves m m') (partials : Scope) :
    Option.Rel (MapView.Grows g) (g.partialsView? m partials) (g.partialsView? m' partials) := by
  cases partials with
  | value v => exact rel_mapping?_grows hm v
  | record es =>
    have hsame : MapView.Grows g (.single es) (.single (es ++ [])) := .single nofun
    rw [List.append_nil] at hsame
    exact .some hsame
  | layered v es =>
    exact .some (.layered (List.rel_append (forall₂_layers_grows hm _ v) (.cons (layer_grows_refl _) .nil)))

/-! ### Asking without effect -/

theorem gain_ne (σ : RunState) (place : Nat) (key v : Value) : { σ with memory := σ.memory.gain place key v } ≠ σ := by
  intro h
  have hlength := congrArg (fun σ : RunState => (σ.memory.gained place).length) h
  simp [Memory.gain] at hlength

/-- Where asking layers has no effect, the first one has the key, or it has no default and those behind it are asked. -/
theorem answer_cons_cases {key : Value} {l : Layer} {ls : List Layer} {σ : RunState}
    (h : ((g.answer key (l :: ls)).runFrom σ).2 = σ) :
    (∃ v, g.find? key l.entries = some v ∧ (g.answer key (l :: ls)).runFrom σ = (.ok v, σ)) ∨
      (g.find? key l.entries = none ∧ l.fallback = none ∧ g.answer key (l :: ls) = g.answer key ls) := by
  rw [answer] at h ⊢
  cases hfound : g.find? key l.entries with
  | some v => exact .inl ⟨v, rfl, rfl⟩
  | none =>
    rw [hfound] at h
    cases hfallback : l.fallback with
    | none => exact .inr ⟨rfl, rfl, rfl⟩
    | some default =>
      rw [hfallback] at h
      exact absurd h (gain_ne σ default.1 key default.2)

theorem runFrom_answer_of_unchanged {key : Value} {ls : List Layer} {σ : RunState}
    (h : ((g.answer key ls).runFrom σ).2 = σ) :
    (g.answer key ls).runFrom σ = (.ok ((ls.findSome? fun l => g.find? key l.entries).getD .null), σ) := by
  induction ls with
  | nil => rfl
  | cons l ls ih =>
    rw [List.findSome?_cons]
    rcases answer_cons_cases h with ⟨v, hfound, hanswer⟩ | ⟨hfound, -, hrest⟩
    · rw [hanswer, hfound]
      rfl
    · rw [hrest] at h ⊢
      rw [hfound, ih h]

/-- **Where asking a map for a key has no effect, it gives what the first of its tables has.** -/
theorem runFrom_get_of_unchanged {key : Value} {view : MapView} {σ : RunState}
    (h : ((g.get key view).runFrom σ).2 = σ) :
    (g.get key view).runFrom σ = (.ok ((view.value? g key).getD .null), σ) := by
  cases view with
  | single es => rfl
  | layered ls =>
    rw [get] at h ⊢
    split at h
    · next hany =>
      rw [if_pos hany]
      exact runFrom_answer_of_unchanged h
    · next hany =>
      rw [if_neg hany, MapView.value?]
      rw [← List.isSome_findSome?, Bool.not_eq_true, Option.isSome_eq_false_iff, Option.isNone_iff_eq_none] at hany
      rw [hany]
      rfl

end Graph

/-! ### What is found later -/

section

variable {g : Graph} {key v : Value}

theorem Layer.Grows.find?_of_some {l l' : Layer} (h : l.Grows g l') (hv : g.find? key l.entries = some v) :
    g.find? key l'.entries = some v := by
  obtain ⟨added, hentries, -, -⟩ := h.entries
  rw [hentries, Graph.find?_append, hv]
  rfl

theorem Layer.Grows.isBlank {l l' : Layer} (h : l.Grows g l') (hnone : g.find? key l.entries = none)
    (hv : g.find? key l'.entries = some v) : v.IsBlank g := by
  obtain ⟨added, hentries, hblank, -⟩ := h.entries
  rw [hentries, Graph.find?_append, hnone, Option.none_or] at hv
  obtain ⟨e, he, rfl⟩ := Graph.exists_mem_of_find? hv
  exact hblank e he

theorem findSome?_grows_isBlank {ls ls' : List Layer} (h : List.Forall₂ (Layer.Grows g) ls ls')
    (hnone : (ls.findSome? fun l => g.find? key l.entries) = none)
    (hv : (ls'.findSome? fun l => g.find? key l.entries) = some v) : v.IsBlank g := by
  induction h with
  | nil => cases hv
  | @cons l l' ls ls' hl _ ih =>
    rw [List.findSome?_cons] at hnone hv
    cases hfound : g.find? key l.entries with
    | some w =>
      rw [hfound] at hnone
      cases hnone
    | none =>
      rw [hfound] at hnone
      cases hfound' : g.find? key l'.entries with
      | some w =>
        rw [hfound'] at hv
        obtain rfl := Option.some.inj hv
        exact hl.isBlank hfound hfound'
      | none =>
        rw [hfound'] at hv
        exact ih hnone hv

/-- Where asking the layers had no effect, the one that answered still answers: those in front of it have no default,
so that they have gained nothing. -/
theorem findSome?_grows_of_some {ls ls' : List Layer} (h : List.Forall₂ (Layer.Grows g) ls ls') {σ : RunState}
    (hunchanged : ((g.answer key ls).runFrom σ).2 = σ)
    (hv : (ls.findSome? fun l => g.find? key l.entries) = some v) :
    (ls'.findSome? fun l => g.find? key l.entries) = some v := by
  induction h with
  | nil => cases hv
  | @cons l l' ls ls' hl _ ih =>
    rw [List.findSome?_cons] at hv ⊢
    rcases Graph.answer_cons_cases hunchanged with ⟨w, hfound, -⟩ | ⟨hfound, hfallback, hrest⟩
    · rw [hfound] at hv
      rw [hl.find?_of_some hfound]
      exact hv
    · obtain ⟨added, hentries, -, hadded⟩ := hl.entries
      rw [hadded hfallback, List.append_nil] at hentries
      rw [hrest] at hunchanged
      rw [hfound] at hv
      rw [hentries, hfound]
      exact ih hunchanged hv

theorem MapView.Grows.value?_of_some {view view' : MapView} (h : view.Grows g view') {σ : RunState}
    (hunchanged : ((g.get key view).runFrom σ).2 = σ) (hv : view.value? g key = some v) :
    view'.value? g key = some v := by
  cases h with
  | @single es added _ =>
    have hfound : g.find? key es = some v := hv
    rw [value?, Graph.find?_append, hfound]
    rfl
  | @layered ls ls' hls =>
    have hfound : (ls.findSome? fun l => g.find? key l.entries) = some v := hv
    rw [Graph.get, ← List.isSome_findSome?, hfound, Option.isSome_some, if_pos rfl] at hunchanged
    exact findSome?_grows_of_some hls hunchanged hv

theorem MapView.Grows.isBlank {view view' : MapView} (h : view.Grows g view') (hnone : view.value? g key = none)
    (hv : view'.value? g key = some v) : v.IsBlank g := by
  cases h with
  | @single es added hblank =>
    have hnone : g.find? key es = none := hnone
    rw [value?, Graph.find?_append, hnone, Option.none_or] at hv
    obtain ⟨e, he, rfl⟩ := Graph.exists_mem_of_find? hv
    exact hblank e he
  | layered hls => exact findSome?_grows_isBlank hls hnone hv

end

/-! ### Sources -/

namespace Setting

variable {s : Setting} {m : Memory} {name : String}

/-- Asking for a partial changes what asking the map for its entry changes. -/
theorem runFrom_get_of_isInert (hinert : s.IsInert m name) {σ : RunState} (hσ : s.graph.Evolves m σ.memory)
    {view : MapView} (hview : s.graph.partialsView? σ.memory s.partials = some view) :
    (s.graph.get (.text name) view).runFrom σ = (.ok ((view.value? s.graph (.text name)).getD .null), σ) := by
  obtain ⟨v, hv⟩ := Graph.exists_get (g := s.graph) (.text name) view σ
  rcases hget : (s.graph.get (.text name) view).runFrom σ with ⟨res, τ⟩
  rw [hget] at hv
  obtain rfl : res = .ok v := hv
  have hsource := hinert σ hσ
  rw [runFrom_source?_of_get hview hget] at hsource
  obtain rfl : τ = σ := hsource
  rw [← hget]
  exact Graph.runFrom_get_of_unchanged (by rw [hget])

/-- **A partial is at any time taken for what its entry was in the beginning**, if asking for it has no effect. An entry
that has come up since is a default, and so no source. -/
theorem runFrom_source?_of_isInert (hinert : s.IsInert m name) {σ : RunState}
    (hσ : s.graph.Evolves m σ.memory) :
    (s.source? name).runFrom σ = (((s.given? m name).map (s.graph.taken m)).getD (.ok none), σ) := by
  have hgrows := Graph.rel_partialsView?_grows hσ s.partials
  cases hview : s.graph.partialsView? m s.partials with
  | none =>
    have hentry : s.given? m name = none := by
      rw [given?, hview]
      rfl
    rw [hview] at hgrows
    generalize hview' : s.graph.partialsView? σ.memory s.partials = view?' at hgrows
    cases hgrows
    rw [hentry, source?, runFrom_bind_ok (runFrom_memory σ), hview']
    rfl
  | some view =>
    have hentry : s.given? m name = view.value? s.graph (.text name) := by
      rw [given?, hview]
      rfl
    rw [hview] at hgrows
    generalize hview' : s.graph.partialsView? σ.memory s.partials = view?' at hgrows
    cases hgrows with
    | @some _ view' hgrows =>
      have hbefore := runFrom_get_of_isInert hinert (σ := ⟨m, #[]⟩) .refl hview
      rw [hentry, runFrom_source?_of_get hview' (runFrom_get_of_isInert hinert hσ hview')]
      refine Prod.ext ?_ rfl
      cases hfound : view.value? s.graph (.text name) with
      | some v =>
        rw [hgrows.value?_of_some (by rw [hbefore]) hfound]
        exact Graph.taken_eq σ.memory m v
      | none =>
        cases hfound' : view'.value? s.graph (.text name) with
        | none => rfl
        | some v => exact hgrows.isBlank hfound hfound' σ.memory

/-- What is read under a name is the source that the entry is in the beginning. -/
theorem ensures_sources (hinert : s.IsInert m name) :
    Ensures s.graph m (fun source? => ∀ source, source? = some source → s.sources m name = some source)
      (s.source? name) := by
  intro σ hσ
  rw [runFrom_source?_of_isInert hinert hσ]
  refine ⟨hσ, ?_⟩
  rintro _ hsource source rfl
  cases hentry : s.given? m name with
  | none =>
    rw [hentry] at hsource
    cases hsource
  | some v =>
    have htaken : (s.graph.truth m v).map (fun _ => v.source?) = .ok (some source) := by
      rw [hentry] at hsource
      exact hsource
    rw [sources, hentry, Option.bind_some]
    cases htruth : s.graph.truth m v with
    | error f =>
      rw [htruth] at htaken
      cases htaken
    | ok b =>
      rw [htruth] at htaken
      exact Except.ok.inj htaken

/-! ### Two mappings -/

section

variable {partials : Scope} {t : Template}

/-- Settings that agree on a name find the same under it. -/
theorem repeats_source?_of_agreesOn {spoils : Event → Prop}
    (hinert : s.IsInert m name ∧ { s with partials }.IsInert m name) (hagrees : s.AgreesOn { s with partials } m name) :
    Repeats s.graph m spoils (s.source? name) (({ s with partials } : Setting).source? name) := by
  intro σ hσ
  have hsource := runFrom_source?_of_isInert hinert.1 hσ
  have hsource' := runFrom_source?_of_isInert (s := { s with partials }) hinert.2 hσ
  refine ⟨[], ?_, ?_, fun _ => ?_⟩
  · rw [hsource, List.append_nil]
  · rw [hsource]
    exact hσ
  · rw [hsource, hsource', hagrees]

variable
  (hinert : ∀ name, Reachable (s.sources m) t name → s.IsInert m name ∧ { s with partials }.IsInert m name)
  (hagrees : ∀ name, Reachable (s.sources m) t name → s.AgreesOn { s with partials } m name)

include hinert hagrees

/-- A partial with a reachable name, where the names in the template behind it are reachable too. -/
theorem repeats_inclusion_of_reachable (hname : Reachable (s.sources m) t name) (depth : Nat)
    {body body' : Template → Run String}
    (hbody : ∀ inner, (∀ name ∈ inner.inclusions, Reachable (s.sources m) t name) →
      Repeats s.graph m (fun _ => False) (body inner) (body' inner)) :
    Repeats s.graph m (fun _ => False)
      (do
        match ← s.source? name with
        | none => return ""
        | some source => s.expand name source depth body)
      (do
        match ← ({ s with partials } : Setting).source? name with
        | none => return ""
        | some source => ({ s with partials } : Setting).expand name source depth body') := by
  have hfound : Repeats s.graph m (fun _ => False) (s.source? name) (({ s with partials } : Setting).source? name) :=
    repeats_source?_of_agreesOn (hinert name hname) (hagrees name hname)
  have hsources := ensures_sources (hinert name hname).1
  refine repeats_inclusion (s := s) { s with partials } rfl hfound hsources rfl fun source inner hsource hparse => ?_
  refine hbody inner fun inside hinside => ?_
  have hbehind : (s.sources m).template? name = some inner := by
    rw [Sources.template?, hsource source rfl, Option.bind_eq_bind, Option.bind_some, hparse]
    rfl
  exact .behind hname hbehind hinside

/-- **Inside partials the same is done with two mappings** that agree on the names that are reachable. -/
theorem repeats_renderWithin_of_reachable (left : Nat) {inner : Template}
    (hinner : ∀ name ∈ inner.inclusions, Reachable (s.sources m) t name) (scope : Scope) (stack : Stack) :
    Repeats s.graph m (fun _ => False) (s.renderWithin left inner scope stack)
      ({ s with partials }.renderWithin left inner scope stack) := by
  induction left generalizing inner scope stack with
  | zero =>
    rw [renderWithin_eq, renderWithin_eq]
    refine isCongruence_repeats_eq.renderParts (n := 0) ?_ rfl
    rintro name hmem scope stack _ rfl
    have hname := hinner name (Template.mem_inclusions_iff.mpr hmem)
    refine (repeats_source?_of_agreesOn (hinert name hname) (hagrees name hname)).bind fun source? => ?_
    cases source? with
    | none => exact (isQuiet_pure "").repeats
    | some source => exact (repeats_report _).bind fun _ => (isQuiet_pure "").repeats
  | succ left ih =>
    rw [renderWithin_eq, renderWithin_eq]
    refine isCongruence_repeats_eq.renderParts (n := 0) ?_ rfl
    rintro name hmem scope stack _ rfl
    have hname := hinner name (Template.mem_inclusions_iff.mpr hmem)
    refine repeats_inclusion_of_reachable hinert hagrees hname _ fun body hbody => ?_
    exact (s.graph.isQuiet_enter stack _).repeats.bind fun stack' => ih hbody scope stack'

end

/-- **Only reachable partials matter.** A rendering ends in the same result and in the same state with two mappings that
agree on all names that are reachable from the template, if asking for these has no effect. -/
theorem render_eq_of_agree (s : Setting) (partials : Scope) (t : Template) (scope : Scope) (stack : Stack)
    (σ : RunState)
    (hinert : ∀ name, Reachable (s.sources σ.memory) t name →
      s.IsInert σ.memory name ∧ { s with partials }.IsInert σ.memory name)
    (hagrees : ∀ name, Reachable (s.sources σ.memory) t name → s.AgreesOn { s with partials } σ.memory name) :
    ({ s with partials }.render t scope stack).runFrom σ = (s.render t scope stack).runFrom σ := by
  have hrender : Repeats s.graph σ.memory (fun _ => False) (s.render t scope stack)
      ({ s with partials }.render t scope stack) := by
    rw [render_eq, render_eq]
    refine isCongruence_repeats_eq.renderParts (n := 0) ?_ rfl
    rintro name hmem scope stack _ rfl
    have hname : Reachable (s.sources σ.memory) t name := .mentioned (Template.mem_inclusions_iff.mpr hmem)
    refine repeats_inclusion_of_reachable hinert hagrees hname 1 fun body hbody => ?_
    refine Repeats.containOverflow ?_ name
    exact (s.graph.isQuiet_enter stack _).repeats.bind fun stack' =>
      repeats_renderWithin_of_reachable hinert hagrees _ hbody scope stack'
  exact hrender.runFrom_eq .refl

/-- Asking a table has no effect, with a default or without. -/
theorem isInert_of_table {v : Value} {kind : TableKind} {es : Entries} (hpartials : s.partials = .value v)
    (hnode : s.graph.node? v = some (.table kind es)) (m : Memory) (name : String) : s.IsInert m name := by
  intro σ _
  have hview : s.graph.partialsView? σ.memory s.partials =
      some (.single ((s.graph.layers σ.memory 1 v).flatMap Layer.entries)) := by
    rw [hpartials, Graph.partialsView?, Graph.mapping?, hnode]
  rw [runFrom_source? hview]

/-- Partials `a` and `b` that contain each other, once with a third partial beside them, and once in a table with a
default. -/
def looped : Setting where
  graph := ⟨#[
    .table .plain [(.text "a", .text "x\x7b\x7b>b\x7d\x7d"), (.text "b", .text "y\x7b\x7b>a\x7d\x7d"),
      (.text "c", .text "z")],
    .table (.defaulting .int (.int 0)) [(.text "b", .text "y\x7b\x7b>a\x7d\x7d"),
      (.text "a", .text "x\x7b\x7b>b\x7d\x7d")]], by decide⟩
  settings := ⟨true, 6, by decide⟩
  partials := .value (.ref 0)

/-- The template that is nothing but the partial `a`. -/
def loopedTemplate : Template := .leaf (.inclusion "a") .nil

/-- The third partial is not reachable. -/
theorem looped_reachable {name : String} (h : Reachable (looped.sources .fresh) loopedTemplate name) :
    name = "a" ∨ name = "b" := by
  induction h with
  | mentioned hmem =>
    have hinclusions : loopedTemplate.inclusions = ["a"] := by decide
    rw [hinclusions, List.mem_singleton] at hmem
    exact .inl hmem
  | behind _ hbody hmem ih =>
    rw [Template.mem_inclusions_iff] at hmem
    rcases ih with rfl | rfl
    · have ha : (looped.sources .fresh).template? "a" = some (.leaf (.text "x") (.leaf (.inclusion "b") .nil)) := by
        decide +kernel
      obtain rfl := Option.some.inj (ha.symm.trans hbody)
      exact .inr (by simpa [Template.items] using hmem)
    · have hb : (looped.sources .fresh).template? "b" = some (.leaf (.text "y") (.leaf (.inclusion "a") .nil)) := by
        decide +kernel
      obtain rfl := Option.some.inj (hb.symm.trans hbody)
      exact .inl (by simpa [Template.items] using hmem)

/-- The two mappings differ in an entry, in the order of the entries and in their defaults. -/
theorem render_eq_of_agree_looped :
    let rendered := (looped.render loopedTemplate (.value .null) Stack.ordinary).runFrom ⟨.fresh, #[]⟩
    (∀ name, Reachable (looped.sources .fresh) loopedTemplate name →
        looped.IsInert .fresh name ∧ { looped with partials := .value (.ref 1) }.IsInert .fresh name) ∧
      (∀ name, Reachable (looped.sources .fresh) loopedTemplate name →
        looped.AgreesOn { looped with partials := .value (.ref 1) } .fresh name) ∧
      rendered.1.toOption = some "xyxyxy" ∧
      ({ looped with partials := .value (.ref 1) }.render loopedTemplate (.value .null) Stack.ordinary).runFrom
        ⟨.fresh, #[]⟩ = rendered := by
  have hinert (name : String) :
      looped.IsInert .fresh name ∧ { looped with partials := .value (.ref 1) }.IsInert .fresh name :=
    ⟨isInert_of_table rfl rfl .fresh name, isInert_of_table rfl rfl .fresh name⟩
  have hagrees : ∀ name, Reachable (looped.sources .fresh) loopedTemplate name →
      looped.AgreesOn { looped with partials := .value (.ref 1) } .fresh name := by
    intro name hname
    rcases looped_reachable hname with rfl | rfl <;> rfl
  refine ⟨fun name _ => hinert name, hagrees, by decide +kernel, ?_⟩
  exact render_eq_of_agree looped (.value (.ref 1)) loopedTemplate (.value .null) Stack.ordinary ⟨.fresh, #[]⟩
    (fun name _ => hinert name) hagrees

/-! ### Where asking for a partial has an effect

A chain that begins with a table with a default answers for a key that only a later table has, and stores the answer.
Where that table is part of the data, asking for a partial then changes what a name stands for. -/

/-- A table with a default that `d` stands for, and two mappings without a partial `n`: a table with an empty text, and
a chain of the table with a default and that one. -/
def shared : Setting where
  graph := ⟨#[.table (.defaulting .text (.text "")) [], .table .plain [(.text "n", .text "")], .chain [.ref 0, .ref 1],
    .table .plain [(.text "d", .ref 0)]], by decide⟩
  settings := .initial
  partials := .value (.ref 1)

/-- The partial, and a block that is there if `d` has entries. -/
def sharedTemplate : Template := .leaf (.inclusion "n") (.block .plain "d" (.leaf (.text "X") .nil) .nil)

/-- **Where asking for a partial has an effect, mappings with the same entries can be told apart.** -/
theorem exists_render_ne_of_agree :
    (∀ name, shared.IsInert .fresh name) ∧
      (∀ name, shared.AgreesOn { shared with partials := .value (.ref 2) } .fresh name) ∧
      (∀ name, shared.given? .fresh name = ({ shared with partials := .value (.ref 2) } : Setting).given? .fresh name) ∧
      ((shared.render sharedTemplate (.value (.ref 3)) Stack.ordinary).runFrom ⟨.fresh, #[]⟩).1 = .ok "" ∧
      (({ shared with partials := .value (.ref 2) }.render sharedTemplate (.value (.ref 3)) Stack.ordinary).runFrom
        ⟨.fresh, #[]⟩).1 = .ok "X" := by
  have hentry (name : String) :
      shared.given? .fresh name = ({ shared with partials := .value (.ref 2) } : Setting).given? .fresh name := by
    have hchain : ({ shared with partials := .value (.ref 2) } : Setting).given? .fresh name =
        ([⟨[], some (0, .text "")⟩, ⟨[(.text "n", .text "")], none⟩] : List Layer).findSome? fun l =>
          shared.graph.find? (.text name) l.entries :=
      rfl
    rw [hchain, List.findSome?_cons, List.findSome?_singleton]
    rfl
  refine ⟨isInert_of_table rfl rfl .fresh, fun name => ?_, hentry, by decide +kernel, by decide +kernel⟩
  rw [AgreesOn, hentry name]

end Setting

end Stencil
