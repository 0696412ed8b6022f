import Stencil.Proofs.Agreement
import Stencil.Proofs.Keys
import Stencil.Proofs.Simulation

/-!
# Entries that are no source of a partial

An entry of the partials may be missing, it may be no text, or empty, or a text in which the blocks do not nest. Where
a template asks for such a partial nothing is shown, as if the entry was not there. So removing entries of this kind
from the partials makes no difference: at every stage of a rendering the same answer is given without them, though
other events may be reported (`Stencil.Setting.endsLike_answer_without`).

Every entry is tested for its truth first, and there are objects that refuse to be tested. If such an object is asked
for, the rendering fails with the fault of the object. This is the one way in which an entry makes a difference that
is no source (`Stencil.Setting.render_without_unusable`).
-/

namespace Stencil

open Run

/-! ### Tables without some entries -/

/-- The entries that are not under one of some names. -/
def Entries.without (es : Entries) (names : List String) : Entries := es.filter fun e => e.1 ∉ names.map Value.text

/-- What is found in a table without some entries. -/
theorem Graph.find?_without (g : Graph) (es : Entries) (names : List String) (name : String) :
    g.find? (.text name) (es.without names) = if name ∈ names then none else g.find? (.text name) es := by
  induction es with
  | nil =>
    rw [Entries.without, List.filter_nil, find?]
    split <;> rfl
  | cons e es ih =>
    obtain ⟨k, v⟩ := e
    rw [Entries.without] at ih
    rw [Entries.without, List.filter_cons, find?_text_cons]
    by_cases hk : k = .text name
    · subst hk
      by_cases hname : name ∈ names
      · rw [if_neg (by simpa using hname), ih, if_pos hname, if_pos hname]
      · rw [if_pos (by simpa using hname), find?_text_cons, if_pos rfl, if_neg hname, if_pos rfl]
    · rw [if_neg hk]
      split
      · rw [find?_text_cons, if_neg hk, ih]
      · exact ih

/-! ### Runs that see nothing but the memory -/

/-- Whether two states have the same memory. -/
def RunState.SameMemory (σ τ : RunState) : Prop := σ.memory = τ.memory

theorem keptByReports_sameMemory : KeptByReports RunState.SameMemory := fun _ _ _ h => h

namespace Run

variable {α β : Type}

/-- Whether a run ends alike from states with the same memory, whatever has been reported. -/
def SeesMemory (r : Run α) : Prop :=
  ∀ ⦃σ τ⦄, RunState.SameMemory σ τ → EndsLike RunState.SameMemory (r.runFrom σ) (r.runFrom τ)

theorem IsQuiet.seesMemory {g : Graph} {r : Run α} (h : IsQuiet g r) : SeesMemory r := by
  intro σ τ hmem
  obtain ⟨hres, hmem'⟩ := h.alike hmem
  exact ⟨hres.symm, hmem'⟩

theorem seesMemory_pure (x : α) : SeesMemory (pure x) := fun _ _ hmem => ⟨rfl, hmem⟩

theorem seesMemory_report (e : Event) : SeesMemory (report e) := fun _ _ hmem => ⟨rfl, hmem⟩

theorem SeesMemory.bind {r : Run α} {k : α → Run β} (hr : SeesMemory r) (hk : ∀ x, SeesMemory (k x)) :
    SeesMemory (r >>= k) :=
  fun _ _ hmem => (hr hmem).bind fun x _ _ _ hmem' => hk x hmem'

end Run

namespace Setting

variable {s : Setting} {m : Memory} {name : String}

theorem seesMemory_questionSource (s : Setting) (depth : Nat) (name : String) (scope : Scope) (stack : Stack)
    (source? : Option String) : SeesMemory (s.questionSource depth name scope stack source?) := by
  have hdebug (e : Event) : SeesMemory (s.debug e) := by
    rw [debug]
    split
    · exact seesMemory_report e
    · exact seesMemory_pure _
  cases source? with
  | none => exact seesMemory_pure _
  | some source =>
    rw [questionSource]
    split
    · cases Template.parse source with
      | error cause => exact (seesMemory_report _).bind fun _ => seesMemory_pure _
      | ok t => exact (hdebug _).bind fun _ => (hdebug _).bind fun _ => seesMemory_pure _
    · exact (seesMemory_report _).bind fun _ => seesMemory_pure _

/-- **A question sees nothing but the memory.** -/
theorem seesMemory_question (s : Setting) (j : Job) : SeesMemory (s.question j) := by
  have hanswer {α : Type} {r : Run α} (hr : IsQuiet s.graph r) (f : α → Stage.Answer) :
      SeesMemory (do return f (← r) : Run Stage.Answer) :=
    hr.seesMemory.bind fun _ => seesMemory_pure _
  obtain ⟨depth, task, scope, stack⟩ := j
  rcases task with (_ | ⟨_ | n | n | n, rest⟩ | ⟨kind, name, body, rest⟩) | ⟨frames, t⟩ | ⟨t, _ | ⟨v, vs⟩⟩
  · exact seesMemory_pure _
  · exact seesMemory_pure _
  · exact hanswer (s.graph.isQuiet_interpolate scope n) _
  · exact hanswer (s.graph.isQuiet_interpolate scope n) _
  · exact (s.isQuiet_source? n).seesMemory.bind fun source? => s.seesMemory_questionSource depth n scope stack source?
  · refine (s.graph.isQuiet_lookup scope name).seesMemory.bind fun v => ?_
    refine (s.graph.isQuiet_empty? v).seesMemory.bind fun empty => ?_
    cases kind <;> cases empty
    · dsimp only
      split
      · exact seesMemory_pure _
      · exact hanswer (s.graph.isQuiet_blockScope scope v) _
    · exact seesMemory_pure _
    · exact seesMemory_pure _
    · exact seesMemory_pure _
  · exact hanswer (s.graph.isQuiet_enter stack frames) _
  · exact seesMemory_pure _
  · exact hanswer (s.graph.isQuiet_elementScope v) _

/-! ### Sources that cannot be read -/

/-- Source that cannot be read comes to nothing, wherever the partial stands. -/
theorem exists_runFrom_questionSource {source? : Option String}
    (hunread : ∀ source, source? = some source → ∃ cause, Template.parse source = .error cause) (depth : Nat)
    (name : String) (scope : Scope) (stack : Stack) (σ : RunState) :
    ∃ events, (s.questionSource depth name scope stack source?).runFrom σ = (.ok (.shows ""), { σ with events }) := by
  cases source? with
  | none => exact ⟨σ.events, rfl⟩
  | some source =>
    obtain ⟨cause, hparse⟩ := hunread source rfl
    rw [questionSource]
    split
    · rw [hparse]
      exact ⟨_, rfl⟩
    · exact ⟨_, rfl⟩

/-- The fault that arises where a partial is asked for is the one of asking for its source. -/
theorem arises_of_source?_fails {a : Stage} (ha : a.Includes name) {f : Fault}
    (h : ((s.source? name).runFrom a.state).1 = .error f) : s.Arises a f := by
  obtain ⟨⟨depth, task, scope, stack⟩, σ⟩ := a
  obtain ⟨rest, rfl⟩ : ∃ rest, task = .template (.leaf (.inclusion name) rest) := ha
  exact congrArg Prod.fst (runFrom_bind_error (Prod.ext h rfl) (s.questionSource depth name scope stack))

theorem answer_of_includes {a : Stage} {rest : Template} (htask : a.task = .template (.leaf (.inclusion name) rest)) :
    s.answer a = (s.questionPartial a.depth name a.scope a.stack).runFrom a.state := by
  rw [answer, question, htask]

/-! ### Entries that are removed -/

/-- **Whether one setting has the partials of another one but for those under some names**, in the memory `m`: under
these names it has none. -/
structure IsWithout (s' s : Setting) (m : Memory) (N : String → Prop) : Prop where
  removed {name : String} : N name → s'.given? m name = none
  kept {name : String} : ¬N name → s'.given? m name = s.given? m name

/-- Partials from one table can be left with the entries that are not under some names. -/
theorem isWithout_record {es : Entries} (hview : s.graph.partialsView? m s.partials = some (.single es))
    (names : List String) : IsWithout { s with partials := .record (es.without names) } s m (· ∈ names) := by
  have hgiven (name : String) : ({ s with partials := .record (es.without names) } : Setting).given? m name =
      if name ∈ names then none else s.given? m name := by
    have hrecord : ({ s with partials := .record (es.without names) } : Setting).given? m name =
        s.graph.find? (.text name) (es.without names) := rfl
    have htable : s.given? m name = s.graph.find? (.text name) es := by
      rw [given?, hview]
      rfl
    rw [hrecord, htable, Graph.find?_without]
  exact ⟨fun hname => (hgiven _).trans (if_pos hname), fun hname => (hgiven _).trans (if_neg hname)⟩

/-- Asking partials that are a table of their own has no effect. -/
theorem isInert_record (s : Setting) (es : Entries) (m : Memory) (name : String) :
    ({ s with partials := .record es } : Setting).IsInert m name := by
  intro σ _
  have hview : ({ s with partials := .record es } : Setting).graph.partialsView? σ.memory (.record es) =
      some (.single es) := rfl
  rw [runFrom_source? hview]

section

variable {partials : Scope} {N : String → Prop}

/-- Only where a partial is asked for does it matter which there are. -/
theorem question_of_not_includes {j : Job} (hother : ∀ name, ¬j.Includes name) :
    ({ s with partials } : Setting).question j = s.question j := by
  obtain ⟨depth, task, scope, stack⟩ := j
  rcases task with (_ | ⟨_ | n | n | n, rest⟩ | ⟨kind, name, body, rest⟩) | ⟨frames, t⟩ | ⟨t, _ | ⟨v, vs⟩⟩
  case template.leaf.inclusion => exact absurd ⟨rest, rfl⟩ (hother n)
  all_goals rfl

/-- An entry that is no readable source, and can be tested, comes to nothing. -/
theorem exists_runFrom_questionPartial (hinert : s.IsInert m name)
    (hunusable : (s.sources m).template? name = none)
    (htested : ∀ v f, s.given? m name = some v → s.graph.truth m v ≠ .error f) {σ : RunState}
    (hσ : s.graph.Evolves m σ.memory) (depth : Nat) (scope : Scope) (stack : Stack) :
    ∃ events, (s.questionPartial depth name scope stack).runFrom σ = (.ok (.shows ""), { σ with events }) := by
  have hsource := runFrom_source?_of_isInert hinert hσ
  cases hgiven : s.given? m name with
  | none =>
    rw [hgiven] at hsource
    rw [questionPartial, runFrom_bind_ok hsource]
    refine exists_runFrom_questionSource (fun source hsource => ?_) depth name scope stack σ
    cases hsource
  | some v =>
    have htaken : s.graph.taken m v = .ok v.source? := by
      rw [Graph.taken]
      cases htruth : s.graph.truth m v with
      | error f => exact absurd htruth (htested v f hgiven)
      | ok b => rfl
    have hread : (s.source? name).runFrom σ = (.ok v.source?, σ) := by
      rw [hsource, hgiven, Option.map_some, Option.getD_some, htaken]
    rw [questionPartial, runFrom_bind_ok hread]
    refine exists_runFrom_questionSource (fun source hv => ?_) depth name scope stack σ
    have hsources : s.sources m name = some source := by
      rw [sources, hgiven, Option.bind_some, hv]
    rw [Sources.template?, hsources, Option.bind_eq_bind, Option.bind_some] at hunusable
    cases hparse : Template.parse source with
    | error cause => exact ⟨cause, rfl⟩
    | ok t =>
      rw [hparse] at hunusable
      cases hunusable

/-- **Without the entries the same answer is given at every stage**, unless an entry is asked for that refuses to be
tested. -/
theorem endsLike_answer_without
    (hinert : ∀ name, s.IsInert m name ∧ ({ s with partials } : Setting).IsInert m name)
    (hunusable : ∀ name, N name → (s.sources m).template? name = none)
    (hwithout : IsWithout { s with partials } s m N) {b : Stage} (hb : s.graph.Evolves m b.state.memory)
    (htested : ∀ name v f, b.Includes name → N name → s.given? m name = some v → s.graph.truth m v ≠ .error f)
    {τ : RunState} (hmem : b.state.SameMemory τ) :
    EndsLike RunState.SameMemory (s.answer b) (({ s with partials } : Setting).answer { b with state := τ }) := by
  by_cases hother : ∀ name, ¬b.Includes name
  · have hsame : ({ s with partials } : Setting).question b.toJob = s.question b.toJob :=
      question_of_not_includes hother
    rw [answer, answer, hsame]
    exact s.seesMemory_question b.toJob hmem
  · obtain ⟨name, rest, htask⟩ : ∃ name, b.Includes name := not_forall_not.mp hother
    have hτ : s.graph.Evolves m τ.memory := hmem ▸ hb
    have hsource' := runFrom_source?_of_isInert (s := { s with partials }) (hinert name).2 hτ
    rw [answer_of_includes htask, answer_of_includes (a := { b with state := τ }) htask]
    by_cases hname : N name
    · obtain ⟨events, hshows⟩ := exists_runFrom_questionPartial (hinert name).1 (hunusable name hname)
        (fun v f => htested name v f ⟨rest, htask⟩ hname) hb b.depth b.scope b.stack
      rw [hwithout.removed hname] at hsource'
      rw [hshows, questionPartial, runFrom_bind_ok hsource']
      exact ⟨rfl, hmem⟩
    · have hsource := runFrom_source?_of_isInert (hinert name).1 hb
      rw [hwithout.kept hname] at hsource'
      have hread : EndsLike RunState.SameMemory ((s.source? name).runFrom b.state)
          ((({ s with partials } : Setting).source? name).runFrom τ) := by
        rw [hsource, hsource']
        exact ⟨rfl, hmem⟩
      exact hread.bind fun source? σ' τ' _ hmem' =>
        s.seesMemory_questionSource b.depth name b.scope b.stack source? hmem'

end

/-- **Entries that are no readable source make no difference, but for those that refuse to be tested.** A rendering
ends in the same result and with the same memory without them, unless it asks for one whose truth test fails. If it
does, then the rendering ends in that fault, with two exceptions: where it is of the kind `recursion` and arises inside
a partial, the outermost partial around it is given up, and where it is of the kind `stop` and arises inside an element
of a list, the rendering ends in what the iteration makes of it. -/
theorem render_without_unusable (s : Setting) (partials : Scope) (t : Template) (scope : Scope) (stack : Stack)
    (σ : RunState) (N : String → Prop)
    (hinert : ∀ name, s.IsInert σ.memory name ∧ { s with partials }.IsInert σ.memory name)
    (hunusable : ∀ name, N name → (s.sources σ.memory).template? name = none)
    (hwithout : IsWithout { s with partials } s σ.memory N) :
    let rendered := (s.render t scope stack).runFrom σ
    let without := ({ s with partials }.render t scope stack).runFrom σ
    ((∀ a name v f, s.Passes (start t scope stack σ) a → a.Includes name → N name →
        s.given? σ.memory name = some v → s.graph.truth σ.memory v ≠ .error f) →
      without.1 = rendered.1 ∧ without.2.memory = rendered.2.memory) ∧
    ∀ a name v f, s.Passes (start t scope stack σ) a → a.Includes name → N name →
      s.given? σ.memory name = some v → s.graph.truth σ.memory v = .error f →
      (f.kind ≠ .recursion ∨ a.depth = 0 → f.kind ≠ .stop ∨ ¬s.InElement (start t scope stack σ) a →
          rendered.1 = .error f) ∧
        (f.kind = .stop → s.InElement (start t scope stack σ) a → rendered.1 = .error .iterationStopped) ∧
        (f.kind = .recursion → a.depth ≠ 0 → s.GivenUpAround (start t scope stack σ) a) := by
  constructor
  · intro htested
    have hends : EndsLike RunState.SameMemory (s.outcome (start t scope stack σ))
        (({ s with partials } : Setting).outcome (start t scope stack σ)) := by
      refine endsLike_outcome (a := start t scope stack σ) keptByReports_sameMemory (fun b τ hpasses hmem => ?_) rfl
      refine endsLike_answer_without hinert hunusable hwithout (Passes.evolves hpasses) ?_ hmem
      exact fun name v f => htested b name v f hpasses
    exact ⟨hends.1, hends.2.symm⟩
  · intro a name v f hpasses hincludes _ hgiven htruth
    refine Passes.ends_of_arises hpasses rfl (arises_of_source?_fails hincludes ?_)
    rw [runFrom_source?_of_isInert (hinert name).1 (Passes.evolves hpasses), hgiven, Option.map_some,
      Option.getD_some, Graph.taken, htruth]
    rfl

/-- A list `xs` to render the partial `row` for, and entries that are no sources. -/
def littered : Setting where
  graph := ⟨#[.table .plain [(.text "xs", .ref 1)], .sequence .list [.int 1, .int 2],
    .table .plain [(.text "row", .text "{{.}}{{>open}}{{>five}};"),
      (.text "open", .text "{{#a}}"), (.text "five", .int 5), (.text "empty", .text "")]], by decide⟩
  settings := .initial
  partials := .value (.ref 2)

/-- The names of the entries that are no sources, and one that has no entry. -/
def litter : List String := ["open", "five", "empty", "absent"]

/-- The partial `row` for each element, with partials around that there are not. -/
def litteredTemplate : Template :=
  .leaf (.inclusion "absent") (.block .plain "xs" (.leaf (.inclusion "row") (.leaf (.inclusion "empty") .nil)) .nil)

theorem litter_cases {name : String} (h : name ∈ litter) :
    name = "open" ∨ name = "five" ∨ name = "empty" ∨ name = "absent" := by
  simpa [litter] using h

/-- The entries are taken away, and the elements are shown as before. -/
theorem render_without_unusable_littered :
    ∃ es, littered.graph.partialsView? .fresh littered.partials = some (.single es) ∧
      let rendered := (littered.render litteredTemplate (.value (.ref 0)) Stack.ordinary).runFrom ⟨.fresh, #[]⟩
      let without := ({ littered with partials := .record (es.without litter) }.render litteredTemplate
        (.value (.ref 0)) Stack.ordinary).runFrom ⟨.fresh, #[]⟩
      (∀ name ∈ litter, (littered.sources .fresh).template? name = none) ∧
        rendered.1.toOption = some "1;2;" ∧ without.1 = rendered.1 ∧ without.2.memory = rendered.2.memory := by
  have hview : littered.graph.partialsView? .fresh littered.partials = some (.single _) := rfl
  have hunusable : ∀ name ∈ litter, (littered.sources .fresh).template? name = none := by
    intro name hname
    rcases litter_cases hname with rfl | rfl | rfl | rfl <;> decide +kernel
  have htested : ∀ name v f, name ∈ litter → littered.given? .fresh name = some v →
      littered.graph.truth .fresh v ≠ .error f := by
    intro name v f hname hgiven
    rcases litter_cases hname with rfl | rfl | rfl | rfl <;> cases hgiven <;> nofun
  refine ⟨_, hview, hunusable, by decide +kernel, ?_⟩
  refine (render_without_unusable littered _ litteredTemplate (.value (.ref 0)) Stack.ordinary ⟨.fresh, #[]⟩
    (· ∈ litter) (fun name => ⟨isInert_of_table rfl rfl .fresh name, ?_⟩) hunusable
    (isWithout_record hview litter)).1 ?_
  · exact isInert_record littered _ .fresh name
  · exact fun a name v f _ _ hname => htested name v f hname

/-- **An entry that is no source may make a rendering fail**: its truth is tested, which it refuses. -/
theorem exists_unusable_raised :
    (untestable.sources .fresh).template? "p" = none ∧
      IsWithout { untestable with partials := .record [] } untestable .fresh (· = "p") ∧
      ((untestable.render inclusionOnly (.value .null) Stack.ordinary).runFrom ⟨.fresh, #[]⟩).1 =
        .error (.raised .value "truth value is ambiguous") ∧
      (({ untestable with partials := .record [] }.render inclusionOnly (.value .null) Stack.ordinary).runFrom
        ⟨.fresh, #[]⟩).1 = .ok "" := by
  refine ⟨rfl, ⟨fun _ => rfl, fun {name} hname => ?_⟩, rfl, rfl⟩
  have hgiven : untestable.given? .fresh name = untestable.graph.find? (.text name) [(.text "p", .ref 1)] := rfl
  rw [hgiven, Graph.find?_text_cons, if_neg (by simpa using Ne.symm hname)]
  rfl

end Setting

end Stencil
