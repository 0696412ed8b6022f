import Stencil.Visit
import Stencil.Proofs.Runs

/-!
# What is reported, partial by partial

Of all that rendering does, nothing reports events but partials do. So what a template reports is what the partials
report that it meets, in the order in which it meets them (`Stencil.reports_renderParts`).

Only some of the events are of interest at a time. What is said of a run is which of these it reports, from each state
(`Stencil.Run.Reports`).
-/

namespace Stencil

namespace Run

variable {α β γ : Type} {g : Graph} {picked : Event → Bool}

/-! ### What comes after a run -/

/-- What comes after a run that ends in a value comes after that value. -/
theorem after_ok {r : Run α} {σ τ : RunState} {x : α} (h : r.runFrom σ = (.ok x, τ))
    (next : α → RunState → List β) : r.after σ next = next x τ := by
  rw [after, h]

/-- Nothing comes after a run that ends in a fault. -/
theorem after_error {r : Run α} {σ τ : RunState} {f : Fault} (h : r.runFrom σ = (.error f, τ))
    (next : α → RunState → List β) : r.after σ next = [] := by
  rw [after, h]

theorem flatMap_after (r : Run α) (σ : RunState) (next : α → RunState → List β) (f : β → List γ) :
    (r.after σ next).flatMap f = r.after σ fun x τ => (next x τ).flatMap f := by
  rcases hr : r.runFrom σ with ⟨fault | x, τ⟩
  · rw [after_error hr, after_error hr, List.flatMap_nil]
  · rw [after_ok hr, after_ok hr]

theorem after_nil (r : Run α) (σ : RunState) : r.after σ (fun _ _ => ([] : List β)) = [] := by
  rcases hr : r.runFrom σ with ⟨fault | x, τ⟩
  · exact after_error hr _
  · exact after_ok hr _

/-- What comes after a run does not depend on the fault that it may end in. -/
theorem after_insideIteration (r : Run α) (σ : RunState) (next : α → RunState → List β) :
    (insideIteration r).after σ next = r.after σ next := by
  rw [after, after, runFrom_insideIteration]
  rcases r.runFrom σ with ⟨fault | x, τ⟩ <;> rfl

/-! ### Reports -/

/-- **Whether the picked events that a run reports are those that `l` says**, from each state. -/
def Reports (picked : Event → Bool) (r : Run α) (l : RunState → List Event) : Prop :=
  ∀ σ, ∃ reported, (r.runFrom σ).2.events.toList = σ.events.toList ++ reported ∧ reported.filter picked = l σ

theorem Reports.congr {r : Run α} {l l' : RunState → List Event} (h : Reports picked r l) (hl : ∀ σ, l σ = l' σ) :
    Reports picked r l' :=
  funext hl ▸ h

theorem IsQuiet.reports {r : Run α} (h : IsQuiet g r) : Reports picked r fun _ => [] := by
  intro σ
  refine ⟨[], ?_, rfl⟩
  rw [h.events, List.append_nil]

theorem reports_pure (x : α) : Reports picked (pure x : Run α) fun _ => [] :=
  fun _ => ⟨[], (List.append_nil _).symm, rfl⟩

theorem reports_report (e : Event) : Reports picked (report e) fun _ => [e].filter picked :=
  fun _ => ⟨[e], Array.toList_push, rfl⟩

/-- What is reported by two runs one after the other, where the second starts from the state that the first ends in. -/
theorem Reports.bind {r : Run α} {k : α → Run β} {l : RunState → List Event} {l' : α → RunState → List Event}
    (hr : Reports picked r l) (hk : ∀ x, Reports picked (k x) (l' x)) :
    Reports picked (r >>= k) fun σ => l σ ++ r.after σ l' := by
  intro σ
  obtain ⟨first, hevents, hfirst⟩ := hr σ
  rcases hrun : r.runFrom σ with ⟨f | x, σ'⟩ <;> rw [hrun] at hevents
  · refine ⟨first, ?_, ?_⟩
    · rw [runFrom_bind_error hrun, hevents]
    · dsimp only
      rw [after_error hrun, List.append_nil, hfirst]
  · obtain ⟨second, hevents', hsecond⟩ := hk x σ'
    refine ⟨first ++ second, ?_, ?_⟩
    · rw [runFrom_bind_ok hrun, hevents', hevents, List.append_assoc]
    · dsimp only
      rw [after_ok hrun, List.filter_append, hfirst, hsecond]

theorem IsQuiet.reports_bind {r : Run α} {k : α → Run β} {l : α → RunState → List Event} (hr : IsQuiet g r)
    (hk : ∀ x, Reports picked (k x) (l x)) : Reports picked (r >>= k) fun σ => r.after σ l :=
  hr.reports.bind hk

/-- A run that is followed by nothing that reports. -/
theorem Reports.bind_pure {r : Run α} {l : RunState → List Event} (hr : Reports picked r l) (f : α → β) :
    Reports picked (r >>= fun x => pure (f x)) l := by
  refine (hr.bind fun x => reports_pure (f x)).congr fun σ => ?_
  rw [after_nil, List.append_nil]

theorem Reports.insideIteration {r : Run α} {l : RunState → List Event} (h : Reports picked r l) :
    Reports picked (insideIteration r) l := by
  intro σ
  rw [runFrom_insideIteration]
  exact h σ

/-- What a run reports, read off the events before and after it. -/
theorem Reports.filter_reportedSince {r : Run α} {l : RunState → List Event} (h : Reports picked r l) (σ : RunState) :
    (σ.reportedSince (r.runFrom σ).2).filter picked = l σ := by
  obtain ⟨reported, hevents, hreported⟩ := h σ
  rw [RunState.reportedSince, hevents, List.drop_left, hreported]

end Run

open Run

/-! ### Templates -/

section Parts

variable {g : Graph} {picked : Event → Bool} {log : Visit → List Event}

/-- After a quiet run, what is met is what comes after it. -/
theorem Run.IsQuiet.reports_after {α β : Type} {r : Run α} {k : α → Run β} {next : α → RunState → List Visit}
    (hr : IsQuiet g r) (hk : ∀ x, Reports picked (k x) fun σ => (next x σ).flatMap log) :
    Reports picked (r >>= k) fun σ => (r.after σ next).flatMap log :=
  (hr.reports_bind hk).congr fun σ => (flatMap_after r σ next log).symm

/-- Two texts after each other, of which the second one is only met if the first one is there. -/
theorem reports_append {r u : Run String} {first second : RunState → List Visit}
    (hr : Reports picked r fun σ => (first σ).flatMap log) (hu : Reports picked u fun σ => (second σ).flatMap log) :
    Reports picked (do let s ← r; let rest ← u; return s ++ rest) fun σ =>
      (first σ ++ r.after σ fun _ τ => second τ).flatMap log := by
  refine (hr.bind fun s => hu.bind_pure (s ++ ·)).congr fun σ => ?_
  rw [List.flatMap_append, flatMap_after]

/-- The elements are visited one after the other, each from the state that the one before has left. -/
theorem reports_concatMap {f : Value → Run String} {visits : Value → RunState → List Visit}
    (hf : ∀ v, Reports picked (f v) fun σ => (visits v σ).flatMap log) (vs : List Value) :
    Reports picked (Graph.concatMap f vs) fun σ => (Graph.visitsOfAll f visits vs σ).flatMap log := by
  induction vs with
  | nil => exact reports_pure ""
  | cons v vs ih =>
    refine (reports_append (hf v).insideIteration ih).congr fun σ => ?_
    rw [Graph.visitsOfAll, after_insideIteration]

section Blocks

variable {body : Scope → Stack → Run String} {inside : Scope → Stack → RunState → List Visit}
  (hbody : ∀ scope stack, Reports picked (body scope stack) fun σ => (inside scope stack σ).flatMap log)

include hbody

theorem reports_renderPlain (scope : Scope) (stack : Stack) (name : String) :
    Reports picked (g.renderPlain scope stack name body) fun σ =>
      (g.visitsOfPlain scope stack name body inside σ).flatMap log := by
  refine (g.isQuiet_lookup scope name).reports_after fun v => (g.isQuiet_empty? v).reports_after fun empty => ?_
  cases empty with
  | true => exact reports_pure ""
  | false =>
    cases g.elements? v with
    | some xs =>
      refine reports_concatMap (fun x => ?_) xs.toList
      exact (g.isQuiet_elementScope x).reports_after fun inner => (g.isQuiet_enter stack _).reports_after (hbody inner)
    | none =>
      exact (g.isQuiet_blockScope scope v).reports_after fun inner =>
        (g.isQuiet_enter stack _).reports_after (hbody inner)

theorem reports_renderInverted (scope : Scope) (stack : Stack) (name : String) :
    Reports picked (g.renderInverted scope stack name body) fun σ =>
      (g.visitsOfInverted scope stack name inside σ).flatMap log := by
  refine (g.isQuiet_lookup scope name).reports_after fun v => (g.isQuiet_empty? v).reports_after fun empty => ?_
  cases empty with
  | true => exact (g.isQuiet_enter stack _).reports_after (hbody scope)
  | false => exact reports_pure ""

theorem reports_renderBlock (kind : BlockKind) (name : String) (scope : Scope) (stack : Stack) :
    Reports picked (renderBlock g kind name body scope stack) fun σ =>
      (visitsOfBlock g kind name body inside scope stack σ).flatMap log := by
  cases kind with
  | plain => exact reports_renderPlain hbody scope stack name
  | inverted => exact reports_renderInverted hbody scope stack name

end Blocks

variable {inclusion : String → Scope → Stack → Run String}
  (hinclusion : ∀ name scope stack, Reports picked (inclusion name scope stack) fun σ => log ⟨name, scope, stack, σ⟩)

include hinclusion

theorem reports_renderLeaf (l : Leaf) (scope : Scope) (stack : Stack) :
    Reports picked (renderLeaf g inclusion l scope stack) fun σ => (visitsOfLeaf l scope stack σ).flatMap log := by
  cases l with
  | text s => exact reports_pure s
  | name n => exact (g.isQuiet_interpolate scope n).reports.bind_pure Text.escape
  | raw n => exact (g.isQuiet_interpolate scope n).reports
  | inclusion n =>
    refine (hinclusion n scope stack).congr fun σ => ?_
    rw [visitsOfLeaf, List.flatMap_singleton]

variable (log) in
/-- **A template reports what the partials report that it meets**, in the order in which it meets them. -/
theorem reports_renderParts (t : Template) (scope : Scope) (stack : Stack) :
    Reports picked (renderParts g inclusion t scope stack) fun σ =>
      (visits g inclusion t scope stack σ).flatMap log := by
  induction t generalizing scope stack with
  | nil => exact reports_pure ""
  | leaf l rest ih => exact reports_append (reports_renderLeaf hinclusion l scope stack) (ih scope stack)
  | block kind name body rest ihbody ihrest =>
    exact reports_append (reports_renderBlock ihbody kind name scope stack) (ihrest scope stack)

end Parts

end Stencil
