import Stencil.Proofs.Stages

/-!
# Renderings that give the same answers

Two renderings may begin with different settings and at different stages, and still show the same. This is so if their
stages are related by a simulation (`Stencil.Setting.IsSimulation`): at related stages the same text is shown, or
related things are to be done. Related stages end alike (`Stencil.Setting.IsSimulation.endsLike`), by induction along
the stages that the first of them leads to.

Two settings that have different data and different partials may give the same answers at all stages of a rendering.
Then the rendering ends alike with both (`Stencil.Setting.endsLike_outcome`). The answers have to be compared only at
the stages that are passed with the first setting: with the second one the same jobs come up there, in states that are
related to those of the first.

How states are related is said by a relation `R`, which reporting the same event has to keep. Where the settings
report different events, it is that the memories are the same.
-/

namespace Stencil

open Run

variable {R : RunState → RunState → Prop}

/-- **Whether two runs end alike**: in the same result, and in states that are related. -/
def Run.EndsLike {α : Type} (R : RunState → RunState → Prop) (first second : Except Fault α × RunState) : Prop :=
  second.1 = first.1 ∧ R first.2 second.2

/-- Whether states stay related when an event is reported from both. -/
def Run.KeptByReports (R : RunState → RunState → Prop) : Prop :=
  ∀ ⦃σ τ⦄ (e : Event), R σ τ → R { σ with events := σ.events.push e } { τ with events := τ.events.push e }

namespace Run

variable {α β : Type}

/-- What goes on alike after runs that end alike ends alike. -/
theorem EndsLike.bind {r r' : Run α} {k k' : α → Run β} {σ τ : RunState} (h : EndsLike R (r.runFrom σ) (r'.runFrom τ))
    (hk : ∀ x σ' τ', r.runFrom σ = (.ok x, σ') → R σ' τ' → EndsLike R ((k x).runFrom σ') ((k' x).runFrom τ')) :
    EndsLike R ((r >>= k).runFrom σ) ((r' >>= k').runFrom τ) := by
  obtain ⟨hres, hstate⟩ := h
  rcases hσ : r.runFrom σ with ⟨f | x, σ'⟩ <;> rcases hτ : r'.runFrom τ with ⟨res, τ'⟩ <;>
    rw [hσ, hτ] at hres hstate <;> obtain rfl := hres
  · rw [runFrom_bind_error hσ, runFrom_bind_error hτ]
    exact ⟨rfl, hstate⟩
  · rw [runFrom_bind_ok hσ, runFrom_bind_ok hτ]
    exact hk x σ' τ' hσ hstate

theorem EndsLike.containOverflow (hR : KeptByReports R) {r r' : Run String} {σ τ : RunState}
    (h : EndsLike R (r.runFrom σ) (r'.runFrom τ)) (name : String) :
    EndsLike R ((containOverflow name r).runFrom σ) ((Stencil.containOverflow name r').runFrom τ) := by
  obtain ⟨hres, hstate⟩ := h
  rw [runFrom_containOverflow, runFrom_containOverflow]
  rcases hσ : r.runFrom σ with ⟨f | shown, σ'⟩ <;> rcases hτ : r'.runFrom τ with ⟨res, τ'⟩ <;>
    rw [hσ, hτ] at hres hstate <;> obtain rfl := hres
  · dsimp only
    split
    · exact ⟨rfl, hR _ hstate⟩
    · exact ⟨rfl, hstate⟩
  · exact ⟨rfl, hstate⟩

theorem EndsLike.insideIteration {α : Type} {r r' : Run α} {σ τ : RunState}
    (h : EndsLike R (r.runFrom σ) (r'.runFrom τ)) :
    EndsLike R ((insideIteration r).runFrom σ) ((insideIteration r').runFrom τ) := by
  rw [runFrom_insideIteration, runFrom_insideIteration]
  exact ⟨by rw [h.1], h.2⟩

theorem EndsLike.contain (hR : KeptByReports R) {r r' : Run String} {σ τ : RunState}
    (h : EndsLike R (r.runFrom σ) (r'.runFrom τ)) (j : Job) :
    EndsLike R ((j.contain r).runFrom σ) ((j.contain r').runFrom τ) := by
  unfold Job.contain
  split
  · exact h.containOverflow hR _
  · exact h.insideIteration
  · exact h

end Run

/-- Whether two answers show the same text, or say to do things inside that are related. -/
inductive Stage.Answer.Alike (P : Job → Job → Prop) : Stage.Answer → Stage.Answer → Prop
  | shows (text : String) : Alike P (.shows text) (.shows text)
  | enters {inner inner' : Job} : P inner inner' → Alike P (.enters inner) (.enters inner')

namespace Setting

variable {s s' : Setting} {a b : Stage}

/-- **Whether stages are related in such a way that what they lead to is related again.** The same is shown at related
stages, in the one setting and in the other, or what is to be done inside is related, and so is what is to be done
after that. -/
structure IsSimulation (R : RunState → RunState → Prop) (s s' : Setting) (K : Stage → Stage → Prop) : Prop where
  contain {a b : Stage} : K a b → a.contain = b.contain
  state {a b : Stage} : K a b → R (s.answer a).2 (s'.answer b).2
  answer {a b : Stage} : K a b →
    EndAlike (Stage.Answer.Alike fun j j' => K ⟨j, (s.answer a).2⟩ ⟨j', (s'.answer b).2⟩) (s.answer a).1 (s'.answer b).1
  past {a b : Stage} {shown : String} {σ τ : RunState} : K a b → (s.part a.toJob).runFrom a.state = (.ok shown, σ) →
    (s'.part b.toJob).runFrom b.state = (.ok shown, τ) → R σ τ →
    Option.Rel (fun t t' => K { a with task := t, state := σ } { b with task := t', state := τ })
      a.task.rest? b.task.rest?

section Simulation

variable {K : Stage → Stage → Prop} (hR : KeptByReports R) (h : IsSimulation R s s' K)

include hR h

/-- The part that comes first ends alike if what is done inside ends alike. -/
theorem IsSimulation.endsLike_part (hab : K a b)
    (hinside : ∀ c d, s.Enters a c → K c d → EndsLike R (s.outcome c) (s'.outcome d)) :
    EndsLike R ((s.part a.toJob).runFrom a.state) ((s'.part b.toJob).runFrom b.state) := by
  have hstate := h.state hab
  have hanswer := h.answer hab
  rw [part_eq, part_eq]
  rcases ha : s.answer a with ⟨res, σ⟩
  rcases hb : s'.answer b with ⟨res', τ⟩
  rw [ha, hb] at hstate hanswer
  cases hanswer with
  | error f =>
    rw [runFrom_bind_error ha, runFrom_bind_error hb]
    exact ⟨rfl, hstate⟩
  | ok hanswer =>
    rw [runFrom_bind_ok ha, runFrom_bind_ok hb]
    cases hanswer with
    | shows text => exact ⟨rfl, hstate⟩
    | @enters j j' hinner =>
      rw [follow, follow, ← h.contain hab]
      exact EndsLike.contain hR (hinside ⟨j, σ⟩ ⟨j', τ⟩ ha hinner) a.toJob

/-- **Related stages end alike.** -/
theorem IsSimulation.endsLike (hab : K a b) : EndsLike R (s.outcome a) (s'.outcome b) := by
  -- What is inside the part that comes first and what follows it begin with stages that this one leads to.
  induction a using s.wellFounded_leads.induction generalizing b with
  | _ a ih =>
    have hpart := h.endsLike_part hR hab fun c d henters => ih c (.into henters)
    rcases ha : (s.part a.toJob).runFrom a.state with ⟨res, σ⟩
    rcases hb : (s'.part b.toJob).runFrom b.state with ⟨res', τ⟩
    rw [ha, hb] at hpart
    obtain ⟨hres, hstate⟩ := hpart
    obtain rfl : res' = res := hres
    cases res' with
    | error f =>
      rw [outcome_of_part_fails ha, outcome_of_part_fails hb]
      exact ⟨rfl, hstate⟩
    | ok shown =>
      have hrest := h.past hab ha hb hstate
      rcases hrest? : a.task.rest? with _ | task <;> rcases hrest?' : b.task.rest? with _ | task' <;>
        rw [hrest?, hrest?'] at hrest <;> cases hrest
      · rw [outcome_of_rest_none hrest?, outcome_of_rest_none hrest?', ha, hb]
        exact ⟨rfl, hstate⟩
      · -- What follows is another stage, and the text is put in front of what it ends in.
        next hnext =>
        rw [outcome_of_rest_some hrest?, outcome_of_rest_some hrest?', ha, hb]
        obtain ⟨hres', hstate'⟩ := ih _ (.past hrest? ha) hnext
        dsimp only at hres' hstate' ⊢
        rcases ha' : s.outcome { a with task, state := σ } with ⟨f | tail, υ⟩ <;>
          rcases hb' : s'.outcome { b with task := task', state := τ } with ⟨res, υ'⟩ <;>
          rw [ha', hb'] at hres' hstate' <;> obtain rfl := hres' <;> exact ⟨rfl, hstate'⟩

end Simulation

/-- **Settings that give the same answers at the stages that are passed end alike.** -/
theorem endsLike_outcome (hR : KeptByReports R)
    (h : ∀ b τ, s.Passes a b → R b.state τ → EndsLike R (s.answer b) (s'.answer { b with state := τ })) {τ : RunState}
    (hτ : R a.state τ) : EndsLike R (s.outcome a) (s'.outcome { a with state := τ }) := by
  have hsimulates : IsSimulation R s s' fun b c => s.Passes a b ∧ R b.state c.state ∧ c.toJob = b.toJob := by
    have hanswer {b c : Stage} (hbc : s.Passes a b ∧ R b.state c.state ∧ c.toJob = b.toJob) :
        EndsLike R (s.answer b) (s'.answer c) := by
      obtain ⟨hpasses, hstate, hjob⟩ := hbc
      have hsame : c = { b with state := c.state } := by rw [← hjob]
      rw [hsame]
      exact h b c.state hpasses hstate
    refine ⟨fun hbc => by rw [hbc.2.2], fun hbc => (hanswer hbc).2, fun {b c} hbc => ?_, ?_⟩
    · obtain ⟨hres, hstate⟩ := hanswer hbc
      rcases hb : s.answer b with ⟨f | text | inner, σ⟩ <;> rw [hb] at hres hstate <;> rw [hres]
      · exact .error f
      · exact .ok (.shows text)
      · exact .ok (.enters ⟨hbc.1.tail (.into hb), hstate, rfl⟩)
    · rintro b c shown σ υ ⟨hpasses, -, hjob⟩ hpart - hstate
      rw [hjob]
      cases hrest : b.task.rest? with
      | none => exact .none
      | some task => exact .some ⟨hpasses.tail (.past hrest hpart), hstate, rfl⟩
  exact hsimulates.endsLike hR ⟨.refl, hτ, rfl⟩

end Setting

end Stencil
