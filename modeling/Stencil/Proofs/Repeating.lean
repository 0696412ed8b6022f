import Stencil.Proofs.Congruence
import Stencil.Proofs.Ensuring

/-!
# Runs that do what others do

Two runs do the same from a state if they end in the same result and in the same state, reported events included. That
is asked here of all states that the memory at the beginning may lead to, and only of runs in which nothing happens that
`spoils` the comparison (`Stencil.Run.Repeats`). Like any relation that is compatible with rendering it is enough to
compare how partials are rendered. The stacks have to be the same (`Stencil.Run.isCongruence_repeats_eq`), or to have
room for all that is rendered (`Stencil.Run.isCongruence_repeats_unlimited`).
-/

namespace Stencil

theorem Stack.not_short_iff {stack : Stack} {frames : Nat} :
    ¬stack.Short frames ↔ ∀ left, stack = some left → frames ≤ left := by
  simp [Short]

namespace Run

variable {α β : Type} {g : Graph} {m : Memory} {spoils : Event → Prop}

/-- **Whether a run does what another one does** from every state that may come after `m`, if the first one reports
nothing that spoils it. -/
def Repeats (g : Graph) (m : Memory) (spoils : Event → Prop) (r r' : Run α) : Prop :=
  ∀ σ, g.Evolves m σ.memory → ∃ reported,
    (r.runFrom σ).2.events.toList = σ.events.toList ++ reported ∧ g.Evolves m (r.runFrom σ).2.memory ∧
      ((∀ e ∈ reported, ¬spoils e) → r'.runFrom σ = r.runFrom σ)

theorem IsQuiet.repeats {r : Run α} (h : IsQuiet g r) : Repeats g m spoils r r := by
  intro σ hσ
  refine ⟨[], ?_, hσ.trans (h.evolves σ), fun _ => rfl⟩
  rw [h.events, List.append_nil]

theorem repeats_report (e : Event) : Repeats g m spoils (report e) (report e) :=
  fun _ hσ => ⟨[e], Array.toList_push, hσ, fun _ => rfl⟩

/-- Nothing is said of runs that are spoiled. -/
theorem repeats_of_spoils {e : Event} (h : spoils e) (x : α) (r' : Run α) :
    Repeats g m spoils (report e >>= fun _ => pure x) r' := by
  intro σ hσ
  refine ⟨[e], Array.toList_push, hσ, fun hclean => ?_⟩
  exact absurd h (hclean e List.mem_cons_self)

/-- Runs in sequence, where `P` is known of the value of the first one. -/
theorem Repeats.bind_of_ensures {P : α → Prop} {r r' : Run α} {k k' : α → Run β} (hr : Repeats g m spoils r r')
    (hP : Ensures g m P r) (hk : ∀ x, P x → Repeats g m spoils (k x) (k' x)) :
    Repeats g m spoils (r >>= k) (r' >>= k') := by
  intro σ hσ
  obtain ⟨first, hevents, hevolved, hsame⟩ := hr σ hσ
  have hvalue := (hP σ hσ).2
  rcases hrun : r.runFrom σ with ⟨f | x, σ'⟩
  · rw [hrun] at hevents hevolved hsame
    rw [runFrom_bind_error hrun]
    refine ⟨first, hevents, hevolved, fun hclean => ?_⟩
    rw [runFrom_bind_error (hsame hclean)]
  · rw [hrun] at hevents hevolved hsame hvalue
    obtain ⟨second, hevents', hevolved', hsame'⟩ := hk x (hvalue x rfl) σ' hevolved
    rw [runFrom_bind_ok hrun]
    refine ⟨first ++ second, by rw [hevents', hevents, List.append_assoc], hevolved', fun hclean => ?_⟩
    rw [runFrom_bind_ok (hsame fun e he => hclean e (List.mem_append_left _ he))]
    exact hsame' fun e he => hclean e (List.mem_append_right _ he)

theorem Repeats.bind {r r' : Run α} {k k' : α → Run β} (hr : Repeats g m spoils r r')
    (hk : ∀ x, Repeats g m spoils (k x) (k' x)) : Repeats g m spoils (r >>= k) (r' >>= k') := by
  refine hr.bind_of_ensures (P := fun _ => True) (fun σ hσ => ?_) fun x _ => hk x
  obtain ⟨-, -, hevolved, -⟩ := hr σ hσ
  exact ⟨hevolved, fun _ _ => trivial⟩

theorem Repeats.containOverflow {r r' : Run String} (hr : Repeats g m spoils r r') (name : String) :
    Repeats g m spoils (containOverflow name r) (containOverflow name r') := by
  intro σ hσ
  obtain ⟨reported, hevents, hevolved, hsame⟩ := hr σ hσ
  rw [runFrom_containOverflow, runFrom_containOverflow]
  rcases hrun : r.runFrom σ with ⟨f | x, σ'⟩
  · rw [hrun] at hevents hevolved hsame
    by_cases hf : f.kind = .recursion
    · -- The first run reports one event more than the run in it.
      simp only [hf, if_true]
      refine ⟨reported ++ [.stackExceeded name], ?_, hevolved, fun hclean => ?_⟩
      · rw [Array.toList_push, hevents, List.append_assoc]
      · rw [hsame fun e he => hclean e (List.mem_append_left _ he)]
        simp only [hf, if_true]
    · simp only [hf, if_false]
      refine ⟨reported, hevents, hevolved, fun hclean => ?_⟩
      rw [hsame hclean]
      simp only [hf, if_false]
  · rw [hrun] at hevents hevolved hsame
    exact ⟨reported, hevents, hevolved, fun hclean => by rw [hsame hclean]⟩

theorem Repeats.insideIteration {r r' : Run α} (hr : Repeats g m spoils r r') :
    Repeats g m spoils (insideIteration r) (insideIteration r') := by
  intro σ hσ
  obtain ⟨reported, hevents, hevolved, hsame⟩ := hr σ hσ
  rw [runFrom_insideIteration, runFrom_insideIteration]
  exact ⟨reported, hevents, hevolved, fun hclean => by rw [hsame hclean]⟩

/-- Where nothing spoils, runs do the same. -/
theorem Repeats.runFrom_eq {r r' : Run α} (h : Repeats g m (fun _ => False) r r') {σ : RunState}
    (hσ : g.Evolves m σ.memory) : r'.runFrom σ = r.runFrom σ := by
  obtain ⟨reported, -, -, hsame⟩ := h σ hσ
  exact hsame fun _ _ => id

/-! ### Rendering the parts of a template -/

theorem repeats_append {r r' u u' : Run String} (hr : Repeats g m spoils r r') (hu : Repeats g m spoils u u') :
    Repeats g m spoils (do let s ← r; let rest ← u; return s ++ rest)
      (do let s ← r'; let rest ← u'; return s ++ rest) :=
  hr.bind fun s => hu.bind fun rest => (isQuiet_pure (s ++ rest)).repeats

/-- The same stack on both sides. -/
theorem isCongruence_repeats_eq : IsCongruence g (fun _ stack stack' => stack = stack') (Repeats g m spoils) where
  text s := (isQuiet_pure s).repeats
  append := repeats_append
  ask hquestion hk := hquestion.isQuiet.repeats.bind hk
  iterate := Repeats.insideIteration
  less _ hstacks := hstacks
  enter := by
    rintro frames n stack _ k k' rfl hk
    exact (g.isQuiet_enter stack frames).repeats.bind fun inner => hk inner inner rfl

/-- A stack with room on one side, and a stack without end on the other. -/
theorem isCongruence_repeats_unlimited :
    IsCongruence g (fun n stack stack' => ¬stack.Short n ∧ stack' = none) (Repeats g m spoils) where
  text s := (isQuiet_pure s).repeats
  append := repeats_append
  ask hquestion hk := hquestion.isQuiet.repeats.bind hk
  iterate := Repeats.insideIteration
  less := by
    rintro n n' stack stack' hle ⟨hroom, hnone⟩
    rw [Stack.not_short_iff] at hroom ⊢
    exact ⟨fun left hleft => Nat.le_trans hle (hroom left hleft), hnone⟩
  enter := by
    rintro frames n stack stack' k k' ⟨hroom, rfl⟩ hk
    rw [Stack.not_short_iff] at hroom
    cases stack with
    | none => exact hk none none ⟨Stack.not_short_iff.mpr nofun, rfl⟩
    | some left =>
      have hle : frames + n ≤ left := hroom left rfl
      have henter : Stack.enter (some left) frames = pure (some (left - frames)) := if_pos (by omega)
      rw [henter, pure_bind]
      refine hk (some (left - frames)) none ⟨Stack.not_short_iff.mpr ?_, rfl⟩
      rintro _ ⟨⟩
      omega

end Run

/-! ### Partials -/

namespace Setting

open Run

variable {s s' : Setting} {m : Memory} {spoils : Event → Prop}

theorem repeats_debug (hdebug : s'.settings.debug = s.settings.debug) (e : Event) :
    Repeats s.graph m spoils (s.debug e) (s'.debug e) := by
  rw [debug, debug, hdebug]
  split
  · exact repeats_report e
  · exact (isQuiet_pure ()).repeats

/-- The source of a partial is read in the same way, whatever is done with its template. -/
theorem repeats_expand (hdebug : s'.settings.debug = s.settings.debug) {source : String}
    {body body' : Template → Run String}
    (hbody : ∀ t, Template.parse source = .ok t → Repeats s.graph m spoils (body t) (body' t)) (name : String)
    (depth : Nat) : Repeats s.graph m spoils (s.expand name source depth body) (s'.expand name source depth body') := by
  rw [expand, expand]
  split
  · exact (repeats_report _).bind fun _ => (isQuiet_pure "").repeats
  · next t hparse =>
    exact (repeats_debug hdebug _).bind fun _ => (repeats_debug hdebug _).bind fun _ => hbody t hparse

variable (s') in
/-- **A partial does what another one does** if both are found in the same way, and what is done with the template is
the same. Of the source `P` may be known. -/
theorem repeats_inclusion {name : String} {P : Option String → Prop} (hdebug : s'.settings.debug = s.settings.debug)
    (hsource : Repeats s.graph m spoils (s.source? name) (s'.source? name))
    (hP : Ensures s.graph m P (s.source? name)) {depth depth' : Nat} (hdepth : depth' = depth)
    {body body' : Template → Run String}
    (hbody : ∀ source t, P (some source) → Template.parse source = .ok t →
      Repeats s.graph m spoils (body t) (body' t)) :
    Repeats s.graph m spoils
      (do
        match ← s.source? name with
        | none => return ""
        | some source => s.expand name source depth body)
      (do
        match ← s'.source? name with
        | none => return ""
        | some source => s'.expand name source depth' body') := by
  subst hdepth
  refine hsource.bind_of_ensures hP fun source? hP => ?_
  cases source? with
  | none => exact (isQuiet_pure "").repeats
  | some source => exact repeats_expand hdebug (fun t hparse => hbody source t hP hparse) name depth'

end Setting

end Stencil
