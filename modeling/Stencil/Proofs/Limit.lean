import Stencil.Proofs.Nesting

/-!
# The limit of nesting shows only where it refuses a partial

How many partials may be inside each other is a number that rendering counts down, and the depths in the log are
differences to it. With a greater limit both numbers are greater, by as much all the way down, and so the same is
rendered at each depth and the same is reported (`Stencil.Setting.repeats_renderWithin_of_le`). It is only where the
smaller of the two has been counted down to zero that the two renderings can do different things. There the one with
the smaller limit asks for the partial all the same, and refuses it with an event if there is one.
-/

namespace Stencil

open Run

/-- Whether an event is that a partial was refused for being inside too many others. -/
def Event.IsRefusal (e : Event) : Prop := ∃ name depth, e = .limitReached name depth

namespace Setting

section

variable {s : Setting} {m : Memory} {settings : Settings} (hdebug : settings.debug = s.settings.debug)
  (hle : s.settings.limit ≤ settings.limit)

include hdebug hle

/-- **With a greater limit the same is rendered inside partials**, as long as none is refused. Further partials may then
be inside each other, as many as the one limit is greater than the other. -/
theorem repeats_renderWithin_of_le (left : Nat) (hleft : left ≤ s.settings.limit) (t : Template) (scope : Scope)
    (stack : Stack) :
    Repeats s.graph m Event.IsRefusal (s.renderWithin left t scope stack)
      ({ s with settings }.renderWithin (left + (settings.limit - s.settings.limit)) t scope stack) := by
  induction left generalizing t scope stack with
  | zero =>
    rw [renderWithin_eq, renderWithin_eq]
    refine isCongruence_repeats_eq.renderParts (n := 0) ?_ rfl
    rintro name - scope stack _ rfl
    -- Whatever the other rendering does with a source, the partial is refused in this one.
    have hsource {k : Option String → Run String} (hnone : k none = pure "") :
        Repeats s.graph m Event.IsRefusal (s.inclusionWithin 0 name scope stack) (s.source? name >>= k) := by
      refine (s.isQuiet_source? name).repeats.bind fun source? => ?_
      cases source? with
      | none =>
        rw [hnone]
        exact (isQuiet_pure "").repeats
      | some source => exact repeats_of_spoils ⟨_, _, rfl⟩ "" _
    cases 0 + (settings.limit - s.settings.limit) with
    | zero => exact hsource rfl
    | succ more => exact hsource rfl
  | succ left ih =>
    have hmore : left + 1 + (settings.limit - s.settings.limit) = left + (settings.limit - s.settings.limit) + 1 := by
      omega
    rw [hmore, renderWithin_eq, renderWithin_eq]
    refine isCongruence_repeats_eq.renderParts (n := 0) ?_ rfl
    rintro name - scope stack _ rfl
    have hsource : IsQuiet s.graph (s.source? name) := s.isQuiet_source? name
    refine repeats_inclusion { s with settings } hdebug hsource.repeats hsource.ensures ?_ fun source body _ _ => ?_
    · dsimp only
      omega
    · exact (s.graph.isQuiet_enter stack _).repeats.bind fun inner => ih (by omega) body scope inner

end

/-- **The limit of nesting shows only where it refuses a partial.** If a rendering refuses none, then with a greater
limit it ends in the same result and the same state: what is shown is the same, and so are the calls and the events. -/
theorem render_eq_of_limit_le (s : Setting) (settings : Settings) (t : Template) (scope : Scope) (stack : Stack)
    (σ : RunState) (hdebug : settings.debug = s.settings.debug) (hle : s.settings.limit ≤ settings.limit)
    (hkept : ∀ name depth, .limitReached name depth ∉ σ.reportedSince ((s.render t scope stack).runFrom σ).2) :
    ({ s with settings }.render t scope stack).runFrom σ = (s.render t scope stack).runFrom σ := by
  have hlimit : 1 ≤ s.settings.limit := s.settings.one_le_limit
  have hmore : settings.limit - 1 = s.settings.limit - 1 + (settings.limit - s.settings.limit) := by omega
  have hrender : Repeats s.graph σ.memory Event.IsRefusal (s.render t scope stack)
      ({ s with settings }.render t scope stack) := by
    rw [render_eq, render_eq]
    refine isCongruence_repeats_eq.renderParts (n := 0) ?_ rfl
    rintro name - scope stack _ rfl
    have hsource : IsQuiet s.graph (s.source? name) := s.isQuiet_source? name
    refine repeats_inclusion { s with settings } hdebug hsource.repeats hsource.ensures rfl fun source body _ _ => ?_
    refine Repeats.containOverflow ?_ name
    refine (s.graph.isQuiet_enter stack _).repeats.bind fun inner => ?_
    rw [hmore]
    exact repeats_renderWithin_of_le hdebug hle _ (Nat.sub_le _ _) body scope inner
  obtain ⟨reported, hevents, -, hsame⟩ := hrender σ .refl
  rw [RunState.reportedSince, hevents, List.drop_left] at hkept
  refine hsame ?_
  rintro _ hrefusal ⟨name, depth, rfl⟩
  exact hkept name depth hrefusal

/-- In the family four partials are inside each other, as many as allowed, so that five may be allowed as well. -/
theorem render_eq_of_limit_le_family :
    let rendered := (family.render familyTemplate (.value (.ref 0)) Stack.ordinary).runFrom ⟨.fresh, #[]⟩
    family.settings.limit = 4 ∧ rendered.1.toOption = some "a(b(d(e()))c())" ∧
      (∀ name depth, .limitReached name depth ∉ RunState.reportedSince ⟨.fresh, #[]⟩ rendered.2) ∧
      ({ family with settings := ⟨true, 5, by decide⟩ }.render familyTemplate (.value (.ref 0))
        Stack.ordinary).runFrom ⟨.fresh, #[]⟩ = rendered := by
  have hreported : (RunState.reportedSince ⟨.fresh, #[]⟩ ((family.render familyTemplate (.value (.ref 0))
      Stack.ordinary).runFrom ⟨.fresh, #[]⟩).2).filter Event.isNesting =
        [.expanding "person" 1, .expanding "person" 2, .expanding "person" 3, .expanding "person" 4,
          .expanding "person" 2] := by
    decide +kernel
  have hkept : ∀ name depth, .limitReached name depth ∉ RunState.reportedSince ⟨.fresh, #[]⟩
      ((family.render familyTemplate (.value (.ref 0)) Stack.ordinary).runFrom ⟨.fresh, #[]⟩).2 := by
    intro name depth hmem
    have hnesting := List.mem_filter.mpr ⟨hmem, show Event.isNesting (.limitReached name depth) = true from rfl⟩
    rw [hreported] at hnesting
    simp at hnesting
  refine ⟨rfl, by decide +kernel, hkept, ?_⟩
  exact render_eq_of_limit_le family ⟨true, 5, by decide⟩ familyTemplate (.value (.ref 0)) Stack.ordinary
    ⟨.fresh, #[]⟩ rfl (by decide) hkept

/-- Where only one partial may be rendered, the children are refused. -/
example :
    let rendered := ({ family with settings := ⟨true, 1, by decide⟩ }.render familyTemplate (.value (.ref 0))
      Stack.ordinary).runFrom ⟨.fresh, #[]⟩
    rendered.1.toOption = some "a()" ∧
      (RunState.reportedSince ⟨.fresh, #[]⟩ rendered.2).filter Event.isNesting =
        [.expanding "person" 1, .limitReached "person" 1, .limitReached "person" 1] := by
  decide +kernel

end Setting

end Stencil
