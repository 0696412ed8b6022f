import Mathlib.Algebra.Group.Int.Defs
import Mathlib.Algebra.Group.Nat.Defs
import Stencil.Assignment
import Stencil.Report
import Stencil.Proofs.Numerals

/-!
# Settings stay valid under assignments

Settings are valid by construction, and so they are at any time: one is a truth value, the other a number of at least
one. This file says which truth value and which number. Each assignment that is taken changes its own setting to the
value that is assigned, and all others change nothing (`Stencil.Settings.revise_cases`). So a setting is what the last
assignment says that could be taken for it (`Stencil.Workspace.settings_after_session`).

An assignment that is not taken is reported as an invalid argument. But the report of a limit below one mentions the
integer, and where that has too many digits to be written, making the report ends in a fault and there is none
(`Stencil.Workspace.exists_limit_not_reported`). This is the only exception.
-/

namespace Stencil

section

variable {s s' : Settings} {a : Assignment}

theorem Settings.Takes.debug_eq (h : s.Takes a s') : s'.debug = a.debug?.getD s.debug := by cases h <;> rfl

theorem Settings.Takes.limit_eq (h : s.Takes a s') : (s'.limit : Int) = a.limit?.getD s.limit := by
  cases h with
  | debug b => rfl
  | limit n h =>
    have hn : (1 : Int) ≤ n := Int.ofNat_le.mpr h
    rw [Assignment.limit?, if_pos hn, Option.getD_some]
  | reset => rfl

theorem Settings.Takes.not_isRejected (h : s.Takes a s') : ¬a.IsRejected := by
  cases h with
  | debug b => exact fun h => h b rfl
  | limit n hn => exact fun h => absurd (h n rfl) (Int.not_lt.mpr (Int.ofNat_le.mpr hn))
  | reset => exact id

theorem Assignment.IsRejected.debug?_eq_none (h : a.IsRejected) : a.debug? = none := by
  rcases a with v | v | _
  · cases v with
    | bool b => exact absurd rfl (h b)
    | _ => rfl
  · rfl
  · exact h.elim

theorem Assignment.IsRejected.limit?_eq_none (h : a.IsRejected) : a.limit? = none := by
  rcases a with v | v | _
  · rfl
  · cases v with
    | int n => exact if_neg (Int.not_le.mpr (h n rfl))
    | _ => rfl
  · exact h.elim

theorem Assignment.IsTooLong.isRejected (h : a.IsTooLong) : a.IsRejected := by
  obtain ⟨n, rfl, hn, -⟩ := h
  rintro _ ⟨⟩
  exact hn

end

/-! ### Single assignments -/

namespace Settings

variable (s : Settings) (g : Graph)

theorem setLimit_of_lt {n : Int} (hn : n < 1) : s.setLimit g (.int n) =
    match Number.integerText? n with
    | some text => .error (.argument (.limitTooSmall n text))
    | none => .error (.fault .tooManyDigits) := by
  rw [setLimit, dif_neg (Int.not_le.mpr hn), Graph.integerText]
  cases Number.integerText? n <;> rfl

/-- **An assignment is taken or rejected**, and a rejected one is an invalid argument unless the integer has too many
digits. -/
theorem revise_cases (a : Assignment) :
    (∃ s', s.Takes a s' ∧ s.revise g a = .ok s') ∨
      (a.IsRejected ∧ ¬a.IsTooLong ∧ ∃ e, s.revise g a = .error (.argument e)) ∨
      (a.IsTooLong ∧ s.revise g a = .error (.fault .tooManyDigits)) := by
  rcases a with v | v | _
  · by_cases hv : ∃ b, v = .bool b
    · obtain ⟨b, rfl⟩ := hv
      exact .inl ⟨_, .debug b, rfl⟩
    · have hv' (b : Bool) : v ≠ .bool b := fun h => hv ⟨b, h⟩
      refine .inr (.inl ⟨hv', nofun, .debugNotBool (g.typeName v), ?_⟩)
      cases v with
      | bool b => exact absurd rfl (hv' b)
      | _ => rfl
  · by_cases hv : ∃ n, v = .int n
    · obtain ⟨n, rfl⟩ := hv
      by_cases hn : 1 ≤ n
      · obtain ⟨k, rfl⟩ := Int.eq_ofNat_of_zero_le (Int.le_trans (by decide) hn)
        exact .inl ⟨_, .limit k (Int.ofNat_le.mp hn), dif_pos hn⟩
      · have hlt : n < 1 := Int.not_le.mp hn
        have hrejected : (Assignment.limit (.int n)).IsRejected := by
          rintro _ ⟨⟩
          exact hlt
        rw [revise, setLimit_of_lt s g hlt]
        cases htext : Number.integerText? n with
        | some text =>
          refine .inr (.inl ⟨hrejected, ?_, _, rfl⟩)
          rintro ⟨_, ⟨⟩, -, hlong⟩
          rw [Number.integerText?_eq_none_iff.mpr hlong] at htext
          exact nomatch htext
        | none => exact .inr (.inr ⟨⟨n, rfl, hlt, Number.integerText?_eq_none_iff.mp htext⟩, rfl⟩)
    · have hv' (n : Int) : v ≠ .int n := fun h => hv ⟨n, h⟩
      refine .inr (.inl ⟨fun n h => absurd h (hv' n), ?_, .limitNotInteger (g.typeName v), ?_⟩)
      · rintro ⟨n, ⟨⟩, -⟩
        exact hv' n rfl
      · cases v with
        | int n => exact absurd rfl (hv' n)
        | _ => rfl
  · exact .inl ⟨_, .reset, rfl⟩

theorem revise_of_isTooLong {a : Assignment} (h : a.IsTooLong) :
    s.revise g a = .error (.fault .tooManyDigits) := by
  obtain ⟨n, rfl, hn, hlong⟩ := h
  rw [revise, setLimit_of_lt s g hn, Number.integerText?_eq_none_iff.mpr hlong]

end Settings

namespace Workspace

theorem perform_assignment (w : Workspace) (g : Graph) (a : Assignment) : w.perform g a.step =
    match w.settings.revise g a with
    | .ok s => (⟨.ok (.settings s), #[]⟩, { w with settings := s })
    | .error f => (⟨.error f, #[]⟩, w) := by
  rcases a with v | v | _
  · simp only [Assignment.step, perform, Settings.assign, Settings.assignIfGiven, Settings.revise]
    cases w.settings.setDebug g v <;> rfl
  · simp only [Assignment.step, perform, Settings.assign, Settings.assignIfGiven, Settings.revise]
    cases w.settings.setLimit g v <;> rfl
  · rfl

/-- What an assignment changes. -/
theorem settings_perform_assignment (w : Workspace) (g : Graph) (a : Assignment) :
    let next := (w.perform g a.step).2
    next.settings.debug = a.debug?.getD w.settings.debug ∧
      (next.settings.limit : Int) = a.limit?.getD (w.settings.limit : Int) := by
  have hrejected (h : a.IsRejected) : w.settings.debug = a.debug?.getD w.settings.debug ∧
      (w.settings.limit : Int) = a.limit?.getD (w.settings.limit : Int) := by
    rw [h.debug?_eq_none, h.limit?_eq_none]
    exact ⟨rfl, rfl⟩
  rw [perform_assignment]
  rcases w.settings.revise_cases g a with ⟨s', htakes, hrevise⟩ | ⟨h, -, e, hrevise⟩ | ⟨h, hrevise⟩ <;> rw [hrevise]
  · exact ⟨htakes.debug_eq, htakes.limit_eq⟩
  · exact hrejected h
  · exact hrejected h.isRejected

/-- **A setting is what the last assignment says that could be taken for it.** -/
theorem settings_after_session (w : Workspace) (changes : List (Graph × Assignment)) :
    let reached := w.after (Assignment.session changes)
    reached.settings.debug = (changes.reverse.findSome? fun c => c.2.debug?).getD w.settings.debug ∧
      (reached.settings.limit : Int) = (changes.reverse.findSome? fun c => c.2.limit?).getD (w.settings.limit : Int) := by
  induction changes generalizing w with
  | nil => exact ⟨rfl, rfl⟩
  | cons c changes ih =>
    obtain ⟨hdebug, hlimit⟩ := w.settings_perform_assignment c.1 c.2
    obtain ⟨hdebug', hlimit'⟩ := ih (w.perform c.1 c.2.step).2
    have hlast {α : Type} (f : Graph × Assignment → Option α) (x : α) :
        ((c :: changes).reverse.findSome? f).getD x = (changes.reverse.findSome? f).getD ((f c).getD x) := by
      rw [List.reverse_cons, List.findSome?_append, List.findSome?_singleton, Option.getD_or]
    refine ⟨?_, ?_⟩
    · rw [hlast, ← hdebug]
      exact hdebug'
    · rw [hlast, ← hlimit]
      exact hlimit'

/-- **Settings stay valid, and an assignment that is not taken changes nothing.** After any assignments to the settings
each setting is what the last one says that could be taken for it. The next one is taken, and then it changes its own
setting to the value and nothing else, or rejected, and then nothing changes and it is reported as an invalid argument.
Values are rejected for being of the wrong type and, as limits, for being integers below one. Only where such an integer
has too many digits to be mentioned there is no report, but a fault. -/
theorem assignment_taken_or_reported (w : Workspace) (changes : List (Graph × Assignment)) :
    let reached := w.after (Assignment.session changes)
    reached.settings.debug = (changes.reverse.findSome? fun c => c.2.debug?).getD w.settings.debug ∧
      (reached.settings.limit : Int) = (changes.reverse.findSome? fun c => c.2.limit?).getD (w.settings.limit : Int) ∧
      1 ≤ reached.settings.limit ∧
      ∀ (g : Graph) (a : Assignment),
        let (outcome, next) := reached.perform g a.step
        (¬a.IsRejected ∧ ∃ s, reached.settings.Takes a s ∧ outcome.result = .ok (.settings s) ∧
          next = { reached with settings := s }) ∨
        (a.IsRejected ∧ next = reached ∧
          ((¬a.IsTooLong ∧ ∃ f r, outcome.result = .error f ∧ f.report? = some r ∧ r.kind = .argument ∧
            r.code = .text "INVALID_ARGUMENT") ∨
          (a.IsTooLong ∧ outcome.result = .error (.fault .tooManyDigits)))) := by
  intro reached
  obtain ⟨hdebug, hlimit⟩ := w.settings_after_session changes
  refine ⟨hdebug, hlimit, reached.settings.one_le_limit, fun g a => ?_⟩
  rw [perform_assignment]
  rcases reached.settings.revise_cases g a with ⟨s, htakes, hrevise⟩ | ⟨h, hshort, e, hrevise⟩ | ⟨h, hrevise⟩ <;>
    rw [hrevise]
  · exact .inl ⟨htakes.not_isRejected, s, htakes, rfl, rfl⟩
  · exact .inr ⟨h, rfl, .inl ⟨hshort, _, .ofArgument e, rfl, rfl, rfl, rfl⟩⟩
  · exact .inr ⟨h.isRejected, rfl, .inr ⟨h, rfl⟩⟩

/-- **Not every limit below one is reported**: the negative of a power of ten that has one digit more than there may be
ends in a fault. -/
theorem exists_limit_not_reported :
    let a := Assignment.limit (.int (-(10 ^ Number.digitLimit)))
    a.IsRejected ∧ (initial.perform .empty a.step).1.result = .error (.fault .tooManyDigits) ∧
      (Failure.fault .tooManyDigits).report? = none := by
  intro a
  have hsize (k : Nat) : 10 ^ k ≤ (-(10 ^ k : Int)).natAbs := by
    rw [Int.natAbs_neg, Int.natAbs_pow]
    exact Nat.le_refl _
  have hnegative (k : Nat) : -(10 ^ k : Int) < 1 := by
    have hpositive : (0 : Int) < 10 ^ k := Int.pow_pos (by decide)
    omega
  have hlong : a.IsTooLong := ⟨_, rfl, hnegative _, hsize _⟩
  refine ⟨hlong.isRejected, ?_, rfl⟩
  rw [perform_assignment, Settings.revise_of_isTooLong _ _ hlong]

end Workspace

end Stencil
