import Stencil.Proofs.Runs
import Stencil.Log.Layout

/-!
# What a line is made of

The two layouts read a record in the same order: the time, the scope, what the record says, and then what is left. Only
the record itself has effects when it is asked what it says, so all the rest is read from the memory before or after
that. The equations in this file say when a line comes about, and of what.
-/

namespace Stencil

open Run

variable {g : Graph} {r : Record} {σ τ : RunState}

/-! ### Lines for programs -/

namespace JsonLayout

variable {version : String}

theorem runFrom_document_eq_ok_iff {doc : JsonTree} :
    (document g version r).runFrom σ = (.ok doc, τ) ↔
      ∃ time, Clock.dateTime r.created = .ok time ∧ ∃ scope, r.scope g σ.memory = .ok scope ∧
        ∃ said, (r.said g).runFrom σ = (.ok said, τ) ∧ ∃ body, g.json τ.memory said = .ok body ∧
          ∃ fields, (attributes r scope).mapM (fun a => do return (a.1, ← g.json τ.memory a.2)) = .ok fields ∧
            doc = .object
              [("timestamp", .string (Clock.timestamp time)), ("severityText", .string (severity r.level)),
                ("body", body), ("attributes", .object fields),
                ("resource",
                  .object [("service.name", .string serviceName), ("service.version", .string version)])] := by
  unfold document
  simp only [runFrom_bind_eq_ok_iff, runFrom_ofExcept, runFrom_memory, runFrom_pure, Prod.mk.injEq, Except.ok.injEq,
    exists_and_left, exists_eq_left', and_assoc]
  constructor
  · rintro ⟨time, htime, scope, hscope, said, ρ, hsaid, body, hbody, fields, hfields, rfl, rfl⟩
    exact ⟨time, htime, scope, hscope, said, hsaid, body, hbody, fields, hfields, rfl⟩
  · rintro ⟨time, htime, scope, hscope, said, hsaid, body, hbody, fields, hfields, rfl⟩
    exact ⟨time, htime, scope, hscope, said, τ, hsaid, body, hbody, fields, hfields, rfl, rfl⟩

/-- The line is the text of the document. -/
theorem runFrom_line_eq_ok_iff {text : String} :
    (line g version r).runFrom σ = (.ok text, τ) ↔
      ∃ doc, (document g version r).runFrom σ = (.ok doc, τ) ∧ text = doc.text := by
  unfold line
  simp only [runFrom_bind_eq_ok_iff, runFrom_pure, Prod.mk.injEq, Except.ok.injEq]
  constructor
  · rintro ⟨doc, ρ, hdoc, rfl, rfl⟩
    exact ⟨doc, hdoc, rfl⟩
  · rintro ⟨doc, hdoc, rfl⟩
    exact ⟨doc, τ, hdoc, rfl, rfl⟩

end JsonLayout

/-! ### Lines for people -/

namespace HumanLayout

theorem runFrom_pieces_eq_ok_iff {ps : List LinePiece} :
    (pieces g r).runFrom σ = (.ok ps, τ) ↔
      ∃ time, Clock.dateTime r.created = .ok time ∧ ∃ scope, r.scope g σ.memory = .ok scope ∧
        ∃ scopeText, g.display σ.memory scope = .ok scopeText ∧ ∃ said, (r.said g).runFrom σ = (.ok said, τ) ∧
          ∃ about, partialPieces g τ.memory r = .ok about ∧ ∃ place, placePieces g τ.memory r = .ok place ∧
            ps = [.ofText none (Clock.timeText time), .ofText none " ",
              .ofText (levelStyle r.level) (severityColumn r.level), .ofText (some .cyan) ("[" ++ scopeText ++ "] "),
              ⟨none, said⟩] ++ about ++ place := by
  unfold pieces
  simp only [runFrom_bind_eq_ok_iff, runFrom_ofExcept, runFrom_memory, runFrom_pure, Prod.mk.injEq, Except.ok.injEq,
    exists_and_left, exists_eq_left', and_assoc]
  constructor
  · rintro ⟨time, htime, scope, hscope, scopeText, hdisplay, said, ρ, hsaid, about, habout, place, hplace, rfl, rfl⟩
    exact ⟨time, htime, scope, hscope, scopeText, hdisplay, said, hsaid, about, habout, place, hplace, rfl⟩
  · rintro ⟨time, htime, scope, hscope, scopeText, hdisplay, said, hsaid, about, habout, place, hplace, rfl⟩
    exact ⟨time, htime, scope, hscope, scopeText, hdisplay, said, τ, hsaid, about, habout, place, hplace, rfl, rfl⟩

/-- The line is put together from the pieces, which are the same with and without colours. -/
theorem runFrom_line (colours : Bool) :
    (line g colours r).runFrom σ =
      match (pieces g r).runFrom σ with
      | (.ok ps, τ) => (LinePiece.join g colours ps, τ)
      | (.error f, τ) => (.error f, τ) := by
  rw [line]
  rcases hpieces : (pieces g r).runFrom σ with ⟨f | ps, τ⟩
  · rw [runFrom_bind_error hpieces]
  · rw [runFrom_bind_ok hpieces, runFrom_ofExcept]

end HumanLayout

end Stencil
