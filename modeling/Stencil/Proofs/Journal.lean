import Stencil.Journal
import Stencil.Proofs.Overflow

/-!
# The log is the journal of the partials

What a rendering reports is what its journal says, event by event (`Stencil.Setting.reports_journal`). A partial reports
its record when it is met, and then what the template behind it reports, which is what the partials in it report. The
only event beside these is that the stack ran out, and it is the last one of a partial that stands in no other.

For events of some kind only, it is enough to look at the events of this kind in each record. So it is shown for any
choice of events at once.
-/

namespace Stencil

open Run

namespace Setting

variable {s : Setting} {picked : Event → Bool}

/-! ### What is reported when a partial is met -/

theorem after_debug {β : Type} (e : Event) (σ : RunState) (next : Unit → RunState → List β) :
    (s.debug e).after σ next =
      next () (if s.settings.debug then { σ with events := σ.events.push e } else σ) :=
  after_ok (s.runFrom_debug e σ) next

theorem reports_debug (picked : Event → Bool) (e : Event) :
    Reports picked (s.debug e) fun _ => if s.settings.debug then [e].filter picked else [] := by
  rw [debug]
  split
  · exact reports_report e
  · exact reports_pure ()

/-- A template behind a partial is announced, if debug events are asked for and it can be read, and then reports what
its body does. -/
theorem reports_expand {body : Template → Run String} {l : Template → RunState → List Event}
    (hbody : ∀ t, Reports picked (body t) (l t)) (name source : String) (depth : Nat) :
    Reports picked (s.expand name source depth body) fun σ =>
      match Template.parse source with
      | .error cause => [.malformed name cause].filter picked
      | .ok t =>
        (if s.settings.debug then [.parsed source.length t.length, .expanding name depth] else []).filter picked ++
          (s.debug (.parsed source.length t.length)).after σ fun _ σ =>
            (s.debug (.expanding name depth)).after σ fun _ σ => l t σ := by
  rw [expand]
  cases Template.parse source with
  | error cause => exact (reports_report _).bind_pure fun _ => ""
  | ok t =>
    refine ((reports_debug _ _).bind fun _ => (reports_debug _ _).bind fun _ => hbody t).congr fun σ => ?_
    simp only [after_debug]
    cases s.settings.debug with
    | false => rfl
    | true =>
      simp only [if_true, ← List.append_assoc, ← List.filter_append]
      rfl

/-- **A partial with fewer others around it than allowed reports its record, and then what is inside it.** -/
theorem reports_inclusion (around : List String) (hroom : around.length < s.settings.limit)
    {body : Template → Run String} {next : Template → Stack → RunState → List Event} (name : String) (scope : Scope)
    (stack : Stack)
    (hbody : ∀ t, Reports picked (body t) fun σ =>
      (stack.enter Stack.partialFrames).after σ fun inner τ => next t inner τ) :
    Reports picked
      (do
        match ← s.source? name with
        | none => return ""
        | some source => s.expand name source (around.length + 1) body)
      fun σ => (s.record ⟨around, ⟨name, scope, stack, σ⟩⟩).filter picked ++
        s.inside (around.length + 1) ⟨name, scope, stack, σ⟩ next := by
  have hsource (source? : Option String) : Reports picked
      (match source? with
        | none => pure ""
        | some source => s.expand name source (around.length + 1) body)
      fun σ =>
        match source? with
        | none => []
        | some source =>
          match Template.parse source with
          | .error cause => [.malformed name cause].filter picked
          | .ok t =>
            (if s.settings.debug then [.parsed source.length t.length, .expanding name (around.length + 1)]
              else []).filter picked ++
              (s.debug (.parsed source.length t.length)).after σ fun _ σ =>
                (s.debug (.expanding name (around.length + 1))).after σ fun _ σ =>
                  (stack.enter Stack.partialFrames).after σ fun inner τ => next t inner τ := by
    cases source? with
    | none => exact reports_pure ""
    | some source => exact reports_expand hbody name source _
  refine ((s.isQuiet_source? name).reports_bind hsource).congr fun σ => ?_
  rw [record, inside]
  rcases hrun : (s.source? name).runFrom σ with ⟨f | _ | source, τ⟩
  · rw [after_error hrun, after_error hrun]
    rfl
  · rw [after_ok hrun, after_ok hrun]
    rfl
  · rw [after_ok hrun, after_ok hrun]
    dsimp only
    rw [if_pos hroom]
    cases Template.parse source with
    | error cause => exact (List.append_nil _).symm
    | ok t => rfl

/-- A partial with as many others around it as allowed reports its record. -/
theorem reports_refused (around : List String) (hfull : ¬around.length < s.settings.limit) (name : String)
    (scope : Scope) (stack : Stack) :
    Reports picked (s.inclusionWithin 0 name scope stack) fun σ =>
      (s.record ⟨around, ⟨name, scope, stack, σ⟩⟩).filter picked := by
  have hsource (source? : Option String) : Reports picked
      (match source? with
        | none => pure ""
        | some _ => do
          Run.report (.limitReached name s.settings.limit)
          return "")
      fun _ =>
        match source? with
        | none => []
        | some _ => [.limitReached name s.settings.limit].filter picked := by
    cases source? with
    | none => exact reports_pure ""
    | some source => exact (reports_report _).bind_pure fun _ => ""
  refine ((s.isQuiet_source? name).reports_bind hsource).congr fun σ => ?_
  rw [record]
  rcases hrun : (s.source? name).runFrom σ with ⟨f | _ | source, τ⟩
  · rw [after_error hrun]
    rfl
  · rw [after_ok hrun]
    rfl
  · rw [after_ok hrun]
    dsimp only
    rw [if_neg hfull]

theorem flatMap_inside {β γ : Type} (depth : Nat) (v : Visit) (next : Template → Stack → RunState → List β)
    (f : β → List γ) :
    (s.inside depth v next).flatMap f = s.inside depth v fun t inner τ => (next t inner τ).flatMap f := by
  rw [inside, inside, flatMap_after]
  congr
  funext source? σ
  cases source? with
  | none => rfl
  | some source =>
    dsimp only
    cases Template.parse source with
    | error cause => rfl
    | ok t => simp only [flatMap_after]

/-! ### What is reported of partials inside partials -/

/-- **A template inside partials reports the records of the partials in it**, with as many partials around it as are
missing to the limit. -/
theorem reports_renderWithin (left : Nat) {around : List String} (haround : around.length + left = s.settings.limit)
    (t : Template) (scope : Scope) (stack : Stack) :
    Reports picked (s.renderWithin left t scope stack) fun σ =>
      (s.encountersWithin left around t scope stack σ).flatMap fun e => (s.record e).filter picked := by
  -- The number of partials around grows as the number of those that are left shrinks.
  induction left generalizing around t scope stack with
  | zero =>
    have hfull : ¬around.length < s.settings.limit := by omega
    rw [renderWithin_eq]
    refine (reports_renderParts (fun v => (s.record ⟨around, v⟩).filter picked) (reports_refused around hfull) t scope
      stack).congr fun σ => ?_
    rw [encountersWithin, List.flatMap_map]
  | succ left ih =>
    have hdepth : s.settings.limit - left = around.length + 1 := by omega
    have hinclusion (name : String) (scope : Scope) (stack : Stack) :
        Reports picked (s.inclusionWithin (left + 1) name scope stack) fun σ =>
          (s.record ⟨around, ⟨name, scope, stack, σ⟩⟩).filter picked ++
            s.inside (around.length + 1) ⟨name, scope, stack, σ⟩ fun body inner τ =>
              (s.encountersWithin left (around ++ [name]) body scope inner τ).flatMap fun e =>
                (s.record e).filter picked := by
      rw [inclusionWithin, hdepth]
      refine reports_inclusion around (by omega) name scope stack fun body => ?_
      refine (s.graph.isQuiet_enter stack _).reports_bind fun inner => ih ?_ body scope inner
      rw [List.length_append, List.length_singleton]
      omega
    rw [renderWithin_eq]
    refine (reports_renderParts (fun v => (s.record ⟨around, v⟩).filter picked ++ s.inside (around.length + 1) v
      fun body inner τ => (s.encountersWithin left (around ++ [v.name]) body v.scope inner τ).flatMap fun e =>
        (s.record e).filter picked) hinclusion t scope stack).congr fun σ => ?_
    rw [encountersWithin, List.flatMap_assoc, hdepth]
    congr
    funext v
    rw [List.flatMap_cons, flatMap_inside]

/-- A partial inside others reports its record and those of the partials inside it. -/
theorem reports_inclusionWithin_limit (s : Setting) (name : String) (scope : Scope) (stack : Stack) :
    Reports picked (s.inclusionWithin s.settings.limit name scope stack) fun σ =>
      (s.encountersAt ⟨name, scope, stack, σ⟩).flatMap fun e => (s.record e).filter picked := by
  have hlimit : 1 ≤ s.settings.limit := s.settings.one_le_limit
  have haround : [name].length + (s.settings.limit - 1) = s.settings.limit := by
    rw [List.length_singleton]
    omega
  rw [inclusionWithin_limit]
  refine (reports_inclusion [] hlimit name scope stack fun body => (s.graph.isQuiet_enter stack _).reports_bind
    fun inner => reports_renderWithin _ haround body scope inner).congr fun σ => ?_
  rw [encountersAt, List.flatMap_cons, flatMap_inside]
  rfl

/-! ### What is reported outside partials -/

/-- A partial that stands in no other reports the records of the partials met in it, and its overflow. -/
theorem reports_outermost_journal (s : Setting) (name : String) (scope : Scope) (stack : Stack) :
    Reports picked (s.outermost name scope stack) fun σ =>
      ((s.encountersAt ⟨name, scope, stack, σ⟩).flatMap fun e => (s.record e).filter picked) ++
        (if s.overflows ⟨name, scope, stack, σ⟩ then [.stackExceeded name] else []).filter picked :=
  reports_outermost_of_within (s.reports_inclusionWithin_limit name scope stack)

/-- **A rendering reports its journal.** -/
theorem reports_journal (t : Template) (scope : Scope) (stack : Stack) :
    Reports picked (s.render t scope stack) fun σ => (s.journal t scope stack σ).filter picked := by
  rw [render_eq]
  refine (reports_renderParts (fun v => ((s.encountersAt v).flatMap fun e => (s.record e).filter picked) ++
    (if s.overflows v then [.stackExceeded v.name] else []).filter picked) s.reports_outermost_journal t scope
    stack).congr fun σ => ?_
  rw [journal, List.filter_flatMap]
  congr
  funext v
  rw [List.filter_append, List.filter_flatMap]

/-- But for overflows, the journal is the records of the partials that are met. -/
theorem filter_journal (hpicked : ∀ name, picked (.stackExceeded name) = false) (t : Template) (scope : Scope)
    (stack : Stack) (σ : RunState) :
    (s.journal t scope stack σ).filter picked =
      (s.encounters t scope stack σ).flatMap fun e => (s.record e).filter picked := by
  have hoverflow (v : Visit) :
      (if s.overflows v then [Event.stackExceeded v.name] else []).filter picked = [] := by
    split
    · rw [List.filter_cons_of_neg (Bool.eq_false_iff.mp (hpicked v.name)), List.filter_nil]
    · rfl
  change _ = ((visits s.graph s.outermost t scope stack σ).flatMap s.encountersAt).flatMap _
  rw [journal, List.filter_flatMap, List.flatMap_assoc]
  congr
  funext v
  rw [List.filter_append, hoverflow, List.append_nil, List.filter_flatMap]

end Setting

/-! ### What is said of source that is read -/

section

variable {rs rs' : List Reading} {es es' : List Event}

theorem Heralded.mono (h : Heralded rs es) (hsubset : rs ⊆ rs') : Heralded rs' es := by
  intro before name depth after heq
  obtain ⟨earlier, source, t, hbefore, hparse, hmem⟩ := h before name depth after heq
  exact ⟨earlier, source, t, hbefore, hparse, hsubset hmem⟩

/-- No partial is said to be expanded. -/
theorem heralded_of_notMem (h : ∀ name depth, .expanding name depth ∉ es) : Heralded rs es := by
  rintro before name depth after rfl
  exact absurd (List.mem_append_right _ List.mem_cons_self) (h name depth)

theorem Heralded.append (h : Heralded rs es) (h' : Heralded rs es') : Heralded rs (es ++ es') := by
  intro before name depth after heq
  rcases List.append_eq_append_iff.mp heq with ⟨middle, rfl, hmiddle⟩ | ⟨middle, rfl, hmiddle⟩
  · obtain ⟨earlier, source, t, rfl, hparse, hmem⟩ := h' middle name depth after hmiddle
    exact ⟨es ++ earlier, source, t, (List.append_assoc _ _ _).symm, hparse, hmem⟩
  · cases middle with
    | nil =>
      -- The second part begins with the event, so that it is not said there what was read.
      obtain ⟨earlier, source, t, hnil, -⟩ := h' [] name depth after hmiddle.symm
      exact absurd hnil.symm (List.append_ne_nil_of_right_ne_nil _ (List.cons_ne_nil _ _))
    | cons e middle =>
      obtain ⟨rfl, -⟩ := List.cons.inj hmiddle
      exact h before name depth middle rfl

theorem heralded_flatMap {α : Type} {f : α → List Event} {xs : List α} (h : ∀ x ∈ xs, Heralded rs (f x)) :
    Heralded rs (xs.flatMap f) := by
  induction xs with
  | nil => exact heralded_of_notMem fun _ _ => List.not_mem_nil
  | cons x xs ih =>
    rw [List.flatMap_cons]
    exact (h x List.mem_cons_self).append (ih fun y hy => h y (List.mem_cons_of_mem _ hy))

end

namespace Setting

variable {s : Setting}

theorem heralded_record {rs : List Reading} (e : Encounter) (h : ∀ r, s.reading? e = some r → r ∈ rs) :
    Heralded rs (s.record e) := by
  rw [record]
  rcases hsource : ((s.source? e.visit.name).runFrom e.visit.state).1 with f | _ | source
  · exact heralded_of_notMem fun _ _ => List.not_mem_nil
  · exact heralded_of_notMem fun _ _ => List.not_mem_nil
  · dsimp only
    by_cases hroom : e.around.length < s.settings.limit
    · have hreading : s.reading? e = some (.inclusion e.visit.name source (e.around.length + 1)) := by
        rw [reading?, hsource]
        exact if_pos hroom
      rw [if_pos hroom]
      cases hparse : Template.parse source with
      | error cause => exact heralded_of_notMem (by simp)
      | ok t =>
        dsimp only
        split
        · rintro before name depth after heq
          rcases before with _ | ⟨first, _ | ⟨second, before⟩⟩
          · cases heq
          · obtain ⟨rfl, htail⟩ := List.cons.inj heq
            obtain ⟨rfl, rfl⟩ := Event.expanding.inj (List.cons.inj htail).1
            exact ⟨[], source, t, rfl, hparse, h _ hreading⟩
          · have hlength := congrArg List.length heq
            simp at hlength
        · exact heralded_of_notMem fun _ _ => List.not_mem_nil
    · rw [if_neg hroom]
      exact heralded_of_notMem (by simp)

theorem filter_isReading_record (hdebug : s.settings.debug = true) (e : Encounter) :
    (s.record e).filter Event.isReading = (s.reading? e).toList.flatMap Reading.events := by
  rw [record, reading?]
  rcases ((s.source? e.visit.name).runFrom e.visit.state).1 with f | _ | source
  · rfl
  · rfl
  · dsimp only
    by_cases hroom : e.around.length < s.settings.limit
    · rw [if_pos hroom, if_pos hroom, Option.toList_some, List.flatMap_singleton, Reading.events]
      cases Template.parse source with
      | error cause => rfl
      | ok t =>
        dsimp only
        rw [if_pos hdebug]
        rfl
    · rw [if_neg hroom, if_neg hroom]
      rfl

variable (t : Template) (scope : Scope) (stack : Stack) (σ : RunState)

/-- **In a journal, what is said to be expanded is said to have been read right before.** -/
theorem heralded_journal : Heralded (s.readings t scope stack σ) (s.journal t scope stack σ) := by
  refine heralded_flatMap fun v hv => (heralded_flatMap fun e he => ?_).append ?_
  · refine heralded_record e fun r hr => List.mem_filterMap.mpr ⟨e, ?_, hr⟩
    exact List.mem_flatMap.mpr ⟨v, hv, he⟩
  · split
    · exact heralded_of_notMem (by simp)
    · exact heralded_of_notMem fun _ _ => List.not_mem_nil

/-- **A journal tells of the source that is read**, if debug events are asked for. -/
theorem filter_isReading_journal (hdebug : s.settings.debug = true) :
    (s.journal t scope stack σ).filter Event.isReading = (s.readings t scope stack σ).flatMap Reading.events := by
  rw [filter_journal fun _ => rfl, readings, List.filterMap_eq_flatMap_toList, List.flatMap_assoc]
  congr
  funext e
  exact filter_isReading_record hdebug e

end Setting

/-! ### Runs that tell of source that is read -/

namespace Run

variable {α β : Type} {g : Graph}

/-- **Whether a run tells of the source that `rs` says is read**, from each state. -/
def Accounts (r : Run α) (rs : RunState → List Reading) : Prop :=
  ∀ σ, ∃ reported, (r.runFrom σ).2.events.toList = σ.events.toList ++ reported ∧
    reported.filter Event.isReading = (rs σ).flatMap Reading.events ∧ Heralded (rs σ) reported

theorem IsQuiet.accounts {r : Run α} (h : IsQuiet g r) : Accounts r fun _ => [] := by
  intro σ
  refine ⟨[], ?_, rfl, heralded_of_notMem fun _ _ => List.not_mem_nil⟩
  rw [h.events, List.append_nil]

theorem accounts_report {e : Event} (he : e.isReading = false) : Accounts (report e) fun _ => [] := by
  intro σ
  refine ⟨[e], Array.toList_push, ?_, heralded_of_notMem fun name depth hmem => ?_⟩
  · rw [List.filter_cons_of_neg (Bool.eq_false_iff.mp he)]
    rfl
  · rw [← List.mem_singleton.mp hmem] at he
    exact nomatch he

theorem Accounts.bind {r : Run α} {k : α → Run β} {rs : RunState → List Reading} {rs' : α → RunState → List Reading}
    (hr : Accounts r rs) (hk : ∀ x, Accounts (k x) (rs' x)) : Accounts (r >>= k) fun σ => rs σ ++ r.after σ rs' := by
  intro σ
  obtain ⟨first, hevents, hfilter, hheralded⟩ := hr σ
  rcases hrun : r.runFrom σ with ⟨f | x, σ'⟩ <;> rw [hrun] at hevents
  · refine ⟨first, ?_, ?_, ?_⟩
    · rw [runFrom_bind_error hrun, hevents]
    · dsimp only
      rw [after_error hrun, List.append_nil, hfilter]
    · dsimp only
      rw [after_error hrun, List.append_nil]
      exact hheralded
  · obtain ⟨second, hevents', hfilter', hheralded'⟩ := hk x σ'
    refine ⟨first ++ second, ?_, ?_, ?_⟩
    · rw [runFrom_bind_ok hrun, hevents', hevents, List.append_assoc]
    · dsimp only
      rw [after_ok hrun, List.filter_append, hfilter, hfilter', List.flatMap_append]
    · dsimp only
      rw [after_ok hrun]
      exact (hheralded.mono (List.subset_append_left _ _)).append
        (hheralded'.mono (List.subset_append_right _ _))

/-- After a run that tells of nothing, what is read is what is read after it. -/
theorem Accounts.bind_after {r : Run α} {k : α → Run β} {rs : α → RunState → List Reading}
    (hr : Accounts r fun _ => []) (hk : ∀ x, Accounts (k x) (rs x)) : Accounts (r >>= k) fun σ => r.after σ rs :=
  hr.bind hk

/-- Nothing is told of source by a run and what comes after it. -/
theorem Accounts.bind_nothing {r : Run α} {k : α → Run β} (hr : Accounts r fun _ => [])
    (hk : ∀ x, Accounts (k x) fun _ => []) : Accounts (r >>= k) fun _ => [] := by
  have hnothing : (fun σ => r.after σ fun _ _ => ([] : List Reading)) = fun _ => [] := funext (after_nil r)
  rw [← hnothing]
  exact hr.bind_after hk

end Run

theorem Setting.accounts_render {s : Setting} (hdebug : s.settings.debug = true) (t : Template) (scope : Scope)
    (stack : Stack) : Accounts (s.render t scope stack) (s.readings t scope stack) := by
  intro σ
  have hreports : Reports (fun _ => true) (s.render t scope stack) _ := reports_journal t scope stack
  obtain ⟨reported, hevents, hreported⟩ := hreports σ
  have hjournal : reported = s.journal t scope stack σ := by simpa only [List.filter_true] using hreported
  refine ⟨reported, hevents, ?_, ?_⟩
  · rw [hjournal, filter_isReading_journal t scope stack σ hdebug]
  · rw [hjournal]
    exact heralded_journal t scope stack σ

/-! ### Environments -/

namespace Graph

variable (g : Graph)

theorem isQuiet_entriesOf {view : MapView} (h : view.Fits g) : IsQuiet g (g.entriesOf view) := by
  cases view with
  | single es => exact isQuiet_pure es
  | layered ls => exact isQuiet_mapM (fun key => (g.isQuiet_get key h).bind fun v => isQuiet_pure _) _

theorem isQuiet_mergeOver (es : Entries) (v : Value) : IsQuiet g (g.mergeOver es v) := by
  refine isQuiet_memory.bind fun m => ?_
  cases hview : g.mapping? m v with
  | some view => exact (g.isQuiet_entriesOf (fits_of_mapping? hview)).bind fun more => isQuiet_pure _
  | none =>
    refine isQuiet_memory.bind fun m => ?_
    split
    · exact isQuiet_fail _
    · exact isQuiet_fail _
    · exact isQuiet_memory.bind fun m => isQuiet_ofExcept _

end Graph

namespace Environment

variable (g : Graph)

theorem isQuiet_mappingEntries (v : Value) : IsQuiet g (mappingEntries g v) := by
  refine isQuiet_memory.bind fun m => ?_
  cases hview : g.mapping? m v with
  | some view => exact g.isQuiet_entriesOf (Graph.fits_of_mapping? hview)
  | none =>
    dsimp only
    split <;> exact isQuiet_fail _

variable (e : Environment)

theorem isQuiet_partialsWith (partials : Value) : IsQuiet g (e.partialsWith g partials) := by
  refine isQuiet_memory.bind fun m => ?_
  cases hview : g.mapping? m partials with
  | some view => exact (g.isQuiet_entriesOf (Graph.fits_of_mapping? hview)).bind fun more => isQuiet_pure _
  | none => exact isQuiet_pure _

/-- That the globals are not applied says nothing about source. -/
theorem accounts_scopeWith (settings : Settings) (context : Value) :
    Accounts (e.scopeWith g settings context) fun _ => [] := by
  have hpure (scope : Scope) : Accounts (pure scope) fun _ => [] := (isQuiet_pure (g := g) scope).accounts
  rw [scopeWith]
  split
  · exact hpure _
  · refine (isQuiet_memory (g := g)).accounts.bind_nothing fun m => ?_
    split
    · exact hpure _
    · exact hpure _
    · dsimp only
      split
      · exact (accounts_report rfl).bind_nothing fun _ => hpure _
      · exact hpure _

/-- A rendering with an environment tells of the source that it reads. -/
theorem accounts_render {settings : Settings} (hdebug : settings.debug = true) (t : Template)
    (context partials : Value) :
    Accounts
      (do
        let from' ← e.partialsWith g partials
        let scope ← e.scopeWith g settings context
        (Setting.mk g settings from').render t scope Stack.ordinary)
      (e.readings g settings t context partials) :=
  (e.isQuiet_partialsWith g partials).accounts.bind_after fun from' =>
    (e.accounts_scopeWith g settings context).bind_after fun scope =>
      Setting.accounts_render (s := ⟨g, settings, from'⟩) hdebug t scope Stack.ordinary

end Environment

end Stencil
