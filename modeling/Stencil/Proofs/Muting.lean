import Stencil.Proofs.Journal

/-!
# The switch for debug events changes nothing else

Whether debug events are asked for is tested in three places: where a template is compiled, where a partial is expanded,
and where globals are not applied. Each time nothing depends on it but whether an event is reported, and what is
reported is never looked at. So of two runs that differ in the switch one does what the other one does, and reports the
warnings among what that one reports (`Stencil.Mutes`). This is kept by all that rendering is made of, and by the steps
of a session, one after the other (`Stencil.Workspace.after_withDebug`).

What the run with debug events reports beside the warnings is known as well: it tells of each source that is read, once
if it can be read and never if it cannot, and right before a partial is said to be expanded, its source is said to have
been read (`Stencil.Workspace.tells_perform`).
-/

namespace Stencil

open Run

/-! ### Runs with and without debug events -/

/-- The state with only the warnings among the events. -/
def RunState.muted (σ : RunState) : RunState := { σ with events := σ.events.filter Event.isWarning }

/-- **Whether a computation does what another one does, but reports only the warnings.** -/
def Mutes {ε α : Type} (r r' : ExceptT ε (StateM RunState) α) : Prop :=
  ∀ σ : RunState, r'.run.run σ.muted = ((r.run.run σ).1, (r.run.run σ).2.muted)

/-- **Whether a computation reports nothing**, and does the same whatever was reported before. -/
def IsMute {ε α : Type} (r : ExceptT ε (StateM RunState) α) : Prop :=
  ∀ m events, r.run.run ⟨m, events⟩ = ((r.run.run ⟨m, #[]⟩).1, ⟨(r.run.run ⟨m, #[]⟩).2.memory, events⟩)

section

variable {ε α β : Type} {r r' : ExceptT ε (StateM RunState) α} {k k' : α → ExceptT ε (StateM RunState) β}

/-- A computation that is gone on with, looked at as a function of states. -/
theorem run_bind (r : ExceptT ε (StateM RunState) α) (k : α → ExceptT ε (StateM RunState) β) (σ : RunState) :
    (r >>= k).run.run σ = (ExceptT.bindCont k (r.run.run σ).1).run (r.run.run σ).2 := rfl

theorem mutes_pure (x : α) : Mutes (pure x : ExceptT ε (StateM RunState) α) (pure x) := fun _ => rfl

theorem mutes_throw (e : ε) : Mutes (throw e : ExceptT ε (StateM RunState) α) (throw e) := fun _ => rfl

/-- Computations that correspond can be gone on with by such that do, as the muted state is reached from the other one
at each point. -/
theorem Mutes.bind (hr : Mutes r r') (hk : ∀ x, Mutes (k x) (k' x)) : Mutes (r >>= k) (r' >>= k') := by
  intro σ
  rw [run_bind, run_bind, hr σ]
  cases (r.run.run σ).1 with
  | ok x => exact hk x _
  | error e => rfl

theorem isMute_pure (x : α) : IsMute (pure x : ExceptT ε (StateM RunState) α) := fun _ _ => rfl

theorem isMute_throw (e : ε) : IsMute (throw e : ExceptT ε (StateM RunState) α) := fun _ _ => rfl

theorem IsMute.bind (hr : IsMute r) (hk : ∀ x, IsMute (k x)) : IsMute (r >>= k) := by
  intro m events
  rw [run_bind, run_bind, hr m events, hr m #[]]
  cases (r.run.run ⟨m, #[]⟩).1 with
  | ok x => exact hk x _ events
  | error e => rfl

/-- A computation that reports nothing corresponds to itself. -/
theorem IsMute.mutes (h : IsMute r) : Mutes r r := by
  rintro ⟨m, events⟩
  rw [RunState.muted, h m (events.filter _), h m events]
  rfl

end

section

variable {α : Type} {g : Graph}

/-- What is quiet reports nothing. -/
theorem Run.IsQuiet.isMute {r : Run α} (h : IsQuiet g r) : IsMute r := by
  intro m events
  obtain ⟨hresult, hmemory⟩ := h.alike (σ := ⟨m, events⟩) (τ := ⟨m, #[]⟩) rfl
  exact Prod.ext hresult (congrArg₂ RunState.mk hmemory (h.events ⟨m, events⟩))

theorem Run.IsQuiet.mutes {r : Run α} (h : IsQuiet g r) : Mutes r r := h.isMute.mutes

theorem RunState.muted_push (σ : RunState) {e : Event} (he : e.isWarning = true) :
    RunState.muted { σ with events := σ.events.push e } = { σ.muted with events := σ.muted.events.push e } := by
  rw [muted, Array.filter_push, if_pos he]
  rfl

/-- A warning is reported with the setting and without it. -/
theorem mutes_report {e : Event} (he : e.isWarning = true) : Mutes (report e) (report e) :=
  fun σ => Prod.ext rfl (σ.muted_push he).symm

/-- An event of debugging is dropped when the state is muted, so that not reporting it comes to the same. -/
theorem mutes_report_pure {e : Event} (he : e.isWarning = false) : Mutes (report e) (pure () : Run Unit) := by
  intro σ
  have hevents : (σ.events.push e).filter Event.isWarning = σ.events.filter Event.isWarning := by
    rw [Array.filter_push, if_neg (Bool.eq_false_iff.mp he)]
  exact Prod.ext rfl (congrArg (RunState.mk σ.memory) hevents.symm)

/-- That a partial has been given up is a warning, which is reported in both cases. -/
theorem Mutes.containOverflow {r r' : Run String} (h : Mutes r r') (name : String) :
    Mutes (containOverflow name r) (containOverflow name r') := by
  intro σ
  have hmuted : r'.runFrom σ.muted = ((r.runFrom σ).1, (r.runFrom σ).2.muted) := h σ
  change (Stencil.containOverflow name r').runFrom σ.muted =
    (((Stencil.containOverflow name r).runFrom σ).1, ((Stencil.containOverflow name r).runFrom σ).2.muted)
  rw [runFrom_containOverflow, runFrom_containOverflow, hmuted]
  rcases r.runFrom σ with ⟨f | shown, τ⟩
  · dsimp only
    by_cases hf : f.kind = .recursion
    · rw [if_pos hf, if_pos hf, τ.muted_push rfl]
    · rw [if_neg hf, if_neg hf]
  · rfl

theorem Mutes.insideIteration {r r' : Run String} (h : Mutes r r') :
    Mutes (insideIteration r) (insideIteration r') := by
  intro σ
  have hmuted : r'.runFrom σ.muted = ((r.runFrom σ).1, (r.runFrom σ).2.muted) := h σ
  change (Run.insideIteration r').runFrom σ.muted =
    (((Run.insideIteration r).runFrom σ).1, ((Run.insideIteration r).runFrom σ).2.muted)
  rw [runFrom_insideIteration, runFrom_insideIteration, hmuted]

theorem isCongruence_mutes : IsCongruence g (fun _ stack stack' => stack = stack') (Mutes (ε := Fault)) where
  text s := mutes_pure s
  append hr hu := hr.bind fun s => hu.bind fun rest => mutes_pure (s ++ rest)
  ask hquestion hk := hquestion.isQuiet.mutes.bind hk
  iterate hr := hr.insideIteration
  less _ hstacks := hstacks
  enter := by
    rintro frames n stack _ k k' rfl hk
    exact (g.isQuiet_enter stack frames).mutes.bind fun inner => hk inner inner rfl

end

namespace Setting

variable {s : Setting}

/-- The same, but no debug events are asked for. -/
def muted (s : Setting) : Setting := { s with settings := s.settings.withDebug false }

/-- Events of debugging are reported only with the setting, and muting drops them. -/
theorem mutes_debug (s : Setting) {e : Event} (he : e.isWarning = false) : Mutes (s.debug e) (s.muted.debug e) := by
  have hmuted : s.muted.debug e = pure () := if_neg Bool.false_ne_true
  rw [hmuted, debug]
  split
  · exact mutes_report_pure he
  · exact mutes_pure ()

theorem mutes_inclusion {body body' : Template → Run String} (hbody : ∀ t, Mutes (body t) (body' t)) (name : String)
    (depth : Nat) :
    Mutes
      (do
        match ← s.source? name with
        | none => return ""
        | some source => s.expand name source depth body)
      (do
        match ← s.muted.source? name with
        | none => return ""
        | some source => s.muted.expand name source depth body') := by
  refine (s.isQuiet_source? name).mutes.bind fun source? => ?_
  cases source? with
  | none => exact mutes_pure ""
  | some source =>
    dsimp only
    rw [expand, expand]
    cases Template.parse source with
    | error cause => exact (mutes_report rfl).bind fun _ => mutes_pure ""
    | ok t => exact (s.mutes_debug rfl).bind fun _ => (s.mutes_debug rfl).bind fun _ => hbody t

/-- **Inside partials the same is rendered without debug events.** -/
theorem mutes_renderWithin (left : Nat) (t : Template) (scope : Scope) (stack : Stack) :
    Mutes (s.renderWithin left t scope stack) (s.muted.renderWithin left t scope stack) := by
  induction left generalizing t scope stack with
  | zero =>
    rw [renderWithin_eq, renderWithin_eq]
    refine isCongruence_mutes.renderParts (n := 0) ?_ rfl
    rintro name - scope stack _ rfl
    refine (s.isQuiet_source? name).mutes.bind fun source? => ?_
    cases source? with
    | none => exact mutes_pure ""
    | some source => exact (mutes_report rfl).bind fun _ => mutes_pure ""
  | succ left ih =>
    rw [renderWithin_eq, renderWithin_eq]
    refine isCongruence_mutes.renderParts (n := 0) ?_ rfl
    rintro name - scope stack _ rfl
    refine mutes_inclusion (fun body => ?_) name _
    exact (s.graph.isQuiet_enter stack _).mutes.bind fun inner => ih body scope inner

/-- **The same is rendered without debug events**, and the same warnings are reported. -/
theorem mutes_render (t : Template) (scope : Scope) (stack : Stack) :
    Mutes (s.render t scope stack) (s.muted.render t scope stack) := by
  rw [render_eq, render_eq]
  refine isCongruence_mutes.renderParts (n := 0) ?_ rfl
  rintro name - scope stack _ rfl
  refine mutes_inclusion (fun body => Mutes.containOverflow ?_ name) name 1
  exact (s.graph.isQuiet_enter stack _).mutes.bind fun inner => mutes_renderWithin _ body scope inner

end Setting

/-! ### Environments and templates -/

theorem run_ofRun {α : Type} (r : Run α) (σ : RunState) :
    (Operation.ofRun r).run.run σ = ((r.run.run σ).1.mapError Failure.fault, (r.run.run σ).2) := rfl

theorem Mutes.ofRun {α : Type} {r r' : Run α} (h : Mutes r r') : Mutes (Operation.ofRun r) (Operation.ofRun r') := by
  intro σ
  rw [run_ofRun, run_ofRun, h σ]

theorem IsMute.ofRun {α : Type} {r : Run α} (h : IsMute r) : IsMute (Operation.ofRun r) := by
  intro m events
  rw [run_ofRun, run_ofRun, h m events]

section

variable (g : Graph) (settings : Settings)

/-- That a template has been read is an event of debugging. -/
theorem mutes_ofValue (v : Value) :
    Mutes (Compiled.ofValue g settings v) (Compiled.ofValue g (settings.withDebug false) v) := by
  cases v with
  | text source =>
    rw [Compiled.ofValue, Compiled.ofValue]
    split
    · exact mutes_throw _
    · split
      · exact mutes_throw _
      · dsimp only
        rw [if_neg (c := (settings.withDebug false).debug = true) Bool.false_ne_true]
        split
        · exact (Mutes.ofRun (mutes_report_pure rfl)).bind fun _ => mutes_pure _
        · exact mutes_pure _
  | _ => exact mutes_throw _

theorem mutes_renderAlone (t : Template) (context partials : Value) :
    Mutes (renderAlone g settings t context partials) (renderAlone g (settings.withDebug false) t context partials) :=
  Mutes.ofRun (Setting.mutes_render t (.value context) Stack.ordinary)

namespace Environment

/-- Making an environment reports nothing. -/
theorem isMute_make (partials globals : Value) : IsMute (make g partials globals) := by
  have htruth (v : Value) : IsMute (Operation.ofRun (do Run.ofExcept (g.truth (← memory) v))) :=
    ((isQuiet_memory (g := g)).bind fun m => isQuiet_ofExcept _).isMute.ofRun
  have hgiven {r : Run Entries} (hr : IsQuiet g r) (given : Bool) {k : Entries → Operation Environment}
      (hk : ∀ es, IsMute (k es)) : IsMute (if given then Operation.ofRun r >>= k else pure [] >>= k) := by
    split
    · exact hr.isMute.ofRun.bind hk
    · exact hk []
  refine (htruth globals).bind fun hasGlobals => hgiven (g.isQuiet_mergeOver [] globals) hasGlobals ?_
  intro globalEntries
  refine (htruth partials).bind fun hasPartials => hgiven (isQuiet_mappingEntries g partials) hasPartials ?_
  intro partialEntries
  dsimp only
  split
  · exact isMute_pure _
  · exact isMute_throw _

variable (e : Environment)

/-- That globals are left out is a warning, and so it is reported in both cases. -/
theorem mutes_scopeWith (context : Value) :
    Mutes (e.scopeWith g settings context) (e.scopeWith g (settings.withDebug false) context) := by
  rw [scopeWith, scopeWith]
  split
  · exact mutes_pure _
  · refine (isQuiet_memory (g := g)).mutes.bind fun m => ?_
    split
    · exact mutes_pure _
    · exact mutes_pure _
    · dsimp only
      rw [if_neg (c := (settings.withDebug false).debug = true) Bool.false_ne_true]
      split
      · exact (mutes_report_pure rfl).bind fun _ => mutes_pure _
      · exact mutes_pure _

theorem mutes_render (t : Template) (context partials : Value) :
    Mutes (e.render g settings t context partials) (e.render g (settings.withDebug false) t context partials) :=
  Mutes.ofRun ((e.isQuiet_partialsWith g partials).mutes.bind fun from' =>
    (e.mutes_scopeWith g settings context).bind fun scope =>
      Setting.mutes_render (s := ⟨g, settings, from'⟩) t scope Stack.ordinary)

end Environment

end

/-! ### Sessions -/

/-- The outcome with only the warnings among the events. -/
def Outcome.muted (o : Outcome) : Outcome := { o with events := o.events.filter Event.isWarning }

namespace Workspace

variable (w : Workspace) (g : Graph)

@[simp] theorem settings_withDebug (debug : Bool) :
    (w.withDebug debug).settings = w.settings.withDebug debug := rfl

@[simp] theorem templates_withDebug (debug : Bool) : (w.withDebug debug).templates = w.templates := rfl

@[simp] theorem environment?_withDebug (debug : Bool) (name : String) :
    (w.withDebug debug).environment? name = w.environment? name := rfl

@[simp] theorem home?_withDebug (debug : Bool) (number : Option Nat) :
    (w.withDebug debug).home? number = w.home? number := rfl

/-- A step of a session starts with no events, and keeps the memory that it ends with. -/
theorem carryOut_withDebug {α : Type} {t t' : Operation α} (h : Mutes t t') :
    (w.withDebug false).carryOut t' =
      ((w.carryOut t).1, (w.carryOut t).2.1.filter Event.isWarning, (w.carryOut t).2.2.withDebug false) := by
  have hmuted : t'.runFrom ⟨w.memory, #[]⟩ =
      ((t.runFrom ⟨w.memory, #[]⟩).1, (t.runFrom ⟨w.memory, #[]⟩).2.muted) := h ⟨w.memory, #[]⟩
  have hstart : (w.withDebug false).carryOut t' =
      ((t'.runFrom ⟨w.memory, #[]⟩).1, (t'.runFrom ⟨w.memory, #[]⟩).2.events,
        { w.withDebug false with memory := (t'.runFrom ⟨w.memory, #[]⟩).2.memory }) := rfl
  rw [hstart, hmuted]
  rfl

/-- What a session does with a rendering, with and without the setting. -/
theorem renderAs_withDebug {t t' : Operation String} (h : Mutes t t') :
    (w.withDebug false).renderAs t' = ((w.renderAs t).1.muted, (w.renderAs t).2.withDebug false) := by
  rw [renderAs, renderAs, carryOut_withDebug w h]
  rcases w.carryOut t with ⟨f | shown, events, w'⟩ <;> rfl

theorem compileAs_withDebug (name : String) (source : Value) (number : Option Nat) :
    (w.withDebug false).compileAs g name source number =
      ((w.compileAs g name source number).1.muted, (w.compileAs g name source number).2.withDebug false) := by
  rw [compileAs, compileAs, settings_withDebug, carryOut_withDebug w (mutes_ofValue g w.settings source)]
  rcases w.carryOut (Compiled.ofValue g w.settings source) with ⟨f | c, events, w'⟩ <;> rfl

/-- A change of an environment reports nothing, and does not look at the settings. -/
theorem change_withDebug (name : String) (f : Environment → Option Failure × Environment) :
    (w.withDebug false).change name f = ((w.change name f).1.muted, (w.change name f).2.withDebug false) := by
  rw [change, change, environment?_withDebug]
  rcases w.environment? name with _ | ⟨i, e⟩
  · rfl
  · dsimp only
    rcases f e with ⟨_ | failure, e'⟩ <;> rfl

/-- **A step does the same without debug events**, and reports the same warnings. -/
theorem perform_withDebug {step : Step} (h : step.concernsSettings = false) :
    (w.withDebug false).perform g step = ((w.perform g step).1.muted, (w.perform g step).2.withDebug false) := by
  cases step with
  | assignSettings debug limit => cases h
  | resetSettings => cases h
  | readSettings => cases h
  | makeEnvironment name partials globals =>
    rw [perform, perform, carryOut_withDebug w (Environment.isMute_make g partials globals).mutes]
    rcases w.carryOut (Environment.make g partials globals) with ⟨f | e, events, w'⟩ <;> rfl
  | registerPartials name pairs => exact w.change_withDebug name _
  | setPartial name key value => exact w.change_withDebug name _
  | setGlobal name key value => exact w.change_withDebug name _
  | erasePartial name key => exact w.change_withDebug name _
  | eraseGlobal name key => exact w.change_withDebug name _
  | readEnvironment name => exact w.change_withDebug name fun e => (none, e)
  | compile name source environment =>
    cases environment with
    | none => exact w.compileAs_withDebug g name source none
    | some environment =>
      rw [perform, perform, environment?_withDebug]
      rcases w.environment? environment with _ | ⟨i, e⟩
      · rfl
      · exact w.compileAs_withDebug g name source (some i)
  | render name context partials =>
    rw [perform, perform, templates_withDebug]
    rcases w.templates.lookup name with _ | ⟨c, number⟩
    · rfl
    · dsimp only
      rw [home?_withDebug, settings_withDebug]
      cases w.home? number with
      | none => exact w.renderAs_withDebug (mutes_renderAlone g w.settings c.template context partials)
      | some e => exact w.renderAs_withDebug (e.mutes_render g w.settings c.template context partials)
  | renderAlone name context partials =>
    rw [perform, perform, templates_withDebug]
    rcases w.templates.lookup name with _ | ⟨c, number⟩
    · rfl
    · exact w.renderAs_withDebug (mutes_renderAlone g w.settings c.template context partials)
  | _ => rfl

/-- **A session does the same without debug events.** -/
theorem after_withDebug {session : Session} (h : ∀ s ∈ session, s.2.concernsSettings = false) :
    (w.withDebug false).after session = (w.after session).withDebug false := by
  induction session generalizing w with
  | nil => rfl
  | cons s session ih =>
    rw [after, after, perform_withDebug w s.1 (h s List.mem_cons_self)]
    exact ih _ fun s' hs' => h s' (List.mem_cons_of_mem _ hs')

/-! ### Steps that tell of source that is read -/

/-- **Whether a step of a workspace tells of some source**, and leaves the settings as they are. -/
structure Tells (w : Workspace) (rs : List Reading) (done : Outcome × Workspace) : Prop where
  settings : done.2.settings = w.settings
  readings : done.1.events.toList.filter Event.isReading = rs.flatMap Reading.events
  heralded : Heralded rs done.1.events.toList

theorem tells_nothing {done : Outcome × Workspace} (hsettings : done.2.settings = w.settings)
    (hevents : done.1.events = #[]) : Tells w [] done := by
  refine ⟨hsettings, ?_, ?_⟩
  · rw [hevents]
    rfl
  · rw [hevents]
    exact heralded_of_notMem fun _ _ => List.not_mem_nil

/-- A change of an environment reads no source. -/
theorem tells_change (name : String) (f : Environment → Option Failure × Environment) :
    Tells w [] (w.change name f) := by
  rw [change]
  rcases w.environment? name with _ | ⟨i, e⟩
  · exact w.tells_nothing rfl rfl
  · dsimp only
    rcases f e with ⟨_ | failure, e'⟩ <;> exact w.tells_nothing rfl rfl

/-- **The readings of a rendering are told in its events**, in the order in which they are made. -/
theorem tells_renderAs {r : Run String} {rs : RunState → List Reading} (hr : Accounts r rs) :
    Tells w (rs ⟨w.memory, #[]⟩) (w.renderAs (Operation.ofRun r)) := by
  obtain ⟨reported, hevents, hreadings, hheralded⟩ := hr ⟨w.memory, #[]⟩
  obtain rfl : (r.runFrom ⟨w.memory, #[]⟩).2.events.toList = reported := hevents
  rw [renderAs, carryOut, Operation.runFrom_ofRun]
  rcases hrun : r.runFrom ⟨w.memory, #[]⟩ with ⟨f | shown, τ⟩ <;> rw [hrun] at hreadings hheralded <;>
    exact ⟨rfl, hreadings, hheralded⟩

theorem tells_compileAs (hdebug : w.settings.debug = true) (name : String) (source : Value) (number : Option Nat) :
    Tells w (Compiled.readings source) (w.compileAs g name source number) := by
  cases source with
  | text s =>
    rw [Compiled.readings, compileAs, carryOut, Compiled.ofValue]
    by_cases hs : s = ""
    · rw [if_pos hs, if_pos hs]
      exact w.tells_nothing rfl rfl
    · rw [if_neg hs, if_neg hs]
      cases hparse : Template.parse s with
      | error cause =>
        refine ⟨rfl, ?_, heralded_of_notMem fun _ _ => List.not_mem_nil⟩
        rw [List.flatMap_singleton, Reading.events, hparse]
        rfl
      | ok t =>
        dsimp only
        rw [if_pos hdebug]
        refine ⟨rfl, ?_, heralded_of_notMem fun name depth hmem => by cases List.mem_singleton.mp hmem⟩
        rw [List.flatMap_singleton, Reading.events, hparse]
        rfl
  | _ => exact w.tells_nothing rfl rfl

/-- **With debug events each step tells of the source that it reads.** -/
theorem tells_perform (hdebug : w.settings.debug = true) {step : Step} (h : step.concernsSettings = false) :
    Tells w (w.readings g step) (w.perform g step) := by
  have halone (t : Template) (context partials : Value) :
      Tells w (readingsAlone g w.settings t context partials ⟨w.memory, #[]⟩)
        (w.renderAs (renderAlone g w.settings t context partials)) :=
    w.tells_renderAs (Setting.accounts_render (s := ⟨g, w.settings, .value partials⟩) hdebug t (.value context)
      Stack.ordinary)
  cases step with
  | assignSettings debug limit => cases h
  | resetSettings => cases h
  | readSettings => cases h
  | makeEnvironment name partials globals =>
    have hmade := Environment.isMute_make g partials globals w.memory #[]
    have hevents : ((Environment.make g partials globals).runFrom ⟨w.memory, #[]⟩).2.events = #[] :=
      congrArg (·.2.events) hmade
    rw [perform, carryOut]
    rcases hrun : (Environment.make g partials globals).runFrom ⟨w.memory, #[]⟩ with ⟨f | e, τ⟩ <;>
      rw [hrun] at hevents <;> exact w.tells_nothing rfl hevents
  | registerPartials name pairs => exact w.tells_change name _
  | setPartial name key value => exact w.tells_change name _
  | setGlobal name key value => exact w.tells_change name _
  | erasePartial name key => exact w.tells_change name _
  | eraseGlobal name key => exact w.tells_change name _
  | readEnvironment name => exact w.tells_change name fun e => (none, e)
  | compile name source environment =>
    cases environment with
    | none => exact w.tells_compileAs g hdebug name source none
    | some environment =>
      rw [perform, readings]
      rcases w.environment? environment with _ | ⟨i, e⟩
      · exact w.tells_nothing rfl rfl
      · exact w.tells_compileAs g hdebug name source (some i)
  | render name context partials =>
    rw [perform, readings]
    rcases w.templates.lookup name with _ | ⟨c, number⟩
    · exact w.tells_nothing rfl rfl
    · dsimp only
      cases w.home? number with
      | none => exact halone c.template context partials
      | some e => exact w.tells_renderAs (e.accounts_render g hdebug c.template context partials)
  | renderAlone name context partials =>
    rw [perform, readings]
    rcases w.templates.lookup name with _ | ⟨c, number⟩
    · exact w.tells_nothing rfl rfl
    · exact halone c.template context partials
  | _ => exact w.tells_nothing rfl rfl

/-- No step of such a session changes a setting. -/
theorem settings_after {session : Session} (hdebug : w.settings.debug = true)
    (h : ∀ s ∈ session, s.2.concernsSettings = false) : (w.after session).settings = w.settings := by
  induction session generalizing w with
  | nil => rfl
  | cons s session ih =>
    have hsettings := (w.tells_perform s.1 hdebug (h s List.mem_cons_self)).settings
    rw [after, ih _ (hsettings ▸ hdebug) fun s' hs' => h s' (List.mem_cons_of_mem _ hs'), hsettings]

/-- **The switch for debug events changes nothing but that there are debug events.** After any session that leaves the
settings alone, a step ends in the same with and without debug events. Without them the warnings are reported that are
reported with them, in the same order, and nothing else. With them each source that is read by the step is told of, once
if it can be read and never if it cannot, and right before a partial is said to be expanded, its source is said to have
been read. -/
theorem debug_adds_debug_events {session : Session} (hsession : ∀ s ∈ session, s.2.concernsSettings = false)
    {step : Step} (hstep : step.concernsSettings = false) :
    let on := (w.withDebug true).after session
    let loud := (on.perform g step).1
    let silent := (((w.withDebug false).after session).perform g step).1
    silent.result = loud.result ∧
      silent.events.toList = loud.events.toList.filter Event.isWarning ∧
      (∀ e ∈ silent.events.toList, e.level = .warning) ∧
      loud.events.toList.filter Event.isReading = (on.readings g step).flatMap Reading.events ∧
      Heralded (on.readings g step) loud.events.toList := by
  intro on loud silent
  have hon : on.settings.debug = true := by rw [(w.withDebug true).settings_after rfl hsession]; rfl
  have hsilent : silent = loud.muted := by
    have hoff : (w.withDebug false).after session = on.withDebug false :=
      (w.withDebug true).after_withDebug hsession
    have hperform := on.perform_withDebug g hstep
    rw [← hoff] at hperform
    exact congrArg Prod.fst hperform
  have hevents : silent.events.toList = loud.events.toList.filter Event.isWarning := by
    rw [hsilent]
    exact Array.toList_filter' rfl
  have htells := on.tells_perform g hon hstep
  refine ⟨by rw [hsilent]; rfl, hevents, fun e he => ?_, htells.readings, htells.heralded⟩
  rw [hevents] at he
  exact of_decide_eq_true (List.mem_filter.mp he).2

/-- Partials of which the one cannot be read, and a global. -/
def tracked : Graph :=
  ⟨#[.table .plain [(.text "p", .text "x{{>q}}"), (.text "q", .text "{{#s}}")],
    .table .plain [(.text "a", .text "1")]], by decide⟩

/-- One template cannot be compiled. Another one is, in an environment with the partials and the global. -/
def trackedSession : Session :=
  [.compile "t" (.text "{{#s}}") none,
    .makeEnvironment "e" (.ref 0) (.ref 1),
    .compile "t" (.text "{{>p}}{{a}}") (some "e")].map fun step => (tracked, step)

/-- The template is rendered with a text as its context, so that the global is not applied. Of the partials inside each
other the inner one shows nothing. -/
theorem debug_adds_debug_events_tracked :
    let on := (initial.withDebug true).after trackedSession
    let step := Step.render "t" (.text "c") .null
    let loud := (on.perform tracked step).1
    let silent := (((initial.withDebug false).after trackedSession).perform tracked step).1
    on.readings tracked step = [.inclusion "p" "x{{>q}}" 1, .inclusion "q" "{{#s}}" 2] ∧
      loud.events.toList =
        [.globalsSkipped "str", .parsed 7 2, .expanding "p" 1, .malformed "q" (.unfinished "s")] ∧
      silent.events.toList = [.malformed "q" (.unfinished "s")] ∧
      silent.result.toOption = some (.output "x") ∧
      silent.result = loud.result ∧ silent.events.toList = loud.events.toList.filter Event.isWarning := by
  have hsession : ∀ s ∈ trackedSession, s.2.concernsSettings = false := by decide
  intro on step loud silent
  have hstep : step.concernsSettings = false := rfl
  obtain ⟨hresult, hevents, -⟩ := initial.debug_adds_debug_events tracked hsession hstep
  exact ⟨by decide +kernel, by decide +kernel, by decide +kernel, by decide +kernel, hresult, hevents⟩

end Workspace

end Stencil
