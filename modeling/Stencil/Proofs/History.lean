import Stencil.Proofs.Stateless

/-!
# Renderings are independent of what does not concern their template

What of a workspace concerns a template is the template itself and its environment (`Stencil.Workspace.Projects`). A
step that is done to another environment or to another template, or that fails, or that renders, leaves this as it is
(`Stencil.Workspace.Projects.of_not_concerns`); a step that is done to the one or to the other does to it what it would
do in a workspace in which there is nothing else (`Stencil.Workspace.Projects.of_concerns`). So at the end of a session
the template and its environment are what they are at the end of the session of the relevant steps alone
(`Stencil.Workspace.Projects.after`), and with them what is rendered.

In the smaller session the environment is the first that is made, and has another number. Its name leads to it all the
same: a name that stands for the environment at one time is the name that it was given when it was made.
-/

namespace Stencil

namespace Workspace

/-! ### What steps leave alone -/

/-- Whether a change that fails changes nothing. -/
def IsAtomic (f : Environment → Option Failure × Environment) : Prop :=
  ∀ e failure, (f e).1 = some failure → (f e).2 = e

theorem isAtomic_updateTo (change : Environment → Except Fault Environment) :
    IsAtomic fun e => updateTo e (change e) := by
  intro e failure h
  dsimp only at h ⊢
  cases hchange : change e with
  | ok e' =>
    rw [hchange] at h
    cases h
  | error f => rfl

/-- Registering one partial, or none. -/
theorem isAtomic_registerAll (g : Graph) {pairs : Entries} (h : pairs.length ≤ 1) :
    IsAtomic fun e => e.registerAll g pairs := by
  intro e failure hfailure
  rcases pairs with _ | ⟨⟨n, s⟩, _ | ⟨second, rest⟩⟩
  · rfl
  · dsimp only [Environment.registerAll] at hfailure ⊢
    cases hregister : e.register g n s with
    | ok e' =>
      rw [hregister] at hfailure
      cases hfailure
    | error f => rfl
  · rw [List.length_cons, List.length_cons] at h
    omega

variable {w r : Workspace} {g : Graph} {name : String}

theorem getElem?_of_environment? {i : Nat} {e : Environment} (h : w.environment? name = some (i, e)) :
    w.environmentNames.lookup name = some i ∧ w.environments[i]? = some e := by
  obtain ⟨i', hi', hrest⟩ := Option.bind_eq_some_iff.mp h
  obtain ⟨e', he', hpair⟩ := Option.bind_eq_some_iff.mp hrest
  cases hpair
  exact ⟨hi', he'⟩

/-- A change that gives back what it is given changes nothing. -/
theorem change_eq_self {f : Environment → Option Failure × Environment}
    (hf : ∀ i e, w.environment? name = some (i, e) → (f e).2 = e) : (w.change name f).2 = w := by
  rw [change]
  cases henv : w.environment? name with
  | none => rfl
  | some found =>
    obtain ⟨i, e⟩ := found
    have hsame : w.environments.setIfInBounds i e = w.environments := by
      have hget := (getElem?_of_environment? henv).2
      grind
    dsimp only
    rw [hf i e henv, hsame]
    cases (f e).1 <;> rfl

/-- An atomic change that does not succeed changes nothing. -/
theorem change_of_not_succeeded {f : Environment → Option Failure × Environment} (hf : IsAtomic f)
    (h : (w.change name f).1.succeeded = false) : (w.change name f).2 = w := by
  refine change_eq_self fun i e henv => ?_
  rw [change, henv] at h
  cases hfailure : (f e).1 with
  | none =>
    dsimp only at h
    rw [hfailure] at h
    cases h
  | some failure => exact hf e failure hfailure

/-- A change under a name that no environment goes by changes nothing. -/
theorem change_of_environment?_eq_none {f : Environment → Option Failure × Environment}
    (h : w.environment? name = none) : (w.change name f).2 = w :=
  change_eq_self fun i e henv => by rw [h] at henv; cases henv

theorem renderAs_eq (w : Workspace) (t : Operation String) : ∃ m, (w.renderAs t).2 = { w with memory := m } := by
  rw [renderAs, carryOut]
  rcases t.runFrom ⟨w.memory, #[]⟩ with ⟨f | s, σ⟩
  · exact ⟨σ.memory, rfl⟩
  · exact ⟨σ.memory, rfl⟩

theorem compileAs_of_not_succeeded {source : Value} {number : Option Nat}
    (h : (w.compileAs g name source number).1.succeeded = false) :
    ∃ m, (w.compileAs g name source number).2 = { w with memory := m } := by
  rw [compileAs, carryOut] at h ⊢
  rcases hrun : (Compiled.ofValue g w.settings source).runFrom ⟨w.memory, #[]⟩ with ⟨f | c, σ⟩
  · exact ⟨σ.memory, rfl⟩
  · rw [hrun] at h
    cases h

/-- **A call that fails, and one that is done to no environment and no template, leaves all of them as they are.** -/
theorem perform_eq_of_unchanged {step : Step} (hcall : step.isCall = true)
    (h : (w.perform g step).1.succeeded = false ∨ w.subject? step = none) :
    ∃ m, (w.perform g step).2 = { w with memory := m } := by
  have hchange {name : String} {f : Environment → Option Failure × Environment} (hf : IsAtomic f)
      (h : (w.change name f).1.succeeded = false ∨
        (w.environment? name).map (fun e => Subject.environment e.1) = none) :
      ∃ m, (w.change name f).2 = { w with memory := m } := by
    rcases h with hfailed | hnone
    · exact ⟨w.memory, change_of_not_succeeded hf hfailed⟩
    · exact ⟨w.memory, change_of_environment?_eq_none (Option.map_eq_none_iff.mp hnone)⟩
  cases step with
  | assignSettings debug limit => cases hcall
  | resetSettings => cases hcall
  | makeEnvironment name partials globals =>
    rcases h with hfailed | hnone
    · rw [perform, carryOut] at hfailed ⊢
      rcases hrun : (Environment.make g partials globals).runFrom ⟨w.memory, #[]⟩ with ⟨f | e, σ⟩
      · exact ⟨σ.memory, rfl⟩
      · rw [hrun] at hfailed
        cases hfailed
    · cases hnone
  | registerPartials name pairs => exact hchange (isAtomic_registerAll g (of_decide_eq_true hcall)) h
  | setPartial name key value => exact hchange (isAtomic_updateTo _) h
  | setGlobal name key value => exact hchange (isAtomic_updateTo _) h
  | erasePartial name key => exact hchange (isAtomic_updateTo _) h
  | eraseGlobal name key => exact hchange (isAtomic_updateTo _) h
  | readEnvironment name => exact ⟨w.memory, change_eq_self fun _ _ _ => rfl⟩
  | compile name source environment =>
    rcases h with hfailed | hnone
    · cases environment with
      | none => exact compileAs_of_not_succeeded hfailed
      | some environment =>
        rw [perform] at hfailed ⊢
        cases henv : w.environment? environment with
        | none => exact ⟨w.memory, rfl⟩
        | some found =>
          rw [henv] at hfailed
          exact compileAs_of_not_succeeded hfailed
    · cases hnone
  | render name context partials =>
    rw [perform]
    split
    · exact ⟨w.memory, rfl⟩
    · split
      · exact w.renderAs_eq _
      · exact w.renderAs_eq _
  | renderAlone name context partials =>
    rw [perform]
    split
    · exact ⟨w.memory, rfl⟩
    · exact w.renderAs_eq _
  | _ => exact ⟨w.memory, rfl⟩

/-! ### What steps do -/

/-- The environment or the template that a step changes or makes, if it succeeds. -/
def effect? (w : Workspace) (g : Graph) (step : Step) : Option Subject :=
  if (w.perform g step).1.succeeded then w.subject? step else none

/-- **What a call does to a workspace**, with the environment or the template that it does it to. -/
inductive Does (g : Graph) (w : Workspace) (step : Step) : Option Subject → Workspace → Prop
  | nothing (m : Memory) : Does g w step none { w with memory := m }
  | make {name : String} {partials globals : Value} {e : Environment} {σ : RunState} :
    step = .makeEnvironment name partials globals →
    (Environment.make g partials globals).runFrom ⟨w.memory, #[]⟩ = (.ok e, σ) →
    Does g w step (some (.environment w.environments.size))
      { w with
        environments := w.environments.push e
        environmentNames := (name, w.environments.size) :: w.environmentNames
        memory := σ.memory }
  | change {name : String} {f : Environment → Option Failure × Environment} {i : Nat} {e e' : Environment} :
    (∀ v : Workspace, v.perform g step = v.change name f) → w.environment? name = some (i, e) → f e = (none, e') →
    Does g w step (some (.environment i)) { w with environments := w.environments.setIfInBounds i e' }
  | compile {name : String} {source : Value} {c : Compiled} {home : Option Nat} {σ : RunState} :
    (home = none ∧ step = .compile name source none ∨ ∃ environment i e, home = some i ∧
      step = .compile name source (some environment) ∧ w.environment? environment = some (i, e)) →
    (Compiled.ofValue g w.settings source).runFrom ⟨w.memory, #[]⟩ = (.ok c, σ) →
    Does g w step (some (.template w.templates.length))
      { w with templates := (name, c, home) :: w.templates, memory := σ.memory }

theorem does_change {step : Step} {f : Environment → Option Failure × Environment}
    (hperform : ∀ v : Workspace, v.perform g step = v.change name f)
    (hsubject : w.subject? step = (w.environment? name).map fun e => .environment e.1)
    (h : (w.perform g step).1.succeeded = true) : Does g w step (w.subject? step) (w.perform g step).2 := by
  rw [hsubject]
  rw [hperform w] at h ⊢
  cases henv : w.environment? name with
  | none =>
    rw [change_of_environment?_eq_none henv]
    exact .nothing w.memory
  | some found =>
    obtain ⟨i, e⟩ := found
    rw [change, henv] at h ⊢
    rcases hf : f e with ⟨failure | _, e'⟩
    · dsimp only
      rw [hf]
      exact .change hperform henv hf
    · dsimp only at h
      rw [hf] at h
      cases h

theorem does_compileAs {step : Step} {source : Value} {home : Option Nat}
    (hstep : home = none ∧ step = .compile name source none ∨ ∃ environment i e, home = some i ∧
      step = .compile name source (some environment) ∧ w.environment? environment = some (i, e))
    (h : (w.compileAs g name source home).1.succeeded = true) :
    Does g w step (some (.template w.templates.length)) (w.compileAs g name source home).2 := by
  rw [compileAs, carryOut] at h ⊢
  rcases hrun : (Compiled.ofValue g w.settings source).runFrom ⟨w.memory, #[]⟩ with ⟨f | c, σ⟩
  · rw [hrun] at h
    cases h
  · exact .compile hstep hrun

/-- **Every call does one of these.** -/
theorem does_perform {step : Step} (hcall : step.isCall = true) :
    Does g w step (w.effect? g step) (w.perform g step).2 := by
  have hnothing (h : (w.perform g step).1.succeeded = false ∨ w.subject? step = none) :
      Does g w step none (w.perform g step).2 := by
    obtain ⟨m, hm⟩ := perform_eq_of_unchanged hcall h
    rw [hm]
    exact .nothing m
  rw [effect?]
  cases hsucceeded : (w.perform g step).1.succeeded with
  | false => exact hnothing (.inl hsucceeded)
  | true =>
    rw [if_pos rfl]
    cases step with
    | makeEnvironment name partials globals =>
      rw [perform, carryOut] at hsucceeded ⊢
      rcases hrun : (Environment.make g partials globals).runFrom ⟨w.memory, #[]⟩ with ⟨f | e, σ⟩
      · rw [hrun] at hsucceeded
        cases hsucceeded
      · exact .make rfl hrun
    | registerPartials name pairs => exact does_change (fun _ => rfl) rfl hsucceeded
    | setPartial name key value => exact does_change (fun _ => rfl) rfl hsucceeded
    | setGlobal name key value => exact does_change (fun _ => rfl) rfl hsucceeded
    | erasePartial name key => exact does_change (fun _ => rfl) rfl hsucceeded
    | eraseGlobal name key => exact does_change (fun _ => rfl) rfl hsucceeded
    | compile name source environment =>
      cases environment with
      | none => exact does_compileAs (.inl ⟨rfl, rfl⟩) hsucceeded
      | some environment =>
        rw [perform] at hsucceeded ⊢
        cases henv : w.environment? environment with
        | none =>
          rw [henv] at hsucceeded
          cases hsucceeded
        | some found =>
          rw [henv] at hsucceeded
          exact does_compileAs (.inr ⟨environment, found.1, found.2, rfl, rfl, henv⟩) hsucceeded
    | _ => exact hnothing (.inr rfl)

/-! ### Numbers -/

/-- **Whether every environment has been given one name**, the names being listed in the order of the numbers. -/
structure Numbered (w : Workspace) : Prop where
  length : w.environmentNames.length = w.environments.size
  number {i : Nat} {n : String × Nat} : w.environmentNames.reverse[i]? = some n → n.2 = i

theorem numbered_start (settings : Settings) : (start settings).Numbered := ⟨rfl, nofun⟩

theorem Does.numbered {step : Step} {effect : Option Subject} {w' : Workspace} (h : Does g w step effect w')
    (hw : w.Numbered) : w'.Numbered := by
  cases h with
  | nothing m => exact ⟨hw.length, hw.number⟩
  | @make name _ _ e σ _ _ =>
    refine ⟨by rw [List.length_cons, Array.size_push, hw.length], fun {i n} hn => ?_⟩
    dsimp only at hn
    rw [List.reverse_cons, List.getElem?_append] at hn
    split at hn
    · exact hw.number hn
    · next hi =>
      -- The name that was given last stands where the others end.
      rw [List.getElem?_singleton] at hn
      split at hn
      · next hlast =>
        rw [List.length_reverse, hw.length] at hi hlast
        cases hn
        dsimp only
        omega
      · cases hn
  | change _ _ _ => exact ⟨by rw [Array.size_setIfInBounds, hw.length], hw.number⟩
  | compile _ _ => exact ⟨hw.length, hw.number⟩

/-- The name of an environment leads to its number only if it is the name that it was given. -/
theorem Numbered.name_of_environment? (hw : w.Numbered) {i : Nat} {e : Environment}
    (h : w.environment? name = some (i, e)) : w.environmentNames.reverse[i]? = some (name, i) := by
  obtain ⟨before, after', hnames, -⟩ := List.lookup_eq_some_iff.mp (getElem?_of_environment? h).1
  have hmem : (name, i) ∈ w.environmentNames.reverse := by
    rw [List.mem_reverse, hnames]
    exact List.mem_append_right _ List.mem_cons_self
  obtain ⟨j, hj⟩ := List.mem_iff_getElem?.mp hmem
  obtain rfl : i = j := hw.number hj
  exact hj

/-- Templates are never removed. -/
theorem Does.templates_suffix {step : Step} {effect : Option Subject} {w' : Workspace} (h : Does g w step effect w') :
    w.templates <:+ w'.templates := by
  cases h with
  | compile _ _ => exact List.suffix_cons _ _
  | _ => exact List.suffix_rfl

/-- The template with a number remains the template with that number. -/
theorem getElem?_reverse_of_suffix {α : Type} {l l' : List α} (h : l <:+ l') {i : Nat} {x : α}
    (hx : l.reverse[i]? = some x) : l'.reverse[i]? = some x := by
  obtain ⟨later, rfl⟩ := h
  rw [List.reverse_append, List.getElem?_append_left (List.getElem?_eq_some_iff.mp hx).1]
  exact hx

/-! ### What concerns a template -/

theorem getElem?_reverse_cons_length {α : Type} (x : α) (l : List α) : (x :: l).reverse[l.length]? = some x := by
  rw [List.reverse_cons, ← List.length_reverse, List.getElem?_concat_length]

theorem getElem?_reverse_cons_of_ne {α : Type} (x : α) {l : List α} {i : Nat} (h : i ≠ l.length) :
    (x :: l).reverse[i]? = l.reverse[i]? := by
  rw [List.reverse_cons]
  rcases Nat.lt_or_gt_of_ne h with hlt | hgt
  · exact List.getElem?_append_left (by rwa [List.length_reverse])
  · rw [List.getElem?_eq_none (by rw [List.length_append, List.length_reverse, List.length_singleton]; omega),
      List.getElem?_eq_none (by rw [List.length_reverse]; omega)]

/-- **Whether a workspace is what of another one concerns a template and its environment**, which are given by their
numbers: the template, the environment, and the name of the environment, as if there were no others. -/
structure Projects (template : Nat) (environment : Option Nat) (w r : Workspace) : Prop where
  settings : r.settings = w.settings
  environments : r.environments = (w.home? environment).toArray
  names : r.environmentNames = ((environment.bind (w.environmentNames.reverse[·]?)).map fun n => (n.1, 0)).toList
  templates : r.templates = (w.templates.reverse[template]?.map fun t => (t.1, t.2.1, t.2.2.map fun _ => 0)).toList

variable {template : Nat} {environment : Option Nat} {w' : Workspace} {step : Step} {effect : Option Subject}

theorem projects_start (template : Nat) (environment : Option Nat) (settings : Settings) :
    Projects template environment (start settings) (start settings) := by
  refine ⟨rfl, ?_, ?_, rfl⟩
  · cases environment <;> rfl
  · cases environment <;> rfl

/-- **What is done to other environments and templates does not concern the template.** -/
theorem Projects.of_not_concerns (hr : Projects template environment w r) (h : Does g w step effect w')
    (hw : w.Numbered) (hother : effect.any (Subject.concerns template environment) = false) :
    Projects template environment w' r := by
  obtain ⟨hsettings, henvironments, hnames, htemplates⟩ := hr
  cases h with
  | nothing m => exact ⟨hsettings, henvironments, hnames, htemplates⟩
  | @make name _ _ e σ _ _ =>
    have hne : environment ≠ some w.environments.size := by simpa [Subject.concerns] using hother
    refine ⟨hsettings, ?_, ?_, htemplates⟩
    · rw [henvironments]
      cases environment with
      | none => rfl
      | some i =>
        have hi : i ≠ w.environments.size := fun hi => hne (congrArg some hi)
        have hget : (w.environments.push e)[i]? = w.environments[i]? := by rw [Array.getElem?_push, if_neg hi]
        exact congrArg Option.toArray hget.symm
    · rw [hnames]
      cases environment with
      | none => rfl
      | some i =>
        have hi : i ≠ w.environmentNames.length := fun hi => hne (by rw [hi, hw.length])
        rw [Option.bind_some, Option.bind_some, getElem?_reverse_cons_of_ne _ hi]
  | @change name f i e e' _ henv _ =>
    have hne : environment ≠ some i := by simpa [Subject.concerns] using hother
    refine ⟨hsettings, ?_, hnames, htemplates⟩
    rw [henvironments]
    cases environment with
    | none => rfl
    | some j =>
      have hj : i ≠ j := fun hi => hne (congrArg some hi.symm)
      have hget : (w.environments.setIfInBounds i e')[j]? = w.environments[j]? := by
        rw [Array.getElem?_setIfInBounds, if_neg hj]
      exact congrArg Option.toArray hget.symm
  | @compile name source c home σ _ _ =>
    have hne : template ≠ w.templates.length := by
      simpa [Subject.concerns, eq_comm] using hother
    refine ⟨hsettings, henvironments, hnames, ?_⟩
    rw [htemplates, getElem?_reverse_cons_of_ne _ hne]

/-- A name that leads to the environment leads to it where there are no others. -/
theorem Projects.environment? {i : Nat} (hr : Projects template (some i) w r) (hw : w.Numbered) {e : Environment}
    (h : w.environment? name = some (i, e)) : r.environment? name = some (0, e) ∧ r.environments = #[e] := by
  have henvironments : r.environments = #[e] := by
    have hhome : w.home? (some i) = some e := (getElem?_of_environment? h).2
    rw [hr.environments, hhome]
    rfl
  have hnames : r.environmentNames = [(name, 0)] := by
    rw [hr.names, Option.bind_some, hw.name_of_environment? h]
    rfl
  refine ⟨?_, henvironments⟩
  rw [Workspace.environment?, hnames, henvironments, List.lookup_cons, beq_self_eq_true]
  rfl

/-- **What is done to the template or its environment is done alike where there are no others.** -/
theorem Projects.of_concerns (hr : Projects template environment w r) (h : Does g w step effect w')
    (hg : g.IsStateless) (hw : w.Numbered) (hthis : effect.any (Subject.concerns template environment) = true)
    (hhome : ∀ t, w'.templates.reverse[template]? = some t → t.2.2 = environment) :
    Projects template environment w' (r.perform g step).2 := by
  cases h with
  | nothing m => cases hthis
  | @make name partials globals e σ hstep hmade =>
    obtain rfl : environment = some w.environments.size := by simpa [Subject.concerns] using hthis
    subst hstep
    -- The environment is not there yet, neither here nor there.
    have henvironments : r.environments = #[] := by
      have hnone : w.home? (some w.environments.size) = none := Array.getElem?_eq_none (Nat.le_refl _)
      rw [hr.environments, hnone]
      rfl
    have hnames : r.environmentNames = [] := by
      have hlength : w.environmentNames.reverse.length = w.environments.size := by
        rw [List.length_reverse, hw.length]
      have hnone : w.environmentNames.reverse[w.environments.size]? = none :=
        List.getElem?_eq_none (Nat.le_of_eq hlength)
      rw [hr.names, Option.bind_some, hnone]
      rfl
    obtain ⟨τ, hτ⟩ := (hg.steady_make partials globals).exists_runFrom hmade ⟨r.memory, #[]⟩
    rw [perform, carryOut, hτ]
    refine ⟨hr.settings, ?_, ?_, hr.templates⟩
    · have hhome' : (w.environments.push e)[w.environments.size]? = some e := Array.getElem?_push_size
      exact (congrArg (Array.push · e) henvironments).trans (congrArg Option.toArray hhome').symm
    · dsimp only
      rw [henvironments, hnames, Option.bind_some, ← hw.length, getElem?_reverse_cons_length]
      rfl
  | @change name f i e e' hperform henv hf =>
    obtain rfl : environment = some i := by simpa [Subject.concerns] using hthis
    obtain ⟨henv', henvironments⟩ := hr.environment? hw henv
    rw [hperform, Workspace.change, henv']
    dsimp only
    rw [hf]
    refine ⟨hr.settings, ?_, hr.names, hr.templates⟩
    have hget : w.environments[i]? = some e := (getElem?_of_environment? henv).2
    have hhome' : (w.environments.setIfInBounds i e')[i]? = some e' := by
      rw [Array.getElem?_setIfInBounds_self_of_lt (Array.getElem?_eq_some_iff.mp hget).1]
    exact (congrArg (Array.setIfInBounds · 0 e') henvironments).trans (congrArg Option.toArray hhome').symm
  | @compile name source c home σ hstep hcompiled =>
    obtain rfl : w.templates.length = template := by simpa [Subject.concerns] using hthis
    obtain rfl : home = environment := hhome _ (getElem?_reverse_cons_length _ _)
    have htemplates : r.templates = [] := by
      have hnone : w.templates.reverse[w.templates.length]? = none :=
        List.getElem?_eq_none (Nat.le_of_eq List.length_reverse)
      rw [hr.templates, hnone]
      rfl
    obtain ⟨τ, hτ⟩ := (steady_compiled g w.settings source).exists_runFrom hcompiled ⟨r.memory, #[]⟩
    rw [← hr.settings] at hτ
    have hcompileAs (number : Option Nat) (hnumber : number = home.map fun _ => 0) :
        Projects w.templates.length home { w with templates := (name, c, home) :: w.templates, memory := σ.memory }
          (r.compileAs g name source number).2 := by
      rw [compileAs, carryOut, hτ]
      refine ⟨hr.settings, hr.environments, hr.names, ?_⟩
      dsimp only
      rw [htemplates, getElem?_reverse_cons_length, hnumber]
      rfl
    rcases hstep with ⟨rfl, rfl⟩ | ⟨environment, i, e, rfl, rfl, henv⟩
    · exact hcompileAs none rfl
    · rw [perform, (hr.environment? hw henv).1]
      exact hcompileAs (some 0) rfl

/-! ### Sessions -/

theorem relevant_cons (w : Workspace) (template : Nat) (environment : Option Nat) (g : Graph) (step : Step)
    (rest : Session) :
    w.relevant template environment ((g, step) :: rest) =
      if (w.effect? g step).any (Subject.concerns template environment) then
        (g, step) :: (w.perform g step).2.relevant template environment rest
      else (w.perform g step).2.relevant template environment rest := by
  have heffect : (w.effect? g step).any (Subject.concerns template environment) =
      ((w.perform g step).1.succeeded && (w.subject? step).any (Subject.concerns template environment)) := by
    rw [effect?]
    cases (w.perform g step).1.succeeded <;> rfl
  rw [heffect]
  rfl

theorem templates_suffix_after {session : Session} (hsession : ∀ s ∈ session, s.2.isCall = true) (w : Workspace) :
    w.templates <:+ (w.after session).templates := by
  induction session generalizing w with
  | nil => exact List.suffix_rfl
  | cons s rest ih =>
    obtain ⟨g, step⟩ := s
    have hstep := (does_perform (g := g) (w := w) (hsession _ List.mem_cons_self)).templates_suffix
    exact hstep.trans (ih (fun s hs => hsession s (List.mem_cons_of_mem _ hs)) (w.perform g step).2)

/-- **After a session a workspace is, as far as the template is concerned, what it is after the relevant steps.** -/
theorem Projects.after {session : Session} (hsession : ∀ s ∈ session, s.1.IsStateless ∧ s.2.isCall = true)
    (hr : Projects template environment w r) (hw : w.Numbered)
    (hhome : ∀ t, (w.after session).templates.reverse[template]? = some t → t.2.2 = environment) :
    Projects template environment (w.after session) (r.after (w.relevant template environment session)) := by
  induction session generalizing w r with
  | nil => exact hr
  | cons s rest ih =>
    obtain ⟨g, step⟩ := s
    obtain ⟨hg, hcall⟩ := hsession _ List.mem_cons_self
    have hrest : ∀ s ∈ rest, s.1.IsStateless ∧ s.2.isCall = true := fun s hs => hsession s (List.mem_cons_of_mem _ hs)
    have hdoes := does_perform (g := g) (w := w) hcall
    rw [relevant_cons]
    split
    · next hthis =>
      refine ih hrest (hr.of_concerns hdoes hg hw hthis fun t ht => hhome t ?_) (hdoes.numbered hw) hhome
      exact getElem?_reverse_of_suffix (templates_suffix_after (fun s hs => (hrest s hs).2) _) ht
    · next hother =>
      exact ih hrest (hr.of_not_concerns hdoes hw (Bool.eq_false_iff.mpr hother)) (hdoes.numbered hw) hhome

/-! ### What is rendered -/

/-- The template that goes by a name is the latest one that does, and the one with its number. -/
theorem getElem?_of_template? {template : Nat} {c : Compiled} (h : w.template? name = some (template, c, environment)) :
    w.templates.lookup name = some (c, environment) ∧
      w.templates.reverse[template]? = some (name, c, environment) := by
  rw [template?] at h
  generalize w.templates = ts at h
  induction ts with
  | nil => cases h
  | cons t ts ih =>
    obtain ⟨n, rest⟩ := t
    rw [List.dropWhile_cons] at h
    by_cases hname : n = name
    · subst hname
      rw [if_neg (by simp)] at h
      cases h
      exact ⟨by rw [List.lookup_cons, beq_self_eq_true], getElem?_reverse_cons_length _ _⟩
    · rw [if_pos (by simpa using hname)] at h
      obtain ⟨hlookup, hget⟩ := ih h
      have hother : (name == n) = false := beq_eq_false_iff_ne.mpr fun hn => hname hn.symm
      exact ⟨by rw [List.lookup_cons, hother]; exact hlookup, getElem?_reverse_of_suffix (List.suffix_cons _ _) hget⟩

/-- What a rendering answers with. -/
theorem result_renderAs (w : Workspace) (t : Operation String) :
    (w.renderAs t).1.result = (t.runFrom ⟨w.memory, #[]⟩).1.map .output := by
  rw [renderAs, carryOut]
  rcases t.runFrom ⟨w.memory, #[]⟩ with ⟨f | s, σ⟩ <;> rfl

/-- The environment of the template is the only one there is. -/
theorem Projects.home? (hr : Projects template environment w r) :
    r.home? (environment.map fun _ => 0) = w.home? environment := by
  cases environment with
  | none => rfl
  | some i =>
    have hget : (w.home? (some i)).toArray[0]? = w.home? (some i) := by cases w.home? (some i) <;> rfl
    rw [← hr.environments] at hget
    exact hget

/-- **What is rendered is the same in a workspace in which there is nothing else.** -/
theorem Projects.result_render (hr : Projects template environment w r) (hg : g.IsStateless) {c : Compiled}
    (htemplate : w.template? name = some (template, c, environment)) (context partials : Value) :
    (w.perform g (.render name context partials)).1.result = (r.perform g (.render name context partials)).1.result ∧
      (w.perform g (.render name context partials)).1.result ≠ .ok .skipped := by
  obtain ⟨hlookup, hget⟩ := getElem?_of_template? htemplate
  have hlookup' : r.templates.lookup name = some (c, environment.map fun _ => 0) := by
    rw [hr.templates, hget, Option.map_some, Option.toList_some, List.lookup_cons, beq_self_eq_true]
  rw [perform, perform, hlookup, hlookup']
  dsimp only
  rw [hr.home?]
  -- The same operation is carried out in both workspaces.
  have hsame {t t' : Operation String} (ht : IsSteady t) (htt' : t = t') :
      (w.renderAs t).1.result = (r.renderAs t').1.result ∧ (w.renderAs t).1.result ≠ .ok .skipped := by
    subst htt'
    have hrun : (t.runFrom ⟨w.memory, #[]⟩).1 = (t.runFrom ⟨r.memory, #[]⟩).1 := ht _ _
    rw [result_renderAs, result_renderAs, hrun]
    refine ⟨rfl, ?_⟩
    cases (t.runFrom ⟨r.memory, #[]⟩).1 <;> nofun
  cases w.home? environment with
  | none => exact hsame (hg.steady_renderAlone _ _ _ _) (by rw [hr.settings])
  | some e => exact hsame (hg.steady_environment_render _ e _ _ _) (by rw [hr.settings])

/-- **Renderings are independent of history.** After any session of calls on data without state, a template renders as
it does after those steps alone that made it, made its environment or changed its environment. No rendering changes an
environment, and no call that fails does. -/
theorem result_render_relevant (settings : Settings) {session : Session}
    (hsession : ∀ s ∈ session, s.1.IsStateless ∧ s.2.isCall = true) {g : Graph} (hg : g.IsStateless) {name : String}
    {template : Nat} {c : Compiled} {environment : Option Nat}
    (htemplate : ((start settings).after session).template? name = some (template, c, environment))
    (context partials : Value) :
    let w := (start settings).after session
    let r := (start settings).after ((start settings).relevant template environment session)
    ((w.perform g (.render name context partials)).1.result =
        (r.perform g (.render name context partials)).1.result ∧
      (w.perform g (.render name context partials)).1.result ≠ .ok .skipped) ∧
    ∀ (v : Workspace) (g' : Graph) (step : Step), step.isCall = true →
      step.renders = true ∨ (v.perform g' step).1.succeeded = false →
      (v.perform g' step).2.environments = v.environments ∧
        (v.perform g' step).2.environmentNames = v.environmentNames := by
  refine ⟨?_, fun v g' step hcall hstep => ?_⟩
  · have hr : Projects template environment ((start settings).after session)
        ((start settings).after ((start settings).relevant template environment session)) := by
      refine (projects_start template environment settings).after hsession (numbered_start settings) fun t ht => ?_
      rw [(getElem?_of_template? htemplate).2] at ht
      cases ht
      rfl
    exact hr.result_render hg htemplate context partials
  · have hunchanged : (v.perform g' step).1.succeeded = false ∨ v.subject? step = none := by
      rcases hstep with hrenders | hfailed
      · right
        cases step <;> first | rfl | cases hrenders
      · exact .inl hfailed
    obtain ⟨m, hm⟩ := perform_eq_of_unchanged hcall hunchanged
    rw [hm]
    exact ⟨rfl, rfl⟩

/-- Partials for one rendering. -/
def diary : Graph := ⟨#[.table .plain [(.text "p", .text "once")]], by decide⟩

/-- A template is made, its environment is changed, in part without success, the template is rendered with partials of
its own, and another environment and another template are made, the one under the same name. -/
def diarySession : Session :=
  [.makeEnvironment "e" .null .null,
    .compile "t" (.text "\x7b\x7bx\x7d\x7d\x7b\x7b>p\x7d\x7d") (some "e"),
    .setGlobal "e" (.text "x") (.text "1"),
    .registerPartials "e" [(.text "p", .int 3)],
    .render "t" .null (.ref 0),
    .registerPartials "e" [(.text "p", .text "P")],
    .makeEnvironment "e" .null .null,
    .setGlobal "e" (.text "x") (.text "2"),
    .compile "u" (.text "\x7b\x7bx\x7d\x7d") (some "e")].map fun step => (diary, step)

/-- The template shows the global and the partial of its environment, which were set after it was made. -/
theorem result_render_relevant_diary :
    let w := (start .initial).after diarySession
    let relevant := (start .initial).relevant 0 (some 0) diarySession
    relevant.map Prod.snd =
        [.makeEnvironment "e" .null .null,
          .compile "t" (.text "\x7b\x7bx\x7d\x7d\x7b\x7b>p\x7d\x7d") (some "e"),
          .setGlobal "e" (.text "x") (.text "1"),
          .registerPartials "e" [(.text "p", .text "P")]] ∧
      (w.perform diary (.render "t" .null .null)).1.result.toOption = some (.output "1P") ∧
      (w.perform diary (.render "t" .null .null)).1.result =
        (((start .initial).after relevant).perform diary (.render "t" .null .null)).1.result := by
  have hdiary : diary.IsStateless := by
    have hnode {place : Nat} {n : Node} (h : diary.nodes[place]? = some n) :
        n = .table .plain [(.text "p", .text "once")] := by
      obtain ⟨hlt, hget⟩ := Array.getElem?_eq_some_iff.mp h
      obtain rfl : place = 0 := Nat.lt_one_iff.mp hlt
      exact hget.symm
    refine ⟨fun place parameters b h => ?_, fun {place factory fresh es} h => ?_⟩
    · cases hnode h
    · cases hnode h
  have hsession : ∀ s ∈ diarySession, s.1.IsStateless ∧ s.2.isCall = true := by
    intro s hs
    obtain ⟨step, hstep, rfl⟩ := List.mem_map.mp hs
    refine ⟨hdiary, ?_⟩
    revert step
    decide
  have htemplate : ((start .initial).after diarySession).template? "t" =
      some (0, ⟨"\x7b\x7bx\x7d\x7d\x7b\x7b>p\x7d\x7d", .leaf (.name "x") (.leaf (.inclusion "p") .nil)⟩, some 0) := by
    decide +kernel
  intro w relevant
  have hrelevant : relevant.map Prod.snd =
      [.makeEnvironment "e" .null .null,
        .compile "t" (.text "\x7b\x7bx\x7d\x7d\x7b\x7b>p\x7d\x7d") (some "e"),
        .setGlobal "e" (.text "x") (.text "1"),
        .registerPartials "e" [(.text "p", .text "P")]] := by
    decide +kernel
  have hshown : (w.perform diary (.render "t" .null .null)).1.result.toOption = some (.output "1P") := by
    decide +kernel
  refine ⟨hrelevant, hshown, ?_⟩
  exact (result_render_relevant .initial hsession hdiary htemplate .null .null).1.1

end Workspace

end Stencil
