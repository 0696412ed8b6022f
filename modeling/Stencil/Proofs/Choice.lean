import Stencil.Log.Choice
import Stencil.Proofs.Runs

/-!
# Setting up the logger, and failing to

A set-up that succeeds leaves the logger with one handler, in the layout that was selected, and with the level that was
given. But it works in steps: the old handlers are removed, then the name of the layout is read and the new handler is
put in place, and then the level is set. Where a step cannot be done, the set-up fails, and what was done before remains
(`Stencil.Logger.setUp_done_or_failed`). So the level is then as before, but the handlers are not: there are none if the
layout cannot be read (`Stencil.Logger.exists_setUp_loses_handlers`), and there is the new one if only the level cannot.
-/

namespace Stencil

open Run Surroundings

/-! ### The name of the layout -/

section

variable {s : Surroundings} {g : Graph} {σ : RunState} {v : Value}

theorem Graph.truth_text {m : Memory} {word : String} (h : word ≠ "") : g.truth m (.text word) = .ok true :=
  congrArg Except.ok (bne_iff_ne.mpr h)

theorem Graph.truth_buffer {m : Memory} {bs : List UInt8} (h : g.node? v = some (.buffer bs)) :
    g.truth m v = .ok !bs.isEmpty := by
  cases v with
  | ref place => rw [truth, h]
  | _ => exact nomatch h

/-- Bytes are no objects with attributes. -/
theorem Graph.ownLower_of_bytes (h : (∃ bs, v = .bytes bs) ∨ ∃ bs, g.node? v = some (.buffer bs)) (answer : Value) :
    ((g.ownLower v).runFrom σ).1 ≠ .ok answer := by
  rcases h with ⟨bs, rfl⟩ | ⟨bs, hnode⟩
  · nofun
  · rw [ownLower, attribute?, hnode]
    nofun

theorem Graph.NamesLayout.exists_truth (h : g.NamesLayout σ v) : ∃ b, g.truth σ.memory v = .ok b := by
  cases h with
  | text name => exact ⟨_, rfl⟩
  | bytes bs => exact ⟨_, rfl⟩
  | buffer h => exact ⟨_, Graph.truth_buffer h⟩
  | own h => exact ⟨_, h⟩
  | missing h => exact ⟨_, h⟩

namespace Surroundings

theorem selects_layoutName (hv : g.truth σ.memory v = .ok false) : s.Selects g σ v s.layoutName := by
  rw [layoutName]
  cases hvariable : s.layoutVariable with
  | none => exact .stream hv fun name h => nomatch hvariable.symm.trans h
  | some name =>
    dsimp only
    by_cases hname : name = ""
    · rw [if_pos hname]
      refine .stream hv fun other h => ?_
      obtain rfl : name = other := Option.some.inj (hvariable.symm.trans h)
      exact hname
    · rw [if_neg hname]
      exact .environment hv hvariable hname

/-- What a value that counts as false selects is told by the surroundings. -/
theorem Selects.eq_layoutName {name : String} (h : s.Selects g σ v name) (hv : g.truth σ.memory v = .ok false) :
    name = s.layoutName := by
  rw [layoutName]
  cases h with
  | given hword => exact nomatch hv.symm.trans (Graph.truth_text hword)
  | own htrue => exact nomatch hv.symm.trans htrue
  | environment _ hvariable hname =>
    rw [hvariable]
    exact (if_neg hname).symm
  | stream _ hempty =>
    cases hvariable : s.layoutVariable with
    | none => rfl
    | some word => exact (if_pos (hempty word hvariable)).symm

/-- What a value that counts as true selects is its text in lower case, or its own lower case. -/
theorem Selects.cases_of_truth {name : String} (h : s.Selects g σ v name) (hv : g.truth σ.memory v = .ok true) :
    (∃ word, v = .text word ∧ name = Text.lower word) ∨ ((g.ownLower v).runFrom σ).1 = .ok (.text name) := by
  cases h with
  | given => exact .inl ⟨_, rfl, rfl⟩
  | own _ h => exact .inr h
  | environment hfalse => exact nomatch hv.symm.trans hfalse
  | stream hfalse => exact nomatch hv.symm.trans hfalse

end Surroundings

namespace Logger

theorem chosenName_of_error {f : Fault} (h : g.truth σ.memory v = .error f) :
    (chosenName g s v).runFrom σ = (.error f, σ) := by
  unfold chosenName
  rw [runFrom_bind_ok (runFrom_memory σ), h]
  rfl

theorem chosenName_of_false (h : g.truth σ.memory v = .ok false) :
    (chosenName g s v).runFrom σ = (.ok s.layoutName, σ) := by
  unfold chosenName
  rw [runFrom_bind_ok (runFrom_memory σ), h]
  rfl

theorem chosenName_of_text {word : String} (h : word ≠ "") :
    ((chosenName g s (.text word)).runFrom σ).1 = .ok (Text.lower word) := by
  unfold chosenName
  rw [runFrom_bind_ok (runFrom_memory σ), Graph.truth_text h]
  rfl

/-- Bytes have a lower case, which is no name that is known. -/
theorem chosenName_of_bytes (h : g.truth σ.memory v = .ok true)
    (hbytes : (∃ bs, v = .bytes bs) ∨ ∃ bs, g.node? v = some (.buffer bs)) :
    ((chosenName g s v).runFrom σ).1 = .ok "" := by
  unfold chosenName
  rw [runFrom_bind_ok (runFrom_memory σ), h]
  rcases hbytes with ⟨bs, rfl⟩ | ⟨bs, hnode⟩
  · rfl
  · cases v with
    | ref place =>
      rw [hnode]
      rfl
    | _ => cases hnode

/-- An object that counts as true is asked for its own lower case. -/
theorem chosenName_of_object (h : g.truth σ.memory v = .ok true) (htext : ∀ word, v ≠ .text word)
    (hbytes : ∀ bs, v ≠ .bytes bs) (hbuffer : ∀ bs, g.node? v ≠ some (.buffer bs)) :
    ((chosenName g s v).runFrom σ).1 =
      match ((g.ownLower v).runFrom σ).1 with
      | .ok (.text name) => .ok name
      | .ok _ => .ok ""
      | .error f => .error f := by
  unfold chosenName
  rw [runFrom_bind_ok (runFrom_memory σ), h, ofExcept_ok, pure_bind, if_pos rfl]
  split
  · exact absurd rfl (htext _)
  · exact absurd rfl (hbytes _)
  · next hnode => exact absurd hnode (hbuffer _)
  · next w _ _ _ _ _ =>
    rcases hown : (g.ownLower w).runFrom σ with ⟨f | answer, τ⟩
    · rw [runFrom_bind_error hown]
    · rw [runFrom_bind_ok hown]
      cases answer <;> rfl

/-- A value that counts as true names a layout if it is text or bytes, or has a lower case of its own. -/
theorem chosenName_of_true (h : g.truth σ.memory v = .ok true) :
    let chosen := ((chosenName g s v).runFrom σ).1
    let own := ((g.ownLower v).runFrom σ).1
    (∃ word, v = .text word ∧ chosen = .ok (Text.lower word)) ∨
    ((∀ word, v ≠ .text word) ∧ (∀ name, own ≠ .ok (.text name)) ∧ g.NamesLayout σ v ∧ chosen = .ok "") ∨
    ((∀ word, v ≠ .text word) ∧ ∃ name, own = .ok (.text name) ∧ chosen = .ok name) ∨
    (¬g.NamesLayout σ v ∧ ∃ f, own = .error f ∧ chosen = .error f) := by
  intro chosen own
  by_cases htext : ∃ word, v = .text word
  · obtain ⟨word, rfl⟩ := htext
    have hword : word ≠ "" := by
      rintro rfl
      cases h
    exact .inl ⟨word, rfl, chosenName_of_text hword⟩
  rw [not_exists] at htext
  by_cases hbytes : (∃ bs, v = .bytes bs) ∨ ∃ bs, g.node? v = some (.buffer bs)
  · have hnames : g.NamesLayout σ v := by
      rcases hbytes with ⟨bs, rfl⟩ | ⟨bs, hnode⟩
      · exact .bytes bs
      · exact .buffer hnode
    exact .inr (.inl ⟨htext, fun _ => Graph.ownLower_of_bytes hbytes _, hnames, chosenName_of_bytes h hbytes⟩)
  rw [not_or, not_exists, not_exists] at hbytes
  obtain ⟨hbytes, hbuffer⟩ := hbytes
  -- What is left is asked for its own lower case, and what it answers decides.
  have hchosen : chosen = _ := chosenName_of_object h htext hbytes hbuffer
  rw [hchosen]
  cases hown : ((g.ownLower v).runFrom σ).1 with
  | error f =>
    refine .inr (.inr (.inr ⟨fun hnames => ?_, f, hown, rfl⟩))
    cases hnames with
    | text => exact htext _ rfl
    | bytes => exact hbytes _ rfl
    | buffer hnode => exact hbuffer _ hnode
    | own _ hanswer => exact nomatch hown.symm.trans hanswer
    | missing hfalse => exact nomatch h.symm.trans hfalse
  | ok answer =>
    by_cases hname : ∃ name, answer = .text name
    · obtain ⟨name, rfl⟩ := hname
      exact .inr (.inr (.inl ⟨htext, name, hown, rfl⟩))
    · rw [not_exists] at hname
      refine .inr (.inl ⟨htext, fun name h => hname name (Except.ok.inj (hown.symm.trans h)), .own h hown, ?_⟩)
      cases answer with
      | text name => exact absurd rfl (hname name)
      | _ => rfl

/-- **The name of the layout is read, or the argument is no name**: it has no lower case, or not even a truth value. -/
theorem chosenName_cases (g : Graph) (s : Surroundings) (v : Value) (σ : RunState) :
    (g.NamesLayout σ v ∧
      ∃ name, ((chosenName g s v).runFrom σ).1 = .ok name ∧ (name = "json" ↔ s.Selects g σ v "json")) ∨
    (¬g.NamesLayout σ v ∧ ∃ f, ((chosenName g s v).runFrom σ).1 = .error f ∧
      (g.truth σ.memory v = .error f ∨ ((g.ownLower v).runFrom σ).1 = .error f)) := by
  cases htruth : g.truth σ.memory v with
  | error f =>
    refine .inr ⟨fun h => ?_, f, congrArg Prod.fst (chosenName_of_error htruth), .inl rfl⟩
    obtain ⟨b, hb⟩ := h.exists_truth
    exact nomatch htruth.symm.trans hb
  | ok b =>
    cases b with
    | false =>
      have hchosen : ((chosenName g s v).runFrom σ).1 = .ok s.layoutName :=
        congrArg Prod.fst (chosenName_of_false htruth)
      refine .inl ⟨.missing htruth, s.layoutName, hchosen, fun h => ?_, fun h => ?_⟩
      · exact h ▸ selects_layoutName htruth
      · exact (h.eq_layoutName htruth).symm
    | true =>
      rcases chosenName_of_true (s := s) htruth with ⟨word, rfl, hname⟩ | ⟨htext, hown, hnames, hname⟩ |
        ⟨htext, name, hown, hname⟩ | ⟨hnames, f, hown, hf⟩
      · refine .inl ⟨.text word, _, hname, fun h => ?_, fun h => ?_⟩
        · have hword : word ≠ "" := by
            rintro rfl
            exact nomatch htruth
          exact h ▸ .given hword
        · rcases h.cases_of_truth htruth with ⟨_, ⟨⟩, hlower⟩ | hnone
          · exact hlower.symm
          · exact nomatch hnone
      · refine .inl ⟨hnames, "", hname, fun h => absurd h (by decide), fun h => ?_⟩
        rcases h.cases_of_truth htruth with ⟨word, hword, -⟩ | hname
        · exact absurd hword (htext word)
        · exact absurd hname (hown _)
      · refine .inl ⟨.own htruth hown, name, hname, fun h => h ▸ .own htruth hown, fun h => ?_⟩
        rcases h.cases_of_truth htruth with ⟨word, hword, -⟩ | hjson
        · exact absurd hword (htext word)
        · obtain ⟨⟩ := Value.text.inj (Except.ok.inj (hown.symm.trans hjson))
          rfl
      · exact .inr ⟨hnames, f, hf, .inr hown⟩

end Logger

/-! ### The layout and the level -/

theorem Surroundings.isSelected_layoutOfName {name : String} (h : name = "json" ↔ s.Selects g σ v "json") :
    s.IsSelected g σ v (s.layoutOfName name) := by
  rw [layoutOfName]
  by_cases hname : name = "json"
  · rw [if_pos hname]
    exact ⟨iff_of_true rfl (h.mp hname), absurd rfl⟩
  · rw [if_neg hname]
    exact ⟨iff_of_false nofun (mt h.mpr hname), fun _ => rfl⟩

theorem givesLevel_levelOfName (name : String) : GivesLevel (.text name) (.number (levelOfName name)) := by
  rw [levelOfName]
  cases h : levelNames.lookup (Text.lower name) with
  | some n => exact .known h
  | none => exact .unknown h

theorem GivesLevel.isLevel {n : LoggerLevel} (h : GivesLevel v n) : v.IsLevel := by cases h <;> trivial

end

namespace Logger

variable (g : Graph) (l : Logger) (level layout : Value) (σ : RunState)

/-- Nothing is done but that the handlers are removed if the layout cannot be read. -/
theorem setUp_of_error {f : Fault} (h : ((chosenName g l.surroundings layout).runFrom σ).1 = .error f) :
    ((setUp g l level layout).runFrom σ).1 = .ok (some f, { l with handlers := [] }) := by
  rw [setUp, runFrom_tryCatch]
  rcases hchosen : (chosenName g l.surroundings layout).runFrom σ with ⟨f' | name, τ⟩
  · rw [hchosen] at h
    cases h
    rw [runFrom_bind_error hchosen]
    rfl
  · rw [hchosen] at h
    cases h

/-- The level is set if it can be read as one, and otherwise there is a fault. -/
theorem setLevel_cases (τ : RunState) :
    (∃ n, GivesLevel level n ∧ (setLevel g l level).runFrom τ = (.ok (none, { l with level := n }), τ)) ∨
    (¬level.IsLevel ∧ ∃ f, (setLevel g l level).runFrom τ = (.ok (some f, l), τ)) := by
  cases level with
  | text word => exact .inl ⟨_, givesLevel_levelOfName word, rfl⟩
  | int n => exact .inl ⟨_, .int n, rfl⟩
  | bool b => exact .inl ⟨_, .bool b, rfl⟩
  | _ =>
    refine .inr ⟨id, ?_⟩
    simp only [setLevel]
    rw [runFrom_bind_ok (runFrom_memory τ)]
    split <;> exact ⟨_, rfl⟩

/-- The handler is in place before the level is looked at. -/
theorem setUp_of_ok {name : String} (h : ((chosenName g l.surroundings layout).runFrom σ).1 = .ok name) :
    let installed := { l with handlers := [l.surroundings.layoutOfName name] }
    (∃ n, GivesLevel level n ∧
      ((setUp g l level layout).runFrom σ).1 = .ok (none, { installed with level := n })) ∨
    (¬level.IsLevel ∧ ∃ f, ((setUp g l level layout).runFrom σ).1 = .ok (some f, installed)) := by
  intro installed
  rcases hchosen : (chosenName g l.surroundings layout).runFrom σ with ⟨f' | name', τ⟩
  · rw [hchosen] at h
    cases h
  · obtain rfl : name' = name := by
      rw [hchosen] at h
      exact Except.ok.inj h
    rw [setUp, runFrom_tryCatch, runFrom_bind_ok hchosen]
    rcases setLevel_cases g installed level τ with ⟨n, hn, hset⟩ | ⟨hlevel, f, hset⟩
    · rw [hset]
      exact .inl ⟨n, hn, rfl⟩
    · rw [hset]
      exact .inr ⟨hlevel, f, rfl⟩

/-- **Setting up the logger succeeds, or fails at the layout, or at the level.** It succeeds if and only if both can be
read, and then there is one handler, in the layout that is selected, and the level is the one that is given. If the
layout cannot be read, there are no handlers left, and if only the level cannot, there is the new one; in both cases the
level is as before. -/
theorem setUp_done_or_failed :
    ∃ failure next, ((setUp g l level layout).runFrom σ).1 = .ok (failure, next) ∧
      next.surroundings = l.surroundings ∧
      ((g.NamesLayout σ layout ∧ level.IsLevel ∧ failure = none ∧ GivesLevel level next.level ∧
          ∃ chosen, l.surroundings.IsSelected g σ layout chosen ∧ next.handlers = [chosen]) ∨
        (¬g.NamesLayout σ layout ∧ (∃ f, failure = some f ∧
            (g.truth σ.memory layout = .error f ∨ ((g.ownLower layout).runFrom σ).1 = .error f)) ∧
          next.level = l.level ∧ next.handlers = []) ∨
        (g.NamesLayout σ layout ∧ ¬level.IsLevel ∧ (∃ f, failure = some f) ∧ next.level = l.level ∧
          ∃ chosen, l.surroundings.IsSelected g σ layout chosen ∧ next.handlers = [chosen])) := by
  rcases chosenName_cases g l.surroundings layout σ with ⟨hnames, name, hname, hjson⟩ | ⟨hnames, f, hf, hcause⟩
  · have hselected := isSelected_layoutOfName hjson
    rcases setUp_of_ok g l level layout σ hname with ⟨n, hn, hsetUp⟩ | ⟨hlevel, f, hsetUp⟩
    · exact ⟨_, _, hsetUp, rfl, .inl ⟨hnames, hn.isLevel, rfl, hn, _, hselected, rfl⟩⟩
    · exact ⟨_, _, hsetUp, rfl, .inr (.inr ⟨hnames, hlevel, ⟨f, rfl⟩, rfl, _, hselected, rfl⟩)⟩
  · exact ⟨_, _, setUp_of_error g l level layout σ hf, rfl, .inr (.inl ⟨hnames, ⟨f, rfl, hcause⟩, rfl, rfl⟩)⟩

/-- **A set-up that fails can lose the handlers**: with a number as the name of the layout there are none left. -/
theorem exists_setUp_loses_handlers :
    let l : Logger := ⟨[.bare], .number 10, ⟨none, none, false⟩⟩
    ∃ next, (setUp .empty l (.text "INFO") (.int 3)).runFrom ⟨.fresh, #[]⟩ =
        (.ok (some (.noAttribute "int" "lower"), next), ⟨.fresh, #[]⟩) ∧
      next.level = l.level ∧ l.handlers = [.bare] ∧ next.handlers = [] :=
  ⟨_, rfl, rfl, rfl, rfl⟩

end Logger

end Stencil
