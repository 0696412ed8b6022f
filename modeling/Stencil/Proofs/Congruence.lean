import Stencil.Safety
import Stencil.Visit
import Stencil.Proofs.Runs

/-!
# Relations between two ways of rendering

Often one rendering is compared with another one that differs only in how partials are rendered, or in how much stack
there is. Then one relation between runs is kept all the way, and the walk over the template is always the same: texts
are put one after the other, questions are asked of the data, and stack is taken for blocks. A relation that is
compatible with these three (`Stencil.Run.IsCongruence`) relates the renderings of a template as soon as it relates
those of its partials (`Stencil.Run.IsCongruence.renderParts`).

The two stacks do not have to be the same. How they are related is said by `Room`, for a number of frames that may
still be taken: that number is known beforehand, as the blocks of a template take no more than `Stencil.Template.frames`
frames inside each other.

Where it is the templates behind the partials that are compared, which contain partials again, the relation has to be
compatible with asking for their sources and with what is reported, too (`Stencil.Run.IsInnerCongruence`).
-/

namespace Stencil

/-- **The questions that a template asks of its data.** -/
inductive Graph.Asks (g : Graph) : {α : Type} → Run α → Prop
  /-- What to show for a name. -/
  | interpolate (scope : Scope) (name : String) : Asks g (g.interpolate scope name)
  /-- What the name of a block stands for. -/
  | lookup (scope : Scope) (name : String) : Asks g (g.lookup scope name)
  /-- Whether that is empty. -/
  | empty? (v : Value) : Asks g (g.empty? v)
  /-- The scope inside a block that is rendered for an element. -/
  | elementScope (v : Value) : Asks g (g.elementScope v)
  /-- The scope inside a block that is rendered once. -/
  | blockScope (scope : Scope) (v : Value) : Asks g (g.blockScope scope v)

theorem Graph.Asks.isQuiet {g : Graph} {α : Type} {question : Run α} (h : g.Asks question) :
    Run.IsQuiet g question := by
  cases h with
  | interpolate scope name => exact g.isQuiet_interpolate scope name
  | lookup scope name => exact g.isQuiet_lookup scope name
  | empty? v => exact g.isQuiet_empty? v
  | elementScope v => exact g.isQuiet_elementScope v
  | blockScope scope v => exact g.isQuiet_blockScope scope v

namespace Run

variable {g : Graph} {Room : Nat → Stack → Stack → Prop} {Related : Run String → Run String → Prop}

/-- **Whether a relation is compatible with what rendering is made of.** -/
structure IsCongruence (g : Graph) (Room : Nat → Stack → Stack → Prop) (Related : Run String → Run String → Prop) :
    Prop where
  text (s : String) : Related (pure s) (pure s)
  append {r r' u u' : Run String} : Related r r' → Related u u' →
    Related (do let s ← r; let rest ← u; return s ++ rest) (do let s ← r'; let rest ← u'; return s ++ rest)
  ask {α : Type} {question : Run α} {k k' : α → Run String} : g.Asks question → (∀ x, Related (k x) (k' x)) →
    Related (question >>= k) (question >>= k')
  iterate {r r' : Run String} : Related r r' → Related (insideIteration r) (insideIteration r')
  /-- Room for more frames is room for fewer. -/
  less {n n' : Nat} {stack stack' : Stack} : n ≤ n' → Room n' stack stack' → Room n stack stack'
  enter {frames n : Nat} {stack stack' : Stack} {k k' : Stack → Run String} : Room (frames + n) stack stack' →
    (∀ inner inner', Room n inner inner' → Related (k inner) (k' inner')) →
    Related (stack.enter frames >>= k) (stack'.enter frames >>= k')

namespace IsCongruence

variable (h : IsCongruence g Room Related)

include h

theorem concatMap {f f' : Value → Run String} (hf : ∀ v, Related (f v) (f' v)) (vs : List Value) :
    Related (Graph.concatMap f vs) (Graph.concatMap f' vs) := by
  induction vs with
  | nil => exact h.text ""
  | cons v vs ih => exact h.append (h.iterate (hf v)) ih

section Blocks

variable {body body' : Scope → Stack → Run String} {n : Nat}
  (hbody : ∀ scope stack stack', Room n stack stack' → Related (body scope stack) (body' scope stack'))

include hbody

theorem renderPlain {stack stack' : Stack} (hroom : Room (BlockKind.plain.frames + n) stack stack') (scope : Scope)
    (name : String) :
    Related (g.renderPlain scope stack name body) (g.renderPlain scope stack' name body') := by
  -- Whether the body is rendered for elements or once, it takes no more frames than are asked for.
  have hinside (inner : Scope) {frames : Nat} (hframes : frames ≤ BlockKind.plain.frames) :
      Related (stack.enter frames >>= body inner) (stack'.enter frames >>= body' inner) :=
    h.enter (h.less (Nat.add_le_add_right hframes n) hroom) (hbody inner)
  refine h.ask (.lookup scope name) fun v => h.ask (.empty? v) fun empty => ?_
  split
  · exact h.text ""
  · split
    · exact h.concatMap (fun x => h.ask (.elementScope x) fun inner => hinside inner (Nat.le_max_right _ _)) _
    · exact h.ask (.blockScope scope v) fun inner => hinside inner (Nat.le_max_left _ _)

theorem renderInverted {stack stack' : Stack} (hroom : Room (BlockKind.inverted.frames + n) stack stack')
    (scope : Scope) (name : String) :
    Related (g.renderInverted scope stack name body) (g.renderInverted scope stack' name body') := by
  refine h.ask (.lookup scope name) fun v => h.ask (.empty? v) fun empty => ?_
  split
  · exact h.enter hroom (hbody scope)
  · exact h.text ""

theorem renderBlock {kind : BlockKind} {stack stack' : Stack} (hroom : Room (kind.frames + n) stack stack')
    (name : String) (scope : Scope) :
    Related (renderBlock g kind name body scope stack) (renderBlock g kind name body' scope stack') := by
  cases kind with
  | plain => exact h.renderPlain hbody hroom scope name
  | inverted => exact h.renderInverted hbody hroom scope name

end Blocks

/-- **Renderings of a template are related if those of its partials are**, where `n` more frames may be taken by the
partials than by the blocks. -/
theorem renderParts {inclusion inclusion' : String → Scope → Stack → Run String} {n : Nat} {t : Template}
    (hinclusion : ∀ name, .leaf (.inclusion name) ∈ t.items → ∀ scope stack stack', Room n stack stack' →
      Related (inclusion name scope stack) (inclusion' name scope stack'))
    {scope : Scope} {stack stack' : Stack} (hroom : Room (t.frames + n) stack stack') :
    Related (renderParts g inclusion t scope stack) (renderParts g inclusion' t scope stack') := by
  induction t generalizing scope stack stack' with
  | nil => exact h.text ""
  | leaf l rest ih =>
    refine h.append ?_ (ih (fun name hname => hinclusion name (List.mem_cons_of_mem _ hname)) hroom)
    cases l with
    | text s => exact h.text s
    | name n => exact h.ask (.interpolate scope n) fun s => h.text (Text.escape s)
    | raw n =>
      have hshown := h.ask (.interpolate scope n) h.text
      rwa [bind_pure] at hshown
    | inclusion n => exact hinclusion n List.mem_cons_self scope stack stack' (h.less (Nat.le_add_left _ _) hroom)
  | block kind name body rest ihbody ihrest =>
    have hbody : ∀ scope stack stack', Room (body.frames + n) stack stack' →
        Related (Stencil.renderParts g inclusion body scope stack)
          (Stencil.renderParts g inclusion' body scope stack') := by
      intro scope stack stack' hinside
      refine ihbody (fun name hname => ?_) hinside
      exact hinclusion name (List.mem_cons_of_mem _ (List.mem_append_left _ hname))
    have hrest : Related (Stencil.renderParts g inclusion rest scope stack)
        (Stencil.renderParts g inclusion' rest scope stack') := by
      refine ihrest (fun name hname => ?_) (h.less (Nat.add_le_add_right (Nat.le_max_right _ _) n) hroom)
      exact hinclusion name (List.mem_cons_of_mem _ (List.mem_append_right _ hname))
    have hblock : Room (kind.frames + (body.frames + n)) stack stack' := by
      refine h.less ?_ hroom
      rw [← Nat.add_assoc]
      exact Nat.add_le_add_right (Nat.le_max_left _ _) n
    exact h.append (h.renderBlock hbody hblock name scope) hrest

end IsCongruence

/-! ### Partials inside partials -/

/-- **Whether a relation is compatible with what partials are made of** as well, where the stacks are the same. Inside a
partial all events may be reported but the one that the stack ran out. -/
structure IsInnerCongruence (s : Setting) (Related : Run String → Run String → Prop) : Prop extends
    IsCongruence s.graph (fun _ stack stack' => stack = stack') Related where
  source {name : String} {k k' : Option String → Run String} : (∀ source?, Related (k source?) (k' source?)) →
    Related (s.source? name >>= k) (s.source? name >>= k')
  report {e : Event} {r r' : Run String} : (∀ name, e ≠ .stackExceeded name) → Related r r' →
    Related (report e >>= fun _ => r) (report e >>= fun _ => r')

namespace IsInnerCongruence

variable {s : Setting} (h : IsInnerCongruence s Related)

include h

theorem debug {e : Event} {r r' : Run String} (he : ∀ name, e ≠ .stackExceeded name) (hr : Related r r') :
    Related (s.debug e >>= fun _ => r) (s.debug e >>= fun _ => r') := by
  rw [Setting.debug]
  split
  · exact h.report he hr
  · exact hr

/-- Partials are related if that is so of what is done with their templates. -/
theorem inclusion {body body' : Template → Run String} (hbody : ∀ t, Related (body t) (body' t)) (name : String)
    (depth : Nat) :
    Related
      (do
        match ← s.source? name with
        | none => return ""
        | some source => s.expand name source depth body)
      (do
        match ← s.source? name with
        | none => return ""
        | some source => s.expand name source depth body') := by
  refine h.source fun source? => ?_
  cases source? with
  | none => exact h.text ""
  | some source =>
    dsimp only
    rw [Setting.expand, Setting.expand]
    split
    · exact h.report nofun (h.text "")
    · exact h.debug nofun (h.debug nofun (hbody _))

/-- **What is rendered inside partials is related to itself.** -/
theorem renderWithin (left : Nat) (t : Template) (scope : Scope) (stack : Stack) :
    Related (s.renderWithin left t scope stack) (s.renderWithin left t scope stack) := by
  -- The template changes with every partial; what becomes less is the number of partials that are left.
  induction left generalizing t scope stack with
  | zero =>
    rw [Setting.renderWithin_eq]
    refine h.renderParts (n := 0) ?_ rfl
    rintro name - scope stack _ rfl
    refine h.source fun source? => ?_
    cases source? with
    | none => exact h.text ""
    | some source => exact h.report nofun (h.text "")
  | succ left ih =>
    rw [Setting.renderWithin_eq]
    refine h.renderParts (n := 0) ?_ rfl
    rintro name - scope stack _ rfl
    refine h.inclusion (fun body => h.enter (n := 0) rfl ?_) name _
    rintro inner _ rfl
    exact ih body scope inner

/-- A partial inside others, unless it is refused. -/
theorem inclusionWithin {left : Nat} (hleft : 1 ≤ left) (name : String) (scope : Scope) (stack : Stack) :
    Related (s.inclusionWithin left name scope stack) (s.inclusionWithin left name scope stack) := by
  obtain ⟨left, rfl⟩ := Nat.exists_eq_add_of_le' hleft
  refine h.inclusion (fun body => h.enter (n := 0) rfl ?_) name _
  rintro inner _ rfl
  exact h.renderWithin left body scope inner

end IsInnerCongruence

end Run

end Stencil
