import Stencil.Proofs.Ensuring

/-!
# Scopes that look alike

A template sees of its scope only what the names stand for, and nothing of values that are empty
(`Stencil.Graph.seen?`). Scopes in which every name is seen alike can therefore be put in each other's place
(`Stencil.Setting.render_eq_of_alike`), and partials that give the same sources as well, though the one be a table and
the other two tables in front of each other. Both renderings are the same run: they have the same effects, and end in
the same text or in the same fault.
-/

namespace Stencil

open Run

namespace Graph

/-- What a template sees of a value that a name resolves to: what it returns if it is called, unless that is empty. -/
def see (g : Graph) (v : Value) : Run (Option Value) := do
  let w ← g.invoke v
  if ← g.empty? w then return none else return some w

/-- What a template sees of a name. -/
def seen? (g : Graph) (scope : Scope) (name : String) : Run (Option Value) := g.resolve scope name >>= g.see

/-- **Whether every name is seen alike in two scopes.** -/
def Alike (g : Graph) (scope scope' : Scope) : Prop := ∀ name, g.seen? scope name = g.seen? scope' name

/-- What a plain block shows if its name stands for a value that is not empty. -/
def renderSeen (g : Graph) (scope : Scope) (stack : Stack) (body : Scope → Stack → Run String) (v : Value) :
    Run String :=
  match g.elements? v with
  | some xs =>
    concatMap (fun x => do
      let inner ← g.elementScope x
      body inner (← stack.enter Stack.iteratedFrames)) xs.toList
  | none => do
    let inner ← g.blockScope scope v
    body inner (← stack.enter Stack.plainFrames)

variable {g : Graph}

theorem alike_refl (g : Graph) (scope : Scope) : g.Alike scope scope := fun _ => rfl

theorem Alike.symm {scope scope' : Scope} (h : g.Alike scope scope') : g.Alike scope' scope := fun name => (h name).symm

theorem Alike.trans {scope scope' scope'' : Scope} (h : g.Alike scope scope') (h' : g.Alike scope' scope'') :
    g.Alike scope scope'' := fun name => (h name).trans (h' name)

/-- Scopes in which names resolve alike look alike. -/
theorem alike_of_resolve {scope scope' : Scope} (h : ∀ name, g.resolve scope name = g.resolve scope' name) :
    g.Alike scope scope' := by
  intro name
  rw [seen?, seen?, h name]

/-! ### Leaves and blocks -/

/-- To go on after a value was tested is to go on with what is seen of it. -/
theorem seen?_bind {α : Type} (scope : Scope) (name : String) (k : Option Value → Run α) :
    g.seen? scope name >>= k =
      g.lookup scope name >>= fun v => g.empty? v >>= fun empty => if empty then k none else k (some v) := by
  rw [seen?, lookup, bind_assoc, bind_assoc]
  refine bind_congr fun v => ?_
  rw [see, bind_assoc]
  refine bind_congr fun w => ?_
  rw [bind_assoc]
  refine bind_congr fun empty => ?_
  cases empty <;> exact pure_bind _ _

theorem interpolate_eq (scope : Scope) (name : String) :
    g.interpolate scope name = g.seen? scope name >>= fun v? => v?.elim (pure "") g.show? := by
  rw [seen?_bind]
  rfl

theorem renderPlain_eq_seen (scope : Scope) (stack : Stack) (name : String) (body : Scope → Stack → Run String) :
    g.renderPlain scope stack name body =
      g.seen? scope name >>= fun v? => v?.elim (pure "") (g.renderSeen scope stack body) := by
  rw [seen?_bind]
  rfl

theorem renderInverted_eq_seen (scope : Scope) (stack : Stack) (name : String) (body : Scope → Stack → Run String) :
    g.renderInverted scope stack name body =
      g.seen? scope name >>= fun v? => v?.elim (stack.enter Stack.invertedFrames >>= body scope) fun _ => pure "" := by
  rw [seen?_bind]
  rfl

section

variable {body body' : Scope → Stack → Run String}
  (hbody : ∀ scope scope' stack, g.Alike scope scope' → body scope stack = body' scope' stack)

include hbody

/-- Inside a block that shows a value, the scopes are the same or those around the block. -/
theorem renderSeen_congr {scope scope' : Scope} (h : g.Alike scope scope') (stack : Stack) (v : Value) :
    g.renderSeen scope stack body v = g.renderSeen scope' stack body' v := by
  have hinside {inner inner' : Scope} (hinner : g.Alike inner inner') (frames : Nat) :
      stack.enter frames >>= body inner = stack.enter frames >>= body' inner' :=
    bind_congr fun stack' => hbody inner inner' stack' hinner
  rw [renderSeen, renderSeen]
  cases g.elements? v with
  | some xs =>
    have helement : (fun x => g.elementScope x >>= fun inner => stack.enter Stack.iteratedFrames >>= body inner) =
        fun x => g.elementScope x >>= fun inner => stack.enter Stack.iteratedFrames >>= body' inner :=
      funext fun x => bind_congr fun inner => hinside (g.alike_refl inner) _
    exact congrArg (concatMap · xs.toList) helement
  | none =>
    dsimp only
    rw [blockScope, blockScope, bind_assoc, bind_assoc]
    refine bind_congr fun m => ?_
    rw [bind_assoc, bind_assoc]
    refine bind_congr fun view? => ?_
    cases view? with
    | some view => exact hinside (g.alike_refl (.value v)) _
    | none => exact hinside h _

theorem renderBlock_congr {scope scope' : Scope} (h : g.Alike scope scope') (kind : BlockKind) (name : String)
    (stack : Stack) :
    renderBlock g kind name body scope stack = renderBlock g kind name body' scope' stack := by
  cases kind with
  | plain =>
    rw [renderBlock, renderBlock, renderPlain_eq_seen, renderPlain_eq_seen, h name]
    refine bind_congr fun v? => ?_
    cases v? with
    | none => rfl
    | some v => exact renderSeen_congr hbody h stack v
  | inverted =>
    rw [renderBlock, renderBlock, renderInverted_eq_seen, renderInverted_eq_seen, h name]
    refine bind_congr fun v? => ?_
    cases v? with
    | none => exact bind_congr fun stack' => hbody scope scope' stack' h
    | some v => rfl

end

/-! ### Templates -/

/-- **A template renders alike in scopes that look alike**, if its partials do. -/
theorem renderParts_congr {inclusion inclusion' : String → Scope → Stack → Run String}
    (hinclusion : ∀ name scope scope' stack, g.Alike scope scope' →
      inclusion name scope stack = inclusion' name scope' stack)
    (t : Template) {scope scope' : Scope} (h : g.Alike scope scope') (stack : Stack) :
    renderParts g inclusion t scope stack = renderParts g inclusion' t scope' stack := by
  -- The scopes stay free in the induction, since blocks change them.
  induction t generalizing scope scope' stack with
  | nil => rfl
  | leaf l rest ih =>
    have hleaf : renderLeaf g inclusion l scope stack = renderLeaf g inclusion' l scope' stack := by
      cases l with
      | text s => rfl
      | name n => rw [renderLeaf, renderLeaf, interpolate_eq, interpolate_eq, h n]
      | raw n => rw [renderLeaf, renderLeaf, interpolate_eq, interpolate_eq, h n]
      | inclusion n => exact hinclusion n scope scope' stack h
    rw [renderParts, renderParts, hleaf, ih h stack]
  | block kind name body rest ihbody ihrest =>
    have hblock := renderBlock_congr (fun inner inner' stack' hinner => ihbody hinner stack') h kind name stack
    rw [renderParts, renderParts, hblock, ihrest h stack]

end Graph

namespace Setting

variable {g : Graph} {settings : Settings} {partials partials' : Scope}
  (hsource : ∀ name, (Setting.mk g settings partials).source? name = (Setting.mk g settings partials').source? name)

include hsource

/-- A partial is shown alike if its template is rendered alike. -/
theorem inclusion_congr (name : String) (depth : Nat) {body body' : Template → Run String}
    (hbody : ∀ t, body t = body' t) :
    (do
      match ← (Setting.mk g settings partials).source? name with
      | none => return ""
      | some source => (Setting.mk g settings partials).expand name source depth body) =
    (do
      match ← (Setting.mk g settings partials').source? name with
      | none => return ""
      | some source => (Setting.mk g settings partials').expand name source depth body') := by
  obtain rfl : body = body' := funext hbody
  rw [hsource name]
  rfl

theorem renderWithin_eq_of_alike (left : Nat) (t : Template) {scope scope' : Scope} (h : g.Alike scope scope')
    (stack : Stack) :
    (Setting.mk g settings partials).renderWithin left t scope stack =
      (Setting.mk g settings partials').renderWithin left t scope' stack := by
  induction left generalizing t scope scope' stack with
  | zero =>
    refine Graph.renderParts_congr (fun name inner inner' stack' _ => ?_) t h stack
    rw [hsource name]
  | succ left ih =>
    refine Graph.renderParts_congr (fun name inner inner' stack' hinner => ?_) t h stack
    exact inclusion_congr hsource name _ fun t => bind_congr fun inside => ih t hinner inside

/-- **A template renders alike in scopes that look alike, with partials that give the same sources.** -/
theorem render_eq_of_alike (t : Template) {scope scope' : Scope} (h : g.Alike scope scope') (stack : Stack) :
    (Setting.mk g settings partials).render t scope stack =
      (Setting.mk g settings partials').render t scope' stack := by
  refine Graph.renderParts_congr (fun name inner inner' stack' hinner => ?_) t h stack
  refine inclusion_congr hsource name 1 fun t => congrArg (containOverflow name) ?_
  exact bind_congr fun inside => renderWithin_eq_of_alike hsource _ t hinner inside

end Setting

end Stencil
