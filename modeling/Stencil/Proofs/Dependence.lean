import Stencil.Proofs.Ensuring
import Stencil.Proofs.Resolution

/-!
# What a template shows depends on the names that it looks up

The names of a template are those that it looks up in the scope that it is rendered in, and in the scopes that its
blocks make. Two scopes in which all of them stand for the same data need not have anything else in common. Inside a
block they may be left for scopes that hold the same data altogether, or kept; in both cases the names stand for the
same data again, and that is what the induction on the template carries (`Stencil.agrees_renderParts`).

There is one way in which looking up a name can change what other names stand for: a table with a default may store an
entry. So what is shown in the two scopes is only compared where no table gains an entry (`Stencil.Run.Agrees`). As
tables never lose entries, a rendering that leaves them as they were has left them so all the way.
-/

namespace Stencil

open Stencil.Graph (Correspondence)

open Run

/-! ### Runs that keep what they find -/

theorem Graph.Evolves.gained_isPrefix {g : Graph} {m m' : Memory} (h : g.Evolves m m') (i : Nat) :
    m.gained i <+: m'.gained i := by
  induction h with
  | refl => exact List.prefix_rfl
  | call place _ ih => exact ih
  | @gain m' place _ _ _ key _ _ ih =>
    rw [Memory.gain]
    dsimp only
    split
    · next hi =>
      rw [← hi]
      exact ih.trans (List.prefix_append _ _)
    · exact ih

/-- If tables have gained nothing in the end, then they have gained nothing on the way. -/
theorem Graph.Evolves.gained_eq {g : Graph} {m m' m'' : Memory} (h : g.Evolves m m') (h' : g.Evolves m' m'')
    (hkept : m''.gained = m.gained) : m'.gained = m.gained := by
  funext i
  have hback : m'.gained i <+: m.gained i := hkept ▸ h'.gained_isPrefix i
  exact hback.eq_of_length (Nat.le_antisymm hback.length_le (h.gained_isPrefix i).length_le)

namespace Run

variable {α β γ δ : Type} {g : Graph} {m m' : Memory}

/-- Whether a run changes the memory in the ways in which memories evolve. -/
def Grows (g : Graph) (r : Run α) : Prop := ∀ m, Ensures g m (fun _ => True) r

theorem Grows.evolves {r : Run α} (h : Grows g r) (σ : RunState) : g.Evolves σ.memory (r.runFrom σ).2.memory :=
  (h σ.memory σ .refl).1

theorem IsQuiet.grows {r : Run α} (h : IsQuiet g r) : Grows g r := fun _ => h.ensures

theorem Grows.bind {r : Run α} {k : α → Run β} (hr : Grows g r) (hk : ∀ x, Grows g (k x)) : Grows g (r >>= k) :=
  fun m => (hr m).bind fun x _ => hk x m

/-- A run that keeps what it finds keeps it in its first part. -/
theorem Grows.kept_of_bind {r : Run α} {k : α → Run β} (hr : Grows g r) (hk : ∀ x, Grows g (k x)) {σ : RunState}
    (hkept : ((r >>= k).runFrom σ).2.memory.gained = σ.memory.gained) :
    (r.runFrom σ).2.memory.gained = σ.memory.gained := by
  have hfirst := hr.evolves σ
  rcases hrun : r.runFrom σ with ⟨f | x, σ'⟩
  · rw [runFrom_bind_error hrun] at hkept
    exact hkept
  · rw [runFrom_bind_ok hrun] at hkept
    rw [hrun] at hfirst
    exact hfirst.gained_eq ((hk x).evolves σ') hkept

/-- **Whether two runs end alike if both keep what they find.** They start with tables that have gained what they have
in `m` and in `m'`, and nothing is said where a table gains more. -/
def Agrees (m m' : Memory) (P : α → β → Prop) (r : Run α) (r' : Run β) : Prop :=
  ∀ σ τ, σ.memory.gained = m.gained → τ.memory.gained = m'.gained →
    (r.runFrom σ).2.memory.gained = m.gained → (r'.runFrom τ).2.memory.gained = m'.gained →
    EndAlike P (r.runFrom σ).1 (r'.runFrom τ).1

theorem agrees_pure {P : α → β → Prop} {x : α} {y : β} (h : P x y) : Agrees m m' P (pure x) (pure y) :=
  fun _ _ _ _ _ _ => .ok h

theorem Agrees.mono {P Q : α → β → Prop} {r : Run α} {r' : Run β} (h : Agrees m m' P r r')
    (hPQ : ∀ x y, P x y → Q x y) : Agrees m m' Q r r' :=
  fun σ τ hσ hτ hkept hkept' => (h σ τ hσ hτ hkept hkept').mono hPQ

theorem Corresponds.agrees {c : g.Correspondence} {P : α → β → Prop} {r : Run α} {r' : Run β}
    (h : Corresponds c P r r') (hm : c.Remembers m m') : Agrees m m' P r r' := by
  intro σ τ hσ hτ _ _
  refine (h σ τ fun i j hij => ?_).1
  rw [hσ, hτ]
  exact hm i j hij

/-- Two runs in sequence end alike if both keep what they find, the first parts of them included. -/
theorem Agrees.endAlike_bind {P : α → β → Prop} {Q : γ → δ → Prop} {r : Run α} {r' : Run β} {k : α → Run γ}
    {k' : β → Run δ} (h : Agrees m m' P r r') (hkk' : ∀ x y, P x y → Agrees m m' Q (k x) (k' y)) {σ τ : RunState}
    (hσ : σ.memory.gained = m.gained) (hτ : τ.memory.gained = m'.gained)
    (hfirst : (r.runFrom σ).2.memory.gained = m.gained) (hfirst' : (r'.runFrom τ).2.memory.gained = m'.gained)
    (hkept : ((r >>= k).runFrom σ).2.memory.gained = m.gained)
    (hkept' : ((r' >>= k').runFrom τ).2.memory.gained = m'.gained) :
    EndAlike Q ((r >>= k).runFrom σ).1 ((r' >>= k').runFrom τ).1 := by
  have hend := h σ τ hσ hτ hfirst hfirst'
  rcases hrun : r.runFrom σ with ⟨res, σ'⟩
  rcases hrun' : r'.runFrom τ with ⟨res', τ'⟩
  rw [hrun] at hend hfirst
  rw [hrun'] at hend hfirst'
  cases hend with
  | error f =>
    rw [runFrom_bind_error hrun, runFrom_bind_error hrun']
    exact .error f
  | ok hxy =>
    rw [runFrom_bind_ok hrun] at hkept ⊢
    rw [runFrom_bind_ok hrun'] at hkept' ⊢
    exact hkk' _ _ hxy σ' τ' hfirst hfirst' hkept hkept'

theorem Agrees.bind {P : α → β → Prop} {Q : γ → δ → Prop} {r : Run α} {r' : Run β} {k : α → Run γ} {k' : β → Run δ}
    (h : Agrees m m' P r r') (hgrows : Grows g r) (hgrows' : Grows g r') (hk : ∀ x, Grows g (k x))
    (hk' : ∀ y, Grows g (k' y)) (hkk' : ∀ x y, P x y → Agrees m m' Q (k x) (k' y)) :
    Agrees m m' Q (r >>= k) (r' >>= k') := by
  intro σ τ hσ hτ hkept hkept'
  have hfirst := hgrows.kept_of_bind hk (hkept.trans hσ.symm)
  have hfirst' := hgrows'.kept_of_bind hk' (hkept'.trans hτ.symm)
  exact h.endAlike_bind hkk' hσ hτ (hfirst.trans hσ) (hfirst'.trans hτ) hkept hkept'

theorem Grows.insideIteration {r : Run α} (h : Grows g r) : Grows g (insideIteration r) :=
  fun m => (h m).insideIteration

theorem Agrees.insideIteration {P : α → β → Prop} {r : Run α} {r' : Run β} (h : Agrees m m' P r r') :
    Agrees m m' P (insideIteration r) (insideIteration r') := by
  intro σ τ hσ hτ hkept hkept'
  rw [runFrom_insideIteration] at hkept hkept' ⊢
  rw [runFrom_insideIteration]
  exact (h σ τ hσ hτ hkept hkept').mapError Fault.outOfIteration

/-- Whether a run changes nothing at all. -/
def Reads (r : Run α) : Prop := ∀ σ, (r.runFrom σ).2 = σ

theorem reads_ofExcept (r : Except Fault α) : Reads (ofExcept r) := fun σ => congrArg Prod.snd (runFrom_ofExcept r σ)

theorem Reads.bind {r : Run α} {k : α → Run β} (hr : Reads r) (hk : ∀ x, Reads (k x)) : Reads (r >>= k) :=
  kept_bind id hr hk

/-- After runs that change nothing, nothing has to be known of how what follows changes the memory. -/
theorem Agrees.reads_bind {P : α → β → Prop} {Q : γ → δ → Prop} {r : Run α} {r' : Run β} {k : α → Run γ}
    {k' : β → Run δ} (h : Agrees m m' P r r') (hr : Reads r) (hr' : Reads r')
    (hkk' : ∀ x y, P x y → Agrees m m' Q (k x) (k' y)) : Agrees m m' Q (r >>= k) (r' >>= k') := by
  intro σ τ hσ hτ
  have hfirst : (r.runFrom σ).2.memory.gained = m.gained := by rw [hr σ, hσ]
  have hfirst' : (r'.runFrom τ).2.memory.gained = m'.gained := by rw [hr' τ, hτ]
  exact h.endAlike_bind hkk' hσ hτ hfirst hfirst'

end Run

/-! ### Blocks and leaves -/

section Parts

variable {g : Graph} {m m' : Memory}

theorem reads_enter (stack : Stack) (frames : Nat) : Reads (stack.enter frames) := by
  cases stack with
  | none => exact fun _ => rfl
  | some n =>
    rw [Stack.enter]
    split <;> exact fun _ => rfl

theorem reads_empty? (v : Value) : Reads (g.empty? v) := fun σ => congrArg Prod.snd (g.runFrom_empty? v σ)

theorem reads_elementScope (v : Value) : Reads (g.elementScope v) := by
  refine Reads.bind (fun _ => rfl) fun m => (reads_ofExcept _).bind fun view? => ?_
  split <;> exact fun _ => rfl

theorem reads_blockScope (scope : Scope) (v : Value) : Reads (g.blockScope scope v) := by
  refine Reads.bind (fun _ => rfl) fun m => (reads_ofExcept _).bind fun view? => ?_
  split <;> exact fun _ => rfl

theorem grows_enter (stack : Stack) (frames : Nat) : Grows g (stack.enter frames) := fun _ => ensures_enter stack frames

theorem agrees_enter (stack : Stack) (frames : Nat) : Agrees m m' Eq (stack.enter frames) (stack.enter frames) := by
  cases stack with
  | none => exact agrees_pure rfl
  | some n =>
    rw [Stack.enter]
    split
    · exact agrees_pure rfl
    · exact fun _ _ _ _ _ _ => .error _

theorem grows_concatMap {f : Value → Run String} (h : ∀ v, Grows g (f v)) (vs : List Value) :
    Grows g (Graph.concatMap f vs) := fun m => ensures_concatMap isKept_true (fun v => h v m) vs

/-- Two texts after each other. -/
theorem agrees_append {r₁ r₁' r₂ r₂' : Run String} (h₁ : Agrees m m' Eq r₁ r₁') (h₂ : Agrees m m' Eq r₂ r₂')
    (hgrows₁ : Grows g r₁) (hgrows₁' : Grows g r₁') (hgrows₂ : Grows g r₂) (hgrows₂' : Grows g r₂') :
    Agrees m m' Eq (r₁ >>= fun s => r₂ >>= fun rest => pure (s ++ rest))
      (r₁' >>= fun s => r₂' >>= fun rest => pure (s ++ rest)) := by
  have hjoin (s rest : String) : Grows g (pure (s ++ rest)) := (isQuiet_pure _).grows
  refine h₁.bind hgrows₁ hgrows₁' (fun s => hgrows₂.bind (hjoin s)) (fun s => hgrows₂'.bind (hjoin s)) ?_
  rintro s _ rfl
  refine h₂.bind hgrows₂ hgrows₂' (hjoin s) (hjoin s) ?_
  rintro rest _ rfl
  exact agrees_pure rfl

theorem agrees_concatMap {P : Value → Value → Prop} {f f' : Value → Run String} (hf : ∀ v, Grows g (f v))
    (hf' : ∀ v, Grows g (f' v)) (h : ∀ v w, P v w → Agrees m m' Eq (f v) (f' w)) {vs ws : List Value}
    (hvs : List.Forall₂ P vs ws) : Agrees m m' Eq (Graph.concatMap f vs) (Graph.concatMap f' ws) := by
  induction hvs with
  | nil => exact agrees_pure rfl
  | @cons v w vs ws hvw _ ih =>
    exact agrees_append (h v w hvw).insideIteration ih (hf v).insideIteration (hf' w).insideIteration
      (grows_concatMap hf vs) (grows_concatMap hf' ws)

/-- Whether the names that a template looks up stand for the same data in two scopes. -/
def AgreeOn (g : Graph) (m m' : Memory) (t : Template) (scope scope' : Scope) : Prop :=
  ∀ item ∈ t.items, ∀ name, item.lookedUp = some name →
    Agrees m m' (g.Same m m') (g.lookup scope name) (g.lookup scope' name)

theorem grows_shown (v : Value) : Grows g (do if ← g.empty? v then return "" else g.show? v) := by
  refine (g.isQuiet_empty? v).grows.bind fun empty => ?_
  split
  · exact (isQuiet_pure _).grows
  · exact (g.isQuiet_show? v).grows

theorem agrees_interpolate {scope scope' : Scope} {name : String}
    (h : Agrees m m' (g.Same m m') (g.lookup scope name) (g.lookup scope' name)) :
    Agrees m m' Eq (g.interpolate scope name) (g.interpolate scope' name) := by
  refine h.bind (g.isQuiet_lookup scope name).grows (g.isQuiet_lookup scope' name).grows grows_shown grows_shown ?_
  rintro v w ⟨c, hm, hvw⟩
  refine Corresponds.agrees (c := c) ((Correspondence.corresponds_empty? hvw).bind ?_) hm
  rintro empty _ rfl
  split
  · exact corresponds_pure rfl
  · exact Correspondence.corresponds_show? hvw

/-- Scopes that hold the same data agree on all names. -/
theorem agreeOn_of_corresponds (hg : g.RepliesConstantly) {c : g.Correspondence} (hm : c.Remembers m m')
    {scope scope' : Scope} (h : scope.Corresponds c.Related scope') (t : Template) : AgreeOn g m m' t scope scope' :=
  fun _ _ name _ =>
    ((Correspondence.corresponds_lookup hg h name).agrees hm).mono fun _ _ hvw => ⟨c, hm, hvw⟩

section Blocks

variable {body : Scope → Stack → Run String} {t : Template} (hg : g.RepliesConstantly)
  (hgrows : ∀ scope stack, Grows g (body scope stack))
  (hbody : ∀ scope scope' stack, AgreeOn g m m' t scope scope' →
    Agrees m m' Eq (body scope stack) (body scope' stack))

include hbody

theorem agrees_enter_body {scope scope' : Scope} (h : AgreeOn g m m' t scope scope') (stack : Stack) (frames : Nat) :
    Agrees m m' Eq (stack.enter frames >>= body scope) (stack.enter frames >>= body scope') := by
  refine (agrees_enter stack frames).reads_bind (reads_enter stack frames) (reads_enter stack frames) ?_
  rintro stack' _ rfl
  exact hbody scope scope' stack' h

theorem agrees_renderInvertedValue {scope scope' : Scope} (h : AgreeOn g m m' t scope scope') (stack : Stack)
    {v w : Value} (hvw : g.Same m m' v w) :
    Agrees m m' Eq (g.renderInvertedValue scope stack body v) (g.renderInvertedValue scope' stack body w) := by
  obtain ⟨c, hm, hvw⟩ := hvw
  have hempty : Agrees m m' Eq (g.empty? v) (g.empty? w) := (Correspondence.corresponds_empty? hvw).agrees hm
  refine hempty.reads_bind (reads_empty? v) (reads_empty? w) ?_
  rintro empty _ rfl
  split
  · exact agrees_enter_body hbody h stack _
  · exact agrees_pure rfl

include hg hgrows

/-- **A plain block shows the same if its name stands for the same data.** Inside it the scopes hold the same data, or
they are the scopes around it. -/
theorem agrees_renderPlainValue {scope scope' : Scope} (h : AgreeOn g m m' t scope scope') (stack : Stack)
    {v w : Value} (hvw : g.Same m m' v w) :
    Agrees m m' Eq (g.renderPlainValue scope stack body v) (g.renderPlainValue scope' stack body w) := by
  obtain ⟨c, hm, hvw⟩ := hvw
  have hempty : Agrees m m' Eq (g.empty? v) (g.empty? w) := (Correspondence.corresponds_empty? hvw).agrees hm
  have hinside {inner inner' : Scope} (hinner : inner.Corresponds c.Related inner') (frames : Nat) :
      Agrees m m' Eq (stack.enter frames >>= body inner) (stack.enter frames >>= body inner') :=
    agrees_enter_body hbody (agreeOn_of_corresponds hg hm hinner t) stack frames
  refine hempty.reads_bind (reads_empty? v) (reads_empty? w) ?_
  rintro empty _ rfl
  split
  · exact agrees_pure rfl
  · have helements := Correspondence.rel_elements? hvw
    generalize g.elements? v = xs?, g.elements? w = ys? at helements
    cases helements with
    | some hxs =>
      have helement (x : Value) : Grows g (g.elementScope x >>= fun inner =>
          stack.enter Stack.iteratedFrames >>= body inner) :=
        (g.isQuiet_elementScope x).grows.bind fun inner => (grows_enter stack _).bind (hgrows inner)
      refine agrees_concatMap helement helement (fun x y hxy => ?_) (Correspondence.forall₂_toList hxs)
      have hscope := (Correspondence.corresponds_elementScope hxy).agrees hm
      exact hscope.reads_bind (reads_elementScope x) (reads_elementScope y) fun _ _ hinner => hinside hinner _
    | none =>
      have hscope := (Correspondence.corresponds_blockScope scope scope' hvw).agrees hm
      refine hscope.reads_bind (reads_blockScope scope v) (reads_blockScope scope' w) ?_
      rintro inner inner' (hinner | ⟨rfl, rfl⟩)
      · exact hinside hinner _
      · exact agrees_enter_body hbody h stack _

/-- A block shows the same if its name stands for the same data. -/
theorem agrees_renderBlock {scope scope' : Scope} (h : AgreeOn g m m' t scope scope') {name : String}
    (hname : Agrees m m' (g.Same m m') (g.lookup scope name) (g.lookup scope' name)) (kind : BlockKind)
    (stack : Stack) :
    Agrees m m' Eq (renderBlock g kind name body scope stack) (renderBlock g kind name body scope' stack) := by
  have hlookup (scope : Scope) : Grows g (g.lookup scope name) := (g.isQuiet_lookup scope name).grows
  have hensures (m : Memory) (scope : Scope) (stack : Stack) : Ensures g m (fun _ => True) (body scope stack) :=
    hgrows scope stack m
  cases kind with
  | plain =>
    have hvalue (scope : Scope) (v : Value) : Grows g (g.renderPlainValue scope stack body v) :=
      fun m => ensures_renderPlainValue isKept_true (hensures m) scope stack v
    rw [renderBlock, renderBlock, Graph.renderPlain_eq, Graph.renderPlain_eq]
    refine hname.bind (hlookup scope) (hlookup scope') (hvalue scope) (hvalue scope') fun v w hvw => ?_
    exact agrees_renderPlainValue hg hgrows hbody h stack hvw
  | inverted =>
    have hvalue (scope : Scope) (v : Value) : Grows g (g.renderInvertedValue scope stack body v) :=
      fun m => ensures_renderInvertedValue isKept_true (hensures m) scope stack v
    rw [renderBlock, renderBlock, Graph.renderInverted_eq, Graph.renderInverted_eq]
    refine hname.bind (hlookup scope) (hlookup scope') (hvalue scope) (hvalue scope') fun v w hvw => ?_
    exact agrees_renderInvertedValue hbody h stack hvw

end Blocks

/-! ### Templates -/

section Templates

variable {inclusion : String → Scope → Stack → Run String}
  (hgrows : ∀ name scope stack, Grows g (inclusion name scope stack))
  (hinclusion : ∀ name scope scope' stack,
    Agrees m m' Eq (inclusion name scope stack) (inclusion name scope' stack))

include hgrows in
theorem grows_renderLeaf (l : Leaf) (scope : Scope) (stack : Stack) : Grows g (renderLeaf g inclusion l scope stack) :=
  fun m => ensures_renderLeaf (fun name scope stack => hgrows name scope stack m) l.shows_true scope stack

include hgrows in
theorem grows_renderParts (t : Template) (scope : Scope) (stack : Stack) :
    Grows g (renderParts g inclusion t scope stack) := fun m =>
  ensures_renderParts isKept_true (fun name scope stack => hgrows name scope stack m) (fun l _ => l.shows_true) scope
    stack

include hinclusion in
theorem agrees_renderLeaf {l : Leaf} {scope scope' : Scope}
    (h : ∀ name, (Item.leaf l).lookedUp = some name →
      Agrees m m' (g.Same m m') (g.lookup scope name) (g.lookup scope' name)) (stack : Stack) :
    Agrees m m' Eq (renderLeaf g inclusion l scope stack) (renderLeaf g inclusion l scope' stack) := by
  cases l with
  | text s => exact agrees_pure rfl
  | name n =>
    have hinterpolate (scope : Scope) : Grows g (g.interpolate scope n) := (g.isQuiet_interpolate scope n).grows
    have hescape (s : String) : Grows g (pure (Text.escape s)) := (isQuiet_pure _).grows
    refine (agrees_interpolate (h n rfl)).bind (hinterpolate scope) (hinterpolate scope') hescape hescape ?_
    rintro s _ rfl
    exact agrees_pure rfl
  | raw n => exact agrees_interpolate (h n rfl)
  | inclusion n => exact hinclusion n scope scope' stack

include hgrows hinclusion in
/-- **A template shows the same in two scopes if the names that it looks up stand for the same data in them.** The
scopes inside blocks are followed by the induction; they agree because the scopes around them do, or because they hold
the same data themselves. -/
theorem agrees_renderParts (hg : g.RepliesConstantly) {t : Template} {scope scope' : Scope}
    (h : AgreeOn g m m' t scope scope') (stack : Stack) :
    Agrees m m' Eq (renderParts g inclusion t scope stack) (renderParts g inclusion t scope' stack) := by
  induction t generalizing scope scope' stack with
  | nil => exact agrees_pure rfl
  | leaf l rest ih =>
    have hleaf := agrees_renderLeaf hinclusion (fun name hname => h (.leaf l) List.mem_cons_self name hname) stack
    have hrest := ih (fun item hitem => h item (List.mem_cons_of_mem _ hitem)) stack
    exact agrees_append hleaf hrest (grows_renderLeaf hgrows l scope stack) (grows_renderLeaf hgrows l scope' stack)
      (grows_renderParts hgrows rest scope stack) (grows_renderParts hgrows rest scope' stack)
  | block kind name body rest ihbody ihrest =>
    have hbodyScopes : AgreeOn g m m' body scope scope' := fun item hitem =>
      h item (List.mem_cons_of_mem _ (List.mem_append_left _ hitem))
    have hrestScopes : AgreeOn g m m' rest scope scope' := fun item hitem =>
      h item (List.mem_cons_of_mem _ (List.mem_append_right _ hitem))
    have hbody := grows_renderParts hgrows body
    have hgrowsBlock (scope : Scope) : Grows g (renderBlock g kind name (renderParts g inclusion body) scope stack) :=
      fun m => ensures_renderBlock isKept_true (fun scope stack => hbody scope stack m) kind name scope stack
    have hblock := agrees_renderBlock hg hbody (fun _ _ stack hinner => ihbody hinner stack) hbodyScopes
      (h (.block kind name) List.mem_cons_self name rfl) kind stack
    exact agrees_append hblock (ihrest hrestScopes stack) (hgrowsBlock scope) (hgrowsBlock scope')
      (grows_renderParts hgrows rest scope stack) (grows_renderParts hgrows rest scope' stack)

end Templates

end Parts

/-! ### What is shown depends on the names that are looked up -/

namespace Graph

variable {g : Graph}

/-- A value is the same data as itself. -/
theorem same_refl (m : Memory) (v : Value) : g.Same m m v v :=
  ⟨.identity g, Correspondence.identity_remembers rfl, Value.corresponds_refl (fun _ => rfl) v⟩

/-- What a name stands for does not depend on which callables have been called before. -/
theorem RepliesConstantly.lookup_eq (hg : g.RepliesConstantly) (scope : Scope) (name : String) {σ τ : RunState}
    (h : σ.memory.gained = τ.memory.gained) :
    ((g.lookup scope name).runFrom σ).1 = ((g.lookup scope name).runFrom τ).1 := by
  have hscope : scope.Corresponds (Correspondence.identity g).Related scope :=
    Scope.corresponds_refl (fun _ => rfl) scope
  have hmemory : (Correspondence.identity g).Remembers σ.memory τ.memory := Correspondence.identity_remembers h
  exact ((Correspondence.corresponds_lookup hg hscope name σ τ hmemory).1.mono fun _ _ hvw => hvw.eq).eq

/-- Names that stand for the same data at the beginning do so as long as no table gains an entry. -/
theorem RepliesConstantly.agreeOn (hg : g.RepliesConstantly) {t : Template} {scope scope' : Scope} {σ τ : RunState}
    (h : ∀ name ∈ t.variableNames, EndAlike (g.Same σ.memory τ.memory) ((g.lookup scope name).runFrom σ).1
      ((g.lookup scope' name).runFrom τ).1) :
    AgreeOn g σ.memory τ.memory t scope scope' := by
  intro item hitem name hname σ' τ' hσ' hτ' _ _
  have hmem : name ∈ t.variableNames := List.mem_eraseDups.mpr (List.mem_filterMap.mpr ⟨item, hitem, hname⟩)
  rw [hg.lookup_eq scope name hσ', hg.lookup_eq scope' name hτ']
  exact h name hmem

end Graph

namespace Setting

/-- Without partials there is no source. -/
theorem runFrom_source?_of_null {s : Setting} (hpartials : s.partials = .value .null) (name : String) (σ : RunState) :
    (s.source? name).runFrom σ = (.ok none, σ) := by
  rw [source?, runFrom_bind_ok (runFrom_memory σ), hpartials]
  rfl

/-- **What a template shows depends on the names that it looks up, and on nothing else**, if it is rendered without
partials, callables return the same value each time, and no table gains an entry: in two scopes in which these names
stand for the same data, or end in the same fault, it ends in the same text or the same fault. -/
theorem render_eq_of_lookup (s : Setting) (t : Template) (scope scope' : Scope) (stack : Stack) (σ τ : RunState)
    (hpartials : s.partials = .value .null) (hreplies : s.graph.RepliesConstantly)
    (hlookup : ∀ name ∈ t.variableNames, EndAlike (s.graph.Same σ.memory τ.memory)
      ((s.graph.lookup scope name).runFrom σ).1 ((s.graph.lookup scope' name).runFrom τ).1)
    (hkept : ((s.render t scope stack).runFrom σ).2.memory.gained = σ.memory.gained)
    (hkept' : ((s.render t scope' stack).runFrom τ).2.memory.gained = τ.memory.gained) :
    ((s.render t scope stack).runFrom σ).1 = ((s.render t scope' stack).runFrom τ).1 := by
  -- Without partials an inclusion shows nothing, wherever it stands.
  have hnone (name : String) (σ : RunState) := runFrom_source?_of_null hpartials name σ
  refine EndAlike.eq (agrees_renderParts (fun name scope stack => ?_) (fun name scope scope' stack => ?_) hreplies
    (hreplies.agreeOn hlookup) stack σ τ rfl rfl hkept hkept')
  · intro m σ' hσ'
    rw [runFrom_bind_ok (hnone name σ')]
    exact ⟨hσ', fun _ _ => trivial⟩
  · intro σ' τ' _ _ _ _
    rw [runFrom_bind_ok (hnone name σ'), runFrom_bind_ok (hnone name τ')]
    exact .ok rfl

/-- A table and an object with fields, each with a list of a text and a callable. -/
def pages : Setting where
  graph := ⟨#[.table .plain [(.text "items", .ref 1), (.text "name", .ref 2), (.text "secret", .text "s")],
    .sequence .list [.text "x", .ref 2], .callable (some []) (.replies (.text "n") [.text "n"]),
    .struct "Page" [("name", .text "n"), ("items", .ref 4)],
    .sequence .list [.text "x", .ref 5], .callable (some []) (.replies (.text "n") [.text "n"])], by decide⟩
  settings := .initial
  partials := .value .null

/-- The two lists and the two callables are the same data. -/
def pagesCorrespondence : pages.graph.Correspondence where
  Related i j := i = 1 ∧ j = 4 ∨ i = 2 ∧ j = 5
  node := by
    rintro i j (⟨rfl, rfl⟩ | ⟨rfl, rfl⟩)
    · exact .some (.sequence .list (.cons (.scalar nofun) (.cons (.ref (.inr ⟨rfl, rfl⟩)) .nil)))
    · exact .some (.callable _ (.replies (.scalar nofun) (.cons (.scalar nofun) .nil)))
  unique := by omega

/-- The items, and the name. -/
def pageTemplate : Template :=
  .block .plain "items" (.leaf (.name ".") (.leaf (.text ",") .nil)) (.leaf (.name "name") .nil)

theorem pages_repliesConstantly : pages.graph.RepliesConstantly := by
  intro place parameters b hnode
  have hmem := Array.mem_of_getElem? hnode
  simp only [pages, List.mem_toArray, List.mem_cons, List.not_mem_nil, or_false] at hmem
  rcases hmem with h | h | h | h | h | h <;> cases h <;> exact fun v hv => List.mem_singleton.mp hv

/-- The callables of both pages are called, those in the table once more than the ones in the object. -/
theorem render_eq_of_lookup_pages :
    let start : RunState := ⟨.fresh, #[]⟩
    let rendered (scope : Scope) := (pages.render pageTemplate scope Stack.ordinary).runFrom start
    pages.graph.RepliesConstantly ∧
      (∀ name ∈ pageTemplate.variableNames, EndAlike (pages.graph.Same .fresh .fresh)
        ((pages.graph.lookup (.value (.ref 0)) name).runFrom start).1
        ((pages.graph.lookup (.value (.ref 3)) name).runFrom start).1) ∧
      (rendered (.value (.ref 0))).2.memory.called = [2, 2] ∧ (rendered (.value (.ref 3))).2.memory.called = [5] ∧
      (rendered (.value (.ref 0))).1 = .ok "x,n,n" ∧
      (rendered (.value (.ref 0))).1 = (rendered (.value (.ref 3))).1 := by
  have hlookup : ∀ name ∈ pageTemplate.variableNames, EndAlike (pages.graph.Same .fresh .fresh)
      ((pages.graph.lookup (.value (.ref 0)) name).runFrom ⟨.fresh, #[]⟩).1
      ((pages.graph.lookup (.value (.ref 3)) name).runFrom ⟨.fresh, #[]⟩).1 := by
    have hnames : pageTemplate.variableNames = ["items", ".", "name"] := by decide
    have hnothing : pagesCorrespondence.Remembers .fresh .fresh := fun _ _ _ => .nil
    intro name hname
    simp only [hnames, List.mem_cons, List.not_mem_nil, or_false] at hname
    rcases hname with rfl | rfl | rfl
    · exact .ok ⟨pagesCorrespondence, hnothing, .ref (.inl ⟨rfl, rfl⟩)⟩
    · exact .ok ⟨pagesCorrespondence, hnothing, .scalar nofun⟩
    · exact .ok ⟨pagesCorrespondence, hnothing, .scalar nofun⟩
  refine ⟨pages_repliesConstantly, hlookup, rfl, rfl, rfl, ?_⟩
  exact render_eq_of_lookup pages pageTemplate (.value (.ref 0)) (.value (.ref 3)) Stack.ordinary ⟨.fresh, #[]⟩
    ⟨.fresh, #[]⟩ rfl pages_repliesConstantly hlookup rfl rfl

/-! ### Where what is shown depends on more

A chain of tables that begins with a table with a default stores an entry when a key is looked up that only a later
table has. Looking up a name then changes what another name stands for, in one of the two scopes and not in the
other. -/

/-- A table with a default that `x` stands for in two tables. In the first one `y` is a chain that begins with it, in
the second one `y` is a table like it will become. -/
def storing : Setting where
  graph := ⟨#[.table (.defaulting .int (.int 0)) [], .table .plain [(.text "k", .int 1)], .chain [.ref 0, .ref 1],
    .table .plain [(.text "x", .ref 0), (.text "y", .ref 2)], .table .plain [(.text "k", .int 0)],
    .table .plain [(.text "x", .ref 0), (.text "y", .ref 4)]], by decide⟩
  settings := .initial
  partials := .value .null

/-- An entry of `y`, and a block that is there if `x` has entries. -/
def storingTemplate : Template := .leaf (.name "y.k") (.block .plain "x" (.leaf (.text "X") .nil) .nil)

/-- **Where a table gains an entry, what is shown depends on more than what the names stand for at the beginning.** -/
theorem exists_render_ne_of_lookup :
    let start : RunState := ⟨.fresh, #[]⟩
    storing.partials = .value .null ∧ storing.graph.RepliesConstantly ∧
      (∀ name ∈ storingTemplate.variableNames, EndAlike (storing.graph.Same .fresh .fresh)
        ((storing.graph.lookup (.value (.ref 3)) name).runFrom start).1
        ((storing.graph.lookup (.value (.ref 5)) name).runFrom start).1) ∧
      ((storing.render storingTemplate (.value (.ref 3)) Stack.ordinary).runFrom start).1 = .ok "X" ∧
      ((storing.render storingTemplate (.value (.ref 5)) Stack.ordinary).runFrom start).1 = .ok "" := by
  refine ⟨rfl, ?_, ?_, rfl, rfl⟩
  · intro place parameters b hnode
    have hmem := Array.mem_of_getElem? hnode
    simp [storing] at hmem
  · have hnames : storingTemplate.variableNames = ["y.k", "x"] := by decide
    intro name hname
    simp only [hnames, List.mem_cons, List.not_mem_nil, or_false] at hname
    rcases hname with rfl | rfl
    · exact .ok (Graph.same_refl .fresh (.int 0))
    · exact .ok (Graph.same_refl .fresh (.ref 0))

end Setting

end Stencil
