import Stencil.Proofs.Runs

/-!
# What holds of everything that a template shows

What a template renders is put together from the texts of its leaves. A property of texts that holds of all of these,
and that texts keep when they are put one after the other (`Stencil.IsKept`), holds of the whole
(`Stencil.ensures_renderParts`), whatever the data is.

That is said by `Stencil.Run.Ensures`, a specification of runs with a condition on the values that they end in. A run
that ends in a fault meets it as well; what it says of every run is how the memory evolves.
-/

namespace Stencil

namespace Run

variable {α β : Type} {g : Graph} {m : Memory}

/-! ### What the value of a run is -/

/-- **Whether a run that starts after `m` gives only values as said by `P`**, if it gives one at all. -/
def Ensures (g : Graph) (m : Memory) (P : α → Prop) (r : Run α) : Prop :=
  ∀ σ, g.Evolves m σ.memory → g.Evolves m (r.runFrom σ).2.memory ∧ ∀ x, (r.runFrom σ).1 = .ok x → P x

theorem ensures_pure {P : α → Prop} {x : α} (h : P x) : Ensures g m P (pure x) := by
  refine fun _ hσ => ⟨hσ, ?_⟩
  rintro y ⟨⟩
  exact h

theorem ensures_report (e : Event) : Ensures g m (fun _ => True) (report e) := fun _ hσ => ⟨hσ, fun _ _ => trivial⟩

/-- What is read from the memory is what it may have become. -/
theorem ensures_memory : Ensures g m (g.Evolves m) memory := by
  refine fun σ hσ => ⟨hσ, ?_⟩
  rintro m' ⟨⟩
  exact hσ

/-- What follows a run has to do with such values only as the run gives. -/
theorem Ensures.bind {P : α → Prop} {Q : β → Prop} {r : Run α} {k : α → Run β} (hr : Ensures g m P r)
    (hk : ∀ x, P x → Ensures g m Q (k x)) : Ensures g m Q (r >>= k) := by
  intro σ hσ
  obtain ⟨hevolved, hvalue⟩ := hr σ hσ
  rcases hrun : r.runFrom σ with ⟨f | x, σ'⟩
  · rw [hrun] at hevolved
    rw [runFrom_bind_error hrun]
    exact ⟨hevolved, nofun⟩
  · rw [hrun] at hevolved hvalue
    rw [runFrom_bind_ok hrun]
    exact hk x (hvalue x rfl) σ' hevolved

/-- A property may be replaced by one that follows from it. -/
theorem Ensures.mono {P Q : α → Prop} {r : Run α} (h : Ensures g m P r) (hPQ : ∀ x, P x → Q x) : Ensures g m Q r :=
  fun σ hσ => ⟨(h σ hσ).1, fun x hx => hPQ x ((h σ hσ).2 x hx)⟩

/-- An iteration has to do with faults alone, and values leave it as they are. -/
theorem Ensures.insideIteration {P : α → Prop} {r : Run α} (h : Ensures g m P r) :
    Ensures g m P (insideIteration r) := by
  intro σ hσ
  obtain ⟨hevolved, hvalue⟩ := h σ hσ
  rw [runFrom_insideIteration]
  exact ⟨hevolved, fun x hx => hvalue x (mapError_eq_ok_iff.mp hx)⟩

/-- Of the value of a quiet run nothing has to be said. -/
theorem IsQuiet.ensures {r : Run α} (h : IsQuiet g r) : Ensures g m (fun _ => True) r :=
  fun σ hσ => ⟨hσ.trans (h.evolves σ), fun _ _ => trivial⟩

end Run

open Run

/-! ### Properties that texts keep when they are put together -/

/-- Whether empty text has a property, and texts that have it keep it when one is put after the other. -/
structure IsKept (P : String → Prop) : Prop where
  empty : P ""
  append {s t : String} : P s → P t → P (s ++ t)

/-- Whether what a leaf shows has a property, whatever the data is. A partial shows nothing of its own. -/
def Leaf.Shows (P : String → Prop) : Leaf → Prop
  | .text s => P s
  | .name _ => ∀ s, P (Text.escape s)
  | .raw _ => ∀ s, P s
  | .inclusion _ => True

theorem isKept_true : IsKept fun _ => True := ⟨trivial, fun _ _ => trivial⟩

theorem Leaf.shows_true (l : Leaf) : l.Shows fun _ => True := by
  cases l with
  | text s => trivial
  | name n => exact fun _ => trivial
  | raw n => exact fun _ => trivial
  | inclusion n => trivial

namespace Graph

/-- What a plain block shows if its name stands for a value. -/
def renderPlainValue (g : Graph) (scope : Scope) (stack : Stack) (body : Scope → Stack → Run String) (v : Value) :
    Run String := do
  if ← g.empty? v then return ""
  match g.elements? v with
  | some xs =>
    concatMap (fun x => do
      let inner ← g.elementScope x
      body inner (← stack.enter Stack.iteratedFrames)) xs.toList
  | none =>
    let inner ← g.blockScope scope v
    body inner (← stack.enter Stack.plainFrames)

/-- What an inverted block shows if its name stands for a value. -/
def renderInvertedValue (g : Graph) (scope : Scope) (stack : Stack) (body : Scope → Stack → Run String) (v : Value) :
    Run String := do
  if ← g.empty? v then body scope (← stack.enter Stack.invertedFrames) else return ""

/-- A plain block looks its name up, and the rest depends on the value alone. -/
theorem renderPlain_eq (g : Graph) (scope : Scope) (stack : Stack) (name : String) (body : Scope → Stack → Run String) :
    g.renderPlain scope stack name body = g.lookup scope name >>= g.renderPlainValue scope stack body := rfl

theorem renderInverted_eq (g : Graph) (scope : Scope) (stack : Stack) (name : String)
    (body : Scope → Stack → Run String) :
    g.renderInverted scope stack name body = g.lookup scope name >>= g.renderInvertedValue scope stack body := rfl

end Graph

section Parts

variable {g : Graph} {m : Memory} {P : String → Prop}

theorem ensures_enter (stack : Stack) (frames : Nat) : Ensures g m (fun _ => True) (stack.enter frames) := by
  cases stack with
  | none => exact ensures_pure trivial
  | some n =>
    rw [Stack.enter]
    split
    · exact ensures_pure trivial
    · exact (isQuiet_fail _).ensures

/-- The texts of the elements are put one after the other, which the property survives. -/
theorem ensures_concatMap (hP : IsKept P) {f : Value → Run String} (h : ∀ v, Ensures g m P (f v)) (vs : List Value) :
    Ensures g m P (Graph.concatMap f vs) := by
  induction vs with
  | nil => exact ensures_pure hP.empty
  | cons v vs ih =>
    refine (h v).insideIteration.bind fun s hs => ih.bind fun rest hrest => ?_
    exact ensures_pure (hP.append hs hrest)

section Blocks

variable {body : Scope → Stack → Run String} (hP : IsKept P) (hbody : ∀ scope stack, Ensures g m P (body scope stack))

include hP hbody

theorem ensures_renderPlainValue (scope : Scope) (stack : Stack) (v : Value) :
    Ensures g m P (g.renderPlainValue scope stack body v) := by
  have hinside (inner : Scope) (frames : Nat) : Ensures g m P (stack.enter frames >>= body inner) :=
    (ensures_enter stack frames).bind fun stack' _ => hbody inner stack'
  refine (g.isQuiet_empty? v).ensures.bind fun empty _ => ?_
  split
  · exact ensures_pure hP.empty
  · split
    · exact ensures_concatMap hP (fun x => (g.isQuiet_elementScope x).ensures.bind fun inner _ => hinside inner _) _
    · exact (g.isQuiet_blockScope scope v).ensures.bind fun inner _ => hinside inner _

theorem ensures_renderInvertedValue (scope : Scope) (stack : Stack) (v : Value) :
    Ensures g m P (g.renderInvertedValue scope stack body v) := by
  refine (g.isQuiet_empty? v).ensures.bind fun empty _ => ?_
  split
  · exact (ensures_enter stack _).bind fun stack' _ => hbody scope stack'
  · exact ensures_pure hP.empty

/-- **What a block shows has the property if what its body shows has.** It shows the body once, for each element, or not
at all. -/
theorem ensures_renderBlock (kind : BlockKind) (name : String) (scope : Scope) (stack : Stack) :
    Ensures g m P (renderBlock g kind name body scope stack) := by
  have hlookup : Ensures g m (fun _ => True) (g.lookup scope name) := (g.isQuiet_lookup scope name).ensures
  cases kind with
  | plain =>
    rw [renderBlock, Graph.renderPlain_eq]
    exact hlookup.bind fun v _ => ensures_renderPlainValue hP hbody scope stack v
  | inverted =>
    rw [renderBlock, Graph.renderInverted_eq]
    exact hlookup.bind fun v _ => ensures_renderInvertedValue hP hbody scope stack v

end Blocks

/-- What a leaf shows has the property by assumption, as does what a partial shows. -/
theorem ensures_renderLeaf {inclusion : String → Scope → Stack → Run String}
    (hinclusion : ∀ name scope stack, Ensures g m P (inclusion name scope stack)) {l : Leaf} (hl : l.Shows P)
    (scope : Scope) (stack : Stack) : Ensures g m P (renderLeaf g inclusion l scope stack) := by
  cases l with
  | text s => exact ensures_pure hl
  | name n => exact (g.isQuiet_interpolate scope n).ensures.bind fun s _ => ensures_pure (hl s)
  | raw n =>
    intro σ hσ
    exact ⟨((g.isQuiet_interpolate scope n).ensures σ hσ).1, fun s _ => hl s⟩
  | inclusion n => exact hinclusion n scope stack

/-- **What a template renders has a property if what its leaves and its partials show has.** -/
theorem ensures_renderParts (hP : IsKept P) {inclusion : String → Scope → Stack → Run String}
    (hinclusion : ∀ name scope stack, Ensures g m P (inclusion name scope stack)) {t : Template}
    (ht : ∀ l, .leaf l ∈ t.items → l.Shows P) (scope : Scope) (stack : Stack) :
    Ensures g m P (renderParts g inclusion t scope stack) := by
  induction t generalizing scope stack with
  | nil => exact ensures_pure hP.empty
  | leaf l rest ih =>
    refine (ensures_renderLeaf hinclusion (ht l List.mem_cons_self) scope stack).bind fun s hs => ?_
    refine (ih (fun l' hl' => ht l' (List.mem_cons_of_mem _ hl')) scope stack).bind fun tail htail => ?_
    exact ensures_pure (hP.append hs htail)
  | block kind name body rest ihbody ihrest =>
    have hbody := ihbody fun l hl => ht l (List.mem_cons_of_mem _ (List.mem_append_left _ hl))
    have hrest := ihrest fun l hl => ht l (List.mem_cons_of_mem _ (List.mem_append_right _ hl))
    refine (ensures_renderBlock hP hbody kind name scope stack).bind fun s hs => ?_
    exact (hrest scope stack).bind fun tail htail => ensures_pure (hP.append hs htail)

end Parts

end Stencil
