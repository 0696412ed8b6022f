import Stencil.Proofs.Correspondence

/-!
# Names resolve to the same data

Two runs that look at the same data see the same (`Stencil.Run.Corresponds`): they end in the same fault, or in values
that correspond, and where the one stores an entry in a table the other stores the corresponding one. This holds of all
that is done to find out what a name stands for (`Stencil.Graph.Correspondence.corresponds_lookup`). Callables have to
return the same value each time, as how often they have been called is not compared.
-/

namespace Stencil

open Stencil.Graph (Correspondence)

/-! ### Runs on the same data -/

namespace Run

variable {α β γ δ : Type} {g : Graph} {c : g.Correspondence}

/-- **Whether two runs end alike, and leave alike what they find alike**, as far as gained entries go. -/
def Corresponds (c : g.Correspondence) (P : α → β → Prop) (r : Run α) (r' : Run β) : Prop :=
  ∀ σ τ, c.Remembers σ.memory τ.memory → EndAlike P (r.runFrom σ).1 (r'.runFrom τ).1 ∧
    c.Remembers (r.runFrom σ).2.memory (r'.runFrom τ).2.memory

theorem corresponds_pure {P : α → β → Prop} {x : α} {y : β} (h : P x y) : Corresponds c P (pure x) (pure y) :=
  fun _ _ hm => ⟨.ok h, hm⟩

/-- Results that are given are put together as they are. -/
theorem corresponds_ofExcept {P : α → β → Prop} {r : Except Fault α} {r' : Except Fault β} (h : EndAlike P r r') :
    Corresponds c P (ofExcept r) (ofExcept r') := by
  intro σ τ hm
  rw [runFrom_ofExcept, runFrom_ofExcept]
  exact ⟨h, hm⟩

/-- Runs that look at the memory may use that the memories correspond. -/
theorem corresponds_memory_bind {P : α → β → Prop} {k : Memory → Run α} {k' : Memory → Run β}
    (hk : ∀ m m', c.Remembers m m' → Corresponds c P (k m) (k' m')) :
    Corresponds c P (memory >>= k) (memory >>= k') := by
  intro σ τ hm
  rw [runFrom_bind_ok (runFrom_memory σ), runFrom_bind_ok (runFrom_memory τ)]
  exact hk _ _ hm σ τ hm

/-- Corresponding runs may be gone on with by runs that correspond for corresponding values. -/
theorem Corresponds.bind {P : α → β → Prop} {Q : γ → δ → Prop} {r : Run α} {r' : Run β} {k : α → Run γ}
    {k' : β → Run δ} (hr : Corresponds c P r r') (hk : ∀ x y, P x y → Corresponds c Q (k x) (k' y)) :
    Corresponds c Q (r >>= k) (r' >>= k') := by
  intro σ τ hm
  obtain ⟨hend, hm'⟩ := hr σ τ hm
  rcases hσ : r.runFrom σ with ⟨res, σ'⟩
  rcases hτ : r'.runFrom τ with ⟨res', τ'⟩
  rw [hσ, hτ] at hend hm'
  cases hend with
  | error f =>
    rw [runFrom_bind_error hσ, runFrom_bind_error hτ]
    exact ⟨.error f, hm'⟩
  | ok hxy =>
    rw [runFrom_bind_ok hσ, runFrom_bind_ok hτ]
    exact hk _ _ hxy σ' τ' hm'

end Run

open Run

namespace Graph

namespace Correspondence

variable {g : Graph} {c : g.Correspondence} {v w : Value}

/-- A table that gains an entry, and its counterpart that gains the corresponding one. -/
theorem Remembers.gain {m m' : Memory} (hm : c.Remembers m m') {place place' : Nat} (hplace : c.Related place place')
    (key : String) {fresh fresh' : Value} (hfresh : fresh.Corresponds c.Related fresh') :
    c.Remembers (m.gain place (.text key) fresh) (m'.gain place' (.text key) fresh') := by
  intro i j hij
  have hsame : i = place ↔ j = place' := c.unique hij hplace
  rw [Memory.gain, Memory.gain]
  dsimp only
  by_cases hi : i = place
  · rw [if_pos hi, if_pos (hsame.mp hi)]
    exact List.rel_append (hm place place' hplace) (.cons ⟨.scalar nofun, hfresh⟩ .nil)
  · rw [if_neg hi, if_neg fun hj => hi (hsame.mpr hj)]
    exact hm i j hij

/-- Layers that correspond have the key in the same places. Where they answer by default, the tables behind them gain
corresponding entries. -/
theorem corresponds_answer (key : String) {ls ls' : List Layer}
    (h : List.Forall₂ (Layer.Corresponds c.Related) ls ls') :
    Run.Corresponds c (Value.Corresponds c.Related) (g.answer (.text key) ls) (g.answer (.text key) ls') := by
  induction h with
  | nil => exact corresponds_pure c.corresponds_null
  | @cons l l' ls ls' hl _ ih =>
    have hfound := rel_find? hl.entries key
    have hfallback := hl.fallback
    rw [answer, answer]
    generalize g.find? (.text key) l.entries = v?, g.find? (.text key) l'.entries = w? at hfound
    generalize l.fallback = d?, l'.fallback = d'? at hfallback
    cases hfound with
    | some hvalue => exact corresponds_pure hvalue
    | none =>
      cases hfallback with
      | none => exact ih
      | some hdefault => exact fun σ τ hm => ⟨.ok hdefault.2, hm.gain hdefault.1 key hdefault.2⟩

theorem any_isSome_eq (key : String) {ls ls' : List Layer} (h : List.Forall₂ (Layer.Corresponds c.Related) ls ls') :
    (ls.any fun l => (g.find? (.text key) l.entries).isSome) =
      ls'.any fun l => (g.find? (.text key) l.entries).isSome := by
  induction h with
  | nil => rfl
  | cons hl _ ih => rw [List.any_cons, List.any_cons, isSome_eq_of_rel (rel_find? hl.entries key), ih]

/-- A chain answers only for keys that one of its layers has, and corresponding chains have the same keys. -/
theorem corresponds_get (key : String) {view view' : MapView} (h : view.Corresponds c.Related view') :
    Run.Corresponds c (Value.Corresponds c.Related) (g.get (.text key) view) (g.get (.text key) view') := by
  cases h with
  | single hes => exact corresponds_pure (corresponds_getD (rel_find? hes key))
  | layered hls =>
    rw [get, get, any_isSome_eq key hls]
    split
    · exact corresponds_answer key hls
    · exact corresponds_pure c.corresponds_null

theorem corresponds_child (h : v.Corresponds c.Related w) (key : String) :
    Run.Corresponds c (Value.Corresponds c.Related) (g.child v key) (g.child w key) := by
  refine corresponds_memory_bind fun m m' hm => (corresponds_ofExcept (endAlike_mapLike? hm h)).bind ?_
  intro view? view'? hview
  cases hview with
  | some hview => exact corresponds_get key hview
  | none =>
    have helements := rel_elements? h
    generalize g.elements? v = xs?, g.elements? w = ys? at helements
    cases helements with
    | none => exact corresponds_pure c.corresponds_null
    | some hxs =>
      cases Number.readInteger key.toList with
      | none => exact corresponds_pure c.corresponds_null
      | some i => exact corresponds_pure (corresponds_getD (corresponds_at? hxs i))

theorem corresponds_empty? (h : v.Corresponds c.Related w) : Run.Corresponds c Eq (g.empty? v) (g.empty? w) := by
  refine corresponds_memory_bind fun m m' hm => corresponds_ofExcept ?_
  rw [isEmpty_eq hm h]
  exact .refl (fun _ => rfl) _

theorem corresponds_walk (h : v.Corresponds c.Related w) (ss : List String) :
    Run.Corresponds c (Value.Corresponds c.Related) (g.walk v ss) (g.walk w ss) := by
  induction ss generalizing v w with
  | nil => exact corresponds_pure h
  | cons s ss ih =>
    refine (corresponds_empty? h).bind ?_
    rintro empty _ rfl
    split
    · exact corresponds_pure h
    · exact (corresponds_child h s).bind fun _ _ h' => ih h'

end Correspondence

end Graph

theorem Scope.corresponds_refl {R : Nat → Nat → Prop} (hR : ∀ i, R i i) (scope : Scope) :
    scope.Corresponds R scope := by
  cases scope with
  | value v => exact .value (Value.corresponds_refl hR v)
  | record es => exact .record (Entries.correspond_refl hR es)
  | layered v es => exact .layered (Value.corresponds_refl hR v) (Entries.correspond_refl hR es)

namespace Graph.Correspondence

variable {g : Graph} {c : g.Correspondence} {v w : Value} {scope scope' : Scope}

theorem corresponds_scopeChild (h : scope.Corresponds c.Related scope') (key : String) :
    Run.Corresponds c (Value.Corresponds c.Related) (g.scopeChild scope key) (g.scopeChild scope' key) := by
  cases h with
  | value h => exact corresponds_child h key
  | record hes => exact corresponds_get key (.single hes)
  | layered h hes =>
    refine corresponds_memory_bind fun m m' hm => corresponds_get key (.layered ?_)
    exact List.rel_append (forall₂_layers hm _ h) (.cons ⟨hes, .none⟩ .nil)

theorem corresponds_scopeWalk (h : scope.Corresponds c.Related scope') (ss : List String) :
    Run.Corresponds c (Value.Corresponds c.Related) (g.scopeWalk scope ss) (g.scopeWalk scope' ss) := by
  cases ss with
  | nil => cases h <;> exact corresponds_pure c.corresponds_null
  | cons s ss =>
    have hchild := corresponds_scopeChild h s
    cases h with
    | value h => exact corresponds_walk h (s :: ss)
    | record _ => exact hchild.bind fun _ _ hv => corresponds_walk hv ss
    | layered _ _ => exact hchild.bind fun _ _ hv => corresponds_walk hv ss

theorem corresponds_resolve (h : scope.Corresponds c.Related scope') (name : String) :
    Run.Corresponds c (Value.Corresponds c.Related) (g.resolve scope name) (g.resolve scope' name) := by
  rw [resolve, resolve]
  split
  · exact corresponds_scopeWalk h _
  · exact corresponds_scopeChild h name

end Graph.Correspondence

/-- A callable that always returns the same value returns it, however often it has been called. -/
theorem Behaviour.reply_of_isConstant {first : Value} {later : List Value} (h : ∀ v ∈ later, v = first) (k : Nat) :
    reply first later k = first := by
  rw [reply, List.getD_eq_getElem?_getD]
  cases hreply : (first :: later)[min k later.length]? with
  | none => rfl
  | some v =>
    rcases List.mem_cons.mp (List.mem_of_getElem? hreply) with hfirst | hlater
    · exact hfirst
    · exact h v hlater

namespace Graph.Correspondence

variable {g : Graph} {c : g.Correspondence} {v w : Value} {scope scope' : Scope}

/-- Calls of callables that always return the same values. How often they have been called does not matter. -/
theorem corresponds_call {b b' : Behaviour} (h : b.Corresponds c.Related b') (hb : b.IsConstant) (hb' : b'.IsConstant)
    (place place' : Nat) : Run.Corresponds c (Value.Corresponds c.Related) (call place b) (call place' b') := by
  intro σ τ hm
  cases h with
  | @replies first first' later later' hfirst _ =>
    refine ⟨.ok ?_, hm⟩
    rw [Behaviour.reply_of_isConstant hb, Behaviour.reply_of_isConstant hb']
    exact hfirst
  | fails kind message => exact ⟨.error _, hm⟩

/-- A callable corresponds to one that replies with the corresponding value each time. -/
theorem corresponds_invoke (hg : g.RepliesConstantly) (h : v.Corresponds c.Related w) :
    Run.Corresponds c (Value.Corresponds c.Related) (g.invoke v) (g.invoke w) := by
  have hitself : Run.Corresponds c (Value.Corresponds c.Related) (pure v) (pure w) := corresponds_pure h
  cases h with
  | scalar hv =>
    cases v with
    | ref i => exact absurd rfl (hv i)
    | _ => exact hitself
  | @ref i j hij =>
    unfold invoke
    rcases node?_cases (.ref hij) with ⟨hi, hj⟩ | ⟨n, n', hi, hj, hnodes⟩ <;> rw [hi, hj]
    · exact hitself
    · cases hnodes with
      | callable parameters hb =>
        dsimp only
        split
        · exact corresponds_call hb (hg i _ _ hi) (hg j _ _ hj) i j
        · exact corresponds_pure c.corresponds_null
      | structType type hfs hsample =>
        dsimp only
        have hdefaults := all_isSome_eq hfs
        rw [hdefaults]
        split
        · exact corresponds_pure hsample
        · exact corresponds_pure c.corresponds_null
      | _ => exact hitself

/-- **A name stands for the same data in scopes that hold the same data.** -/
theorem corresponds_lookup (hg : g.RepliesConstantly) (h : scope.Corresponds c.Related scope') (name : String) :
    Run.Corresponds c (Value.Corresponds c.Related) (g.lookup scope name) (g.lookup scope' name) :=
  (corresponds_resolve h name).bind fun _ _ hv => corresponds_invoke hg hv

theorem corresponds_elementScope (h : v.Corresponds c.Related w) :
    Run.Corresponds c (Scope.Corresponds c.Related) (g.elementScope v) (g.elementScope w) := by
  refine corresponds_memory_bind fun m m' hm => (corresponds_ofExcept (endAlike_mapLike? hm h)).bind ?_
  intro view? view'? hview
  cases hview with
  | some _ => exact corresponds_pure (.value h)
  | none => exact corresponds_pure (.record (.cons ⟨.scalar nofun, h⟩ .nil))

/-- Inside a block are the values that its name stands for, or the scopes around the block. -/
theorem corresponds_blockScope (scope scope' : Scope) (h : v.Corresponds c.Related w) :
    Run.Corresponds c (fun inner inner' => inner.Corresponds c.Related inner' ∨ inner = scope ∧ inner' = scope')
      (g.blockScope scope v) (g.blockScope scope' w) := by
  refine corresponds_memory_bind fun m m' hm => (corresponds_ofExcept (endAlike_mapLike? hm h)).bind ?_
  intro view? view'? hview
  cases hview with
  | some _ => exact corresponds_pure (.inl (.value h))
  | none => exact corresponds_pure (.inr ⟨rfl, rfl⟩)

theorem corresponds_show? (h : v.Corresponds c.Related w) : Run.Corresponds c Eq (g.show? v) (g.show? w) := by
  refine corresponds_memory_bind fun m m' hm => corresponds_ofExcept ?_
  rw [display_eq hm h]
  exact .refl (fun _ => rfl) _

end Graph.Correspondence

end Stencil
