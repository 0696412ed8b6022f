import Stencil.Proofs.Correspondence
import Stencil.Proofs.Inlining
import Stencil.Proofs.Keys
import Stencil.Proofs.Simulation
import Stencil.Tabulation

/-!
# Objects with fields are like tables, if all fields are set

The map of an object with declared fields is made of all of them, whenever the object is looked at: when it is tested
for emptiness, when a block or an element is rendered for it, and when one field is looked up. So a field that is
declared and not set makes all of these fail (`Stencil.Graph.Declares.mapLike?_cases`). If there is none, the map is the
table of the fields that are set.

Whatever is asked of the data is therefore answered alike if tables are put in the place of the objects, or fails
because of such a field (`Stencil.Run.SameUnless`). A fault of this kind is never contained, so that this is true of
whole renderings as well (`Stencil.Setting.render_asTables`), as long as the objects are not shown, since their texts
are others than those of tables.
-/

namespace Stencil

open Run

/-! ### Runs that are the same unless they fail -/

namespace Run

variable {α β : Type} {lost : Fault → Prop}

/-- Whether a run does from a state what another one does, unless that ends in a `lost` fault. -/
def SameFrom (lost : Fault → Prop) (σ : RunState) (r r' : Run α) : Prop :=
  (∃ f, lost f ∧ (r.runFrom σ).1 = .error f) ∨ r'.runFrom σ = r.runFrom σ

/-- **Whether a run does what another one does**, unless that ends in a `lost` fault. -/
def SameUnless (lost : Fault → Prop) (r r' : Run α) : Prop := ∀ σ, SameFrom lost σ r r'

theorem sameUnless_refl (r : Run α) : SameUnless lost r r := fun _ => .inr rfl

theorem SameFrom.bind {σ : RunState} {r r' : Run α} {k k' : α → Run β} (hr : SameFrom lost σ r r')
    (hk : ∀ x τ, r.runFrom σ = (.ok x, τ) → SameFrom lost τ (k x) (k' x)) : SameFrom lost σ (r >>= k) (r' >>= k') := by
  rcases hr with ⟨f, hlost, hf⟩ | hsame
  · exact .inl ⟨f, hlost, by rw [runFrom_bind_error (Prod.ext hf rfl)]⟩
  · rcases hrun : r.runFrom σ with ⟨f | x, τ⟩ <;> rw [hrun] at hsame
    · exact .inr (by rw [runFrom_bind_error hrun, runFrom_bind_error hsame])
    · rw [SameFrom, runFrom_bind_ok hrun, runFrom_bind_ok hsame]
      exact hk x τ hrun

theorem SameUnless.bind {r r' : Run α} {k k' : α → Run β} (hr : SameUnless lost r r')
    (hk : ∀ x, SameUnless lost (k x) (k' x)) : SameUnless lost (r >>= k) (r' >>= k') :=
  fun σ => (hr σ).bind fun x τ _ => hk x τ

theorem SameUnless.memory_bind {k k' : Memory → Run α} (hk : ∀ m, SameUnless lost (k m) (k' m)) :
    SameUnless lost (Run.memory >>= k) (Run.memory >>= k') :=
  (sameUnless_refl _).bind hk

theorem sameUnless_ofExcept {r r' : Except Fault α} (h : (∃ f, lost f ∧ r = .error f) ∨ r' = r) :
    SameUnless lost (ofExcept r) (ofExcept r') := by
  intro σ
  rw [SameFrom, runFrom_ofExcept, runFrom_ofExcept]
  exact h.imp id (congrArg (·, σ))

end Run

/-! ### Looking at objects and tables -/

namespace Graph

variable {g : Graph} {places : Nat → Bool} {m : Memory} {v : Value}

theorem nodes_asTables (g : Graph) (places : Nat → Bool) (place : Nat) :
    (g.asTables places).nodes[place]? = (g.nodes[place]?).map fun n => if places place then n.asTable else n :=
  g.getElem?_tabulated places place

theorem size_asTables (g : Graph) (places : Nat → Bool) : (g.asTables places).nodes.size = g.nodes.size :=
  Array.size_mapIdx

theorem node?_asTables_of_avoids (h : v.Avoids places) : (g.asTables places).node? v = g.node? v := by
  cases v with
  | ref place =>
    have hplace : places place = false := by
      by_contra hin
      exact h place (by simpa using hin) rfl
    have hnode := g.nodes_asTables places place
    simp only [hplace, Bool.false_eq_true, if_false, Option.map_id'] at hnode
    exact hnode
  | _ => rfl

theorem avoids_or (places : Nat → Bool) (v : Value) : v.Avoids places ∨ ∃ place, places place ∧ v = .ref place := by
  by_cases h : v.Avoids places
  · exact .inl h
  · obtain ⟨place, hplace⟩ := not_forall.mp h
    obtain ⟨hin, href⟩ := Classical.not_imp.mp hplace
    exact .inr ⟨place, hin, not_not.mp href⟩

/-- The declared fields are those that are set, or there is one that is not. -/
theorem declaredFields_cases (type : String) (attributes : List (String × Value)) (names : List String) :
    (∃ name ∈ names, attributes.lookup name = none ∧
        declaredFields type attributes names = .error (.noAttribute type name)) ∨
      declaredFields type attributes names = .ok (setFields attributes names) := by
  induction names with
  | nil => exact .inr rfl
  | cons name names ih =>
    rw [declaredFields, setFields, List.filterMap_cons]
    cases hname : attributes.lookup name with
    | none => exact .inl ⟨name, List.mem_cons_self, hname, rfl⟩
    | some v =>
      rcases ih with ⟨name', hmem, hlookup, hfields⟩ | hfields
      · exact .inl ⟨name', List.mem_cons_of_mem _ hmem, hlookup, by rw [hfields]; rfl⟩
      · exact .inr (by rw [hfields]; rfl)

/-- The map that an object is has all declared fields, or there is none. -/
theorem mapLike?_of_model {type : String} {declared : List String} {attributes : List (String × Value)}
    (hnode : g.node? v = some (.model type (some declared) attributes)) (m : Memory) :
    g.mapLike? m v = (declaredFields type attributes declared.eraseDups).map fun es => some (.single es) := by
  rw [mapLike?, hnode]

section

variable (hg : g.Declares places)

include hg

theorem Declares.exists_node {place : Nat} (hplace : places place) :
    ∃ type declared attributes, g.node? (.ref place) = some (.model type (some declared) attributes) ∧
      (g.asTables places).node? (.ref place) = some (.table .plain (setFields attributes declared.eraseDups)) := by
  obtain ⟨type, declared, attributes, hnode⟩ := hg.model hplace
  refine ⟨type, declared, attributes, hnode, ?_⟩
  rw [node?_ref, nodes_asTables, hnode, Option.map_some, if_pos hplace, Node.asTable]

/-- Objects and tables are no sequences. -/
theorem Declares.elements?_eq (v : Value) : (g.asTables places).elements? v = g.elements? v := by
  rcases avoids_or places v with havoids | ⟨place, hplace, rfl⟩
  · rw [elements?, elements?, node?_asTables_of_avoids havoids]
  · obtain ⟨type, declared, attributes, hnode, hnode'⟩ := hg.exists_node hplace
    rw [elements?, elements?, hnode, hnode']

theorem Declares.layers_eq (m : Memory) (depth : Nat) (h : v.Avoids places) :
    (g.asTables places).layers m depth v = g.layers m depth v := by
  induction depth generalizing v with
  | zero => rfl
  | succ depth ih =>
    have hlayers : ∀ vs, g.node? v = some (.chain vs) → ∀ w ∈ vs, w.Avoids places := by
      intro vs hnode
      cases v with
      | ref place => exact hg.chain hnode
      | _ => cases hnode
    unfold layers
    rw [node?_asTables_of_avoids h]
    split
    · rfl
    · rfl
    · next vs hnode => exact List.flatMap_congr fun w hw => ih (hlayers vs hnode w hw)
    · rfl

theorem Declares.mapping?_eq (m : Memory) (h : v.Avoids places) :
    (g.asTables places).mapping? m v = g.mapping? m v := by
  unfold mapping?
  rw [node?_asTables_of_avoids h, size_asTables, hg.layers_eq m 1 h, hg.layers_eq m _ h]

theorem Declares.scopeView_eq (m : Memory) {scope : Scope} (h : scope.Avoids places) :
    (g.asTables places).scopeView m scope = g.scopeView m scope := by
  cases scope with
  | value v => rfl
  | record es => rfl
  | layered v globals => rw [scopeView, scopeView, size_asTables, hg.layers_eq m _ h]

/-- **The map that an object is has the fields that are set**, unless there is a declared field that is not. -/
theorem Declares.mapLike?_cases (m : Memory) (v : Value) :
    (∃ f, g.Lacks places f ∧ g.mapLike? m v = .error f) ∨ (g.asTables places).mapLike? m v = g.mapLike? m v := by
  rcases avoids_or places v with havoids | ⟨place, hplace, rfl⟩
  · refine .inr ?_
    unfold mapLike?
    rw [node?_asTables_of_avoids havoids, hg.mapping?_eq m havoids]
  · obtain ⟨type, declared, attributes, hnode, hnode'⟩ := hg.exists_node hplace
    have htable : (g.asTables places).mapLike? m (.ref place) =
        .ok (some (.single (setFields attributes declared.eraseDups))) := by
      rw [mapLike?, hnode']
      exact congrArg Except.ok (mapping?_of_table hnode' (by simp) m)
    rw [mapLike?_of_model hnode, htable]
    rcases declaredFields_cases type attributes declared.eraseDups with ⟨name, hmem, hlookup, hfields⟩ | hfields
    · have hdeclared : name ∈ declared := List.mem_eraseDups.mp hmem
      refine .inl ⟨_, ⟨place, type, declared, attributes, name, hplace, hnode, hdeclared, hlookup, rfl⟩, ?_⟩
      rw [hfields]
      rfl
    · refine .inr ?_
      rw [hfields]
      rfl

theorem Declares.truth_eq (m : Memory) (h : v.Avoids places) : (g.asTables places).truth m v = g.truth m v := by
  unfold truth
  rw [node?_asTables_of_avoids h, hg.elements?_eq, hg.mapping?_eq m h]

/-- Objects with fields are true, and the truth of a table can be told. -/
theorem Declares.exists_truth {place : Nat} (hplace : places place) (m : Memory) :
    (∃ b, g.truth m (.ref place) = .ok b) ∧ ∃ b, (g.asTables places).truth m (.ref place) = .ok b := by
  obtain ⟨type, declared, attributes, hnode, hnode'⟩ := hg.exists_node hplace
  have hview : (g.asTables places).mapping? m (.ref place) = some (.single (setFields attributes declared.eraseDups)) :=
    mapping?_of_table hnode' (by simp) m
  constructor
  · refine ⟨true, ?_⟩
    rw [truth, hnode, elements?, mapping?, hnode]
  · refine ⟨!(setFields attributes declared.eraseDups).isEmpty, ?_⟩
    rw [truth, hnode', elements?, hnode', hview]
    rfl

theorem Declares.isEmpty_cases (m : Memory) (v : Value) :
    (∃ f, g.Lacks places f ∧ g.isEmpty m v = .error f) ∨ (g.asTables places).isEmpty m v = g.isEmpty m v := by
  rw [isEmpty, isEmpty, hg.elements?_eq]
  cases g.elements? v with
  | some xs => exact .inr rfl
  | none =>
    rcases hg.mapLike?_cases m v with ⟨f, hlacks, hfails⟩ | hsame
    · exact .inl ⟨f, hlacks, by rw [hfails]⟩
    · rw [hsame]
      rcases avoids_or places v with havoids | ⟨place, hplace, rfl⟩
      · rw [hg.truth_eq m havoids]
        exact .inr rfl
      · -- An object with fields is map-like, and its truth is not asked for.
        obtain ⟨type, declared, attributes, hnode, -⟩ := hg.exists_node hplace
        refine .inr ?_
        rw [mapLike?_of_model hnode]
        cases declaredFields type attributes declared.eraseDups <;> rfl

/-! ### Looking up names -/

omit hg in
/-- What is found under a text does not depend on the objects that there are. -/
theorem find?_text_asTables (es : Entries) (name : String) :
    (g.asTables places).find? (.text name) es = g.find? (.text name) es := by
  induction es with
  | nil => rfl
  | cons e es ih =>
    obtain ⟨k, v⟩ := e
    rw [find?_text_cons, find?_text_cons, ih]

omit hg in
theorem answer_text_asTables (ls : List Layer) (name : String) :
    (g.asTables places).answer (.text name) ls = g.answer (.text name) ls := by
  induction ls with
  | nil => rfl
  | cons l ls ih => rw [answer, answer, find?_text_asTables, ih]

omit hg in
theorem get_text_asTables (view : MapView) (name : String) :
    (g.asTables places).get (.text name) view = g.get (.text name) view := by
  cases view with
  | single es => rw [get, get, find?_text_asTables]
  | layered ls =>
    rw [get, get, answer_text_asTables]
    simp only [find?_text_asTables]

theorem Declares.sameUnless_child (v : Value) (key : String) :
    SameUnless (g.Lacks places) (g.child v key) ((g.asTables places).child v key) := by
  refine .memory_bind fun m => (sameUnless_ofExcept (hg.mapLike?_cases m v)).bind fun view? => ?_
  cases view? with
  | some view =>
    dsimp only
    rw [get_text_asTables]
    exact sameUnless_refl _
  | none =>
    dsimp only
    rw [hg.elements?_eq]
    exact sameUnless_refl _

theorem Declares.sameUnless_empty? (v : Value) :
    SameUnless (g.Lacks places) (g.empty? v) ((g.asTables places).empty? v) :=
  .memory_bind fun m => sameUnless_ofExcept (hg.isEmpty_cases m v)

theorem Declares.sameUnless_walk (v : Value) (ss : List String) :
    SameUnless (g.Lacks places) (g.walk v ss) ((g.asTables places).walk v ss) := by
  induction ss generalizing v with
  | nil => exact sameUnless_refl _
  | cons s ss ih =>
    refine (hg.sameUnless_empty? v).bind fun empty => ?_
    split
    · exact sameUnless_refl _
    · exact (hg.sameUnless_child v s).bind fun w => ih w

theorem Declares.sameUnless_scopeChild {scope : Scope} (hscope : scope.Avoids places) (key : String) :
    SameUnless (g.Lacks places) (g.scopeChild scope key) ((g.asTables places).scopeChild scope key) := by
  cases scope with
  | value v => exact hg.sameUnless_child v key
  | record es =>
    rw [scopeChild, scopeChild, get_text_asTables]
    exact sameUnless_refl _
  | layered v globals =>
    refine .memory_bind fun m => ?_
    rw [get_text_asTables, hg.scopeView_eq m hscope]
    exact sameUnless_refl _

theorem Declares.sameUnless_resolve {scope : Scope} (hscope : scope.Avoids places) (name : String) :
    SameUnless (g.Lacks places) (g.resolve scope name) ((g.asTables places).resolve scope name) := by
  rw [resolve, resolve]
  split
  · cases segments name with
    | nil => exact sameUnless_refl _
    | cons s ss =>
      have hfirst := hg.sameUnless_scopeChild hscope s
      cases scope with
      | value v => exact hg.sameUnless_walk v (s :: ss)
      | record es => exact hfirst.bind fun v => hg.sameUnless_walk v ss
      | layered v es => exact hfirst.bind fun v => hg.sameUnless_walk v ss
  · exact hg.sameUnless_scopeChild hscope name

/-- Neither objects with fields nor tables are called. -/
theorem Declares.invoke_eq (v : Value) : (g.asTables places).invoke v = g.invoke v := by
  rcases avoids_or places v with havoids | ⟨place, hplace, rfl⟩
  · unfold invoke
    rw [node?_asTables_of_avoids havoids]
  · obtain ⟨type, declared, attributes, hnode, hnode'⟩ := hg.exists_node hplace
    unfold invoke
    rw [hnode, hnode']

/-- **A name stands for the same**, unless an object is looked at in which a declared field is not set. -/
theorem Declares.sameUnless_lookup {scope : Scope} (hscope : scope.Avoids places) (name : String) :
    SameUnless (g.Lacks places) (g.lookup scope name) ((g.asTables places).lookup scope name) := by
  refine (hg.sameUnless_resolve hscope name).bind fun v => ?_
  rw [hg.invoke_eq]
  exact sameUnless_refl _

theorem Declares.sameUnless_elementScope (v : Value) :
    SameUnless (g.Lacks places) (g.elementScope v) ((g.asTables places).elementScope v) :=
  .memory_bind fun m => (sameUnless_ofExcept (hg.mapLike?_cases m v)).bind fun _ => sameUnless_refl _

theorem Declares.sameUnless_blockScope (scope : Scope) (v : Value) :
    SameUnless (g.Lacks places) (g.blockScope scope v) ((g.asTables places).blockScope scope v) :=
  .memory_bind fun m => (sameUnless_ofExcept (hg.mapLike?_cases m v)).bind fun _ => sameUnless_refl _

/-! ### Texts -/

omit hg in
theorem mapM_congr {α β : Type} {f f' : α → Except Fault β} (xs : List α) (h : ∀ x ∈ xs, f x = f' x) :
    xs.mapM f = xs.mapM f' :=
  Correspondence.mapM_eq_of_forall₂ (P := fun x y => f x = f' y) (List.forall₂_same.mpr h) fun _ _ => id

omit hg in
/-- The text of an object is the same if the texts of what it contains are. -/
theorem quoteNode_congr {gained : Entries} {shown shown' : Value → Except Fault String} {n : Node}
    (h : ∀ w ∈ n.contents gained, shown w = shown' w) : quoteNode gained shown n = quoteNode gained shown' n := by
  have hentries (es : Entries) (h : ∀ w ∈ es.flatMap fun e => [e.1, e.2], shown w = shown' w) :
      quoteNode.entryTexts shown es = quoteNode.entryTexts shown' es := by
    refine mapM_congr es fun e he => ?_
    rw [h e.1 (List.mem_flatMap.mpr ⟨e, he, by simp⟩), h e.2 (List.mem_flatMap.mpr ⟨e, he, by simp⟩)]
  cases n with
  | sequence kind xs => cases kind <;> simp only [quoteNode, mapM_congr xs h]
  | range start stop step =>
    by_cases hstep : step = 1
    · subst hstep
      rfl
    · rw [quoteNode, quoteNode] <;> exact hstep
  | table kind es =>
    cases kind with
    | ordered =>
      cases es with
      | nil => rfl
      | cons e es => simp only [quoteNode, hentries (e :: es) h]
    | defaulting factory fresh => simp only [quoteNode, hentries (es ++ gained) h]
    | _ => simp only [quoteNode, hentries es h]
  | chain vs => simp only [quoteNode, mapM_congr vs h]
  | struct type fields =>
    have htexts : (fields.mapM fun f => shown f.2) = fields.mapM fun f => shown' f.2 :=
      mapM_congr fields fun f hf => h f.2 (List.mem_map_of_mem hf)
    simp only [quoteNode, htexts]
  | set frozen xs =>
    cases frozen <;> cases xs with
    | nil => rfl
    | cons x xs => simp only [quoteNode, mapM_congr (x :: xs) h]
  | _ => rfl

omit hg in
theorem quoteTo_asTables (m : Memory) {depth : Nat} {around : List Nat} (h : ∀ w, g.Holds m v w → w.Avoids places) :
    (g.asTables places).quoteTo m depth around v = g.quoteTo m depth around v := by
  induction depth generalizing around v with
  | zero => rfl
  | succ depth ih =>
    cases v with
    | ref place =>
      have hnode : (g.asTables places).nodes[place]? = g.nodes[place]? :=
        node?_asTables_of_avoids (v := .ref place) (h _ .itself)
      rw [quoteTo, quoteTo, hnode]
      cases hn : g.nodes[place]? with
      | none => rfl
      | some n =>
        have hcontents {around : List Nat} : quoteNode (m.gained place) ((g.asTables places).quoteTo m depth around) n =
            quoteNode (m.gained place) (g.quoteTo m depth around) n :=
          quoteNode_congr fun w hw => ih fun u hu => h u ((Holds.contents hn hw).trans hu)
        dsimp only
        rw [hcontents, hcontents]
    | _ => rfl

omit hg in
/-- **What holds none of the objects is shown by the same text.** -/
theorem display_asTables (m : Memory) (h : ∀ w, g.Holds m v w → w.Avoids places) :
    (g.asTables places).display m v = g.display m v := by
  have hquote : (g.asTables places).quote m v = g.quote m v := quoteTo_asTables m h
  unfold display
  rw [node?_asTables_of_avoids (h v .itself), hquote]
  split
  · rfl
  · rfl
  · next place es hnode =>
    exact quoteNode_congr fun w hw => quoteTo_asTables m fun u hu => h u ((Holds.contents hnode hw).trans hu)
  · rfl

/-- **What a name shows is the same**, unless an object is looked at in which a declared field is not set, or one is
shown. -/
theorem Declares.sameFrom_interpolate {scope : Scope} (hscope : scope.Avoids places) (name : String) (σ : RunState)
    (hshown : ∀ v τ, (g.lookup scope name).runFrom σ = (.ok v, τ) → g.isEmpty τ.memory v = .ok false →
      ∀ w, g.Holds τ.memory v w → w.Avoids places) :
    SameFrom (g.Lacks places) σ (g.interpolate scope name) ((g.asTables places).interpolate scope name) := by
  refine (hg.sameUnless_lookup hscope name σ).bind fun v τ hlookup => ?_
  refine (hg.sameUnless_empty? v τ).bind fun empty τ' hempty => ?_
  cases empty with
  | true => exact .inr rfl
  | false =>
    rw [runFrom_empty?] at hempty
    obtain ⟨htold, rfl⟩ := Prod.mk.inj hempty
    refine .inr ?_
    rw [if_neg Bool.false_ne_true, if_neg Bool.false_ne_true, runFrom_show?, runFrom_show?,
      display_asTables τ.memory (hshown v τ hlookup htold)]

end

end Graph

/-! ### Stages -/

namespace Setting

variable {s : Setting} {places : Nat → Bool} {scope : Scope}

/-- Objects are no sources of partials, and neither are tables. -/
theorem Tabulates.source?_eq (hs : s.Tabulates places scope) (name : String) :
    ({ s with graph := s.graph.asTables places } : Setting).source? name = s.source? name := by
  have hview (m : Memory) :
      (s.graph.asTables places).partialsView? m s.partials = s.graph.partialsView? m s.partials := by
    have hpartials := hs.partials
    have hmapping := @hs.mapping
    cases hfrom : s.partials with
    | value v => exact hs.data.mapping?_eq m (hmapping hfrom)
    | record es => rfl
    | layered v globals =>
      rw [hfrom] at hpartials
      exact congrArg some (hs.data.scopeView_eq m hpartials)
  rw [source?, source?]
  refine congrArg (Run.memory >>= ·) (funext fun m => ?_)
  rw [hview]
  cases s.graph.partialsView? m s.partials with
  | none => rfl
  | some view =>
    dsimp only
    rw [Graph.get_text_asTables]
    refine congrArg (s.graph.get (.text name) view >>= ·) (funext fun v => ?_)
    refine congrArg (Run.memory >>= ·) (funext fun m' => ?_)
    rcases Graph.avoids_or places v with havoids | ⟨place, hplace, rfl⟩
    · rw [hs.data.truth_eq m' havoids]
    · -- Either way it is no text, so that its truth makes no difference.
      obtain ⟨⟨b, htruth⟩, b', htruth'⟩ := hs.data.exists_truth hplace m'
      rw [htruth, htruth', ofExcept_ok, ofExcept_ok, pure_bind, pure_bind]
      cases b <;> cases b' <;> rfl

theorem Tabulates.sameUnless_questionBlock (hs : s.Tabulates places scope) (kind : BlockKind) (depth : Nat)
    (name : String) (body : Template) (stack : Stack) :
    SameUnless (s.graph.Lacks places) (s.questionBlock kind depth name body scope stack)
      (({ s with graph := s.graph.asTables places } : Setting).questionBlock kind depth name body scope stack) := by
  refine (hs.data.sameUnless_lookup hs.scope name).bind fun v => (hs.data.sameUnless_empty? v).bind fun empty => ?_
  cases kind <;> cases empty
  · dsimp only
    rw [hs.data.elements?_eq]
    cases s.graph.elements? v with
    | some xs => exact sameUnless_refl _
    | none => exact (hs.data.sameUnless_blockScope scope v).bind fun inner => sameUnless_refl _
  · exact sameUnless_refl _
  · exact sameUnless_refl _
  · exact sameUnless_refl _

/-- **The same answer is given at a stage**, unless an object is looked at in which a declared field is not set, or
one is shown. -/
theorem Tabulates.sameFrom_question {a : Stage} (hs : s.Tabulates places a.scope)
    (hshown : ∀ v m, s.Shows a v m → ∀ w, s.graph.Holds m v w → w.Avoids places) :
    SameFrom (s.graph.Lacks places) a.state (s.question a.toJob)
      (({ s with graph := s.graph.asTables places } : Setting).question a.toJob) := by
  obtain ⟨⟨depth, task, scope, stack⟩, σ⟩ := a
  have hname {l : Leaf} {rest : Template} {n : String} (hl : l = .name n ∨ l = .raw n)
      (htask : task = .template (.leaf l rest)) :
      SameFrom (s.graph.Lacks places) σ (s.graph.interpolate scope n)
        ((s.graph.asTables places).interpolate scope n) :=
    hs.data.sameFrom_interpolate hs.scope n σ fun v τ hlookup hempty =>
      hshown v τ.memory (.intro htask hl hlookup hempty)
  rcases task with (_ | ⟨_ | n | n | n, rest⟩ | ⟨kind, name, body, rest⟩) | ⟨frames, t⟩ | ⟨t, _ | ⟨v, vs⟩⟩
  · exact .inr rfl
  · exact .inr rfl
  · exact (hname (.inl rfl) rfl).bind fun _ _ _ => .inr rfl
  · exact (hname (.inr rfl) rfl).bind fun _ _ _ => .inr rfl
  · refine .inr ?_
    dsimp only
    rw [question, question]
    dsimp only
    rw [questionPartial, questionPartial, hs.source?_eq]
    rfl
  · exact hs.sameUnless_questionBlock kind depth name body stack σ
  · exact .inr rfl
  · exact .inr rfl
  · exact (hs.data.sameUnless_elementScope v σ).bind fun _ _ _ => .inr rfl

theorem Tabulates.of_inherits {inner : Scope} (hs : s.Tabulates places scope) (h : Inherits scope inner) :
    s.Tabulates places inner := by
  refine ⟨hs.data, ?_, hs.partials, hs.mapping⟩
  rcases h with rfl | ⟨v, rfl | rfl⟩
  · exact hs.scope
  · trivial
  · trivial

/-- **Objects with fields are like tables of the fields that are set**, as long as all declared fields are: putting the
tables in the place of objects that are used as data, and that are not shown, makes no difference to a rendering, which
ends in the same text or fault and in the same state, unless it ends in the fault of a field that one of the objects
declares and that is not set. -/
theorem render_asTables (s : Setting) (places : Nat → Bool) (t : Template) (scope : Scope) (stack : Stack)
    (σ : RunState) (hs : s.Tabulates places scope)
    (hshown : ∀ a v m, s.Passes (start t scope stack σ) a → s.Shows a v m →
      ∀ w, s.graph.Holds m v w → w.Avoids places) :
    (∃ f, s.graph.Lacks places f ∧ ((s.render t scope stack).runFrom σ).1 = .error f) ∨
      ({ s with graph := s.graph.asTables places }.render t scope stack).runFrom σ =
        (s.render t scope stack).runFrom σ := by
  -- Such a fault ends the rendering wherever it arises, since it is not contained. If there is none, all answers agree.
  by_cases hlost : ∃ a f, s.Passes (start t scope stack σ) a ∧ s.Arises a f ∧ s.graph.Lacks places f
  · obtain ⟨a, f, hpasses, harises, hlacks⟩ := hlost
    obtain ⟨place, type, declared, attributes, name, hrest⟩ := id hlacks
    obtain ⟨-, -, -, -, rfl⟩ := hrest
    exact .inl ⟨_, hlacks, (Passes.ends_of_arises hpasses rfl harises).1 (.inl nofun) (.inl nofun)⟩
  · refine .inr ?_
    have hsame : EndsLike Eq (s.outcome (start t scope stack σ))
        (({ s with graph := s.graph.asTables places } : Setting).outcome (start t scope stack σ)) := by
      refine endsLike_outcome (a := start t scope stack σ) (fun _ _ e h => by rw [h]) (fun b τ hpasses hτ => ?_) rfl
      subst hτ
      rcases (hs.of_inherits (Passes.inherits hpasses)).sameFrom_question (hshown b · · hpasses) with
        ⟨f, hlacks, hfails⟩ | hsame
      · exact absurd ⟨b, f, hpasses, hfails, hlacks⟩ hlost
      · exact ⟨congrArg Prod.fst hsame, (congrArg Prod.snd hsame).symm⟩
    exact Prod.ext hsame.1 hsame.2.symm

/-- A page with a user and a draft, all of them objects with declared fields. A field of the draft is not set. -/
def declared : Setting where
  graph := ⟨#[.model "Page" (some ["user", "draft"]) [("draft", .ref 2), ("user", .ref 1)],
    .model "User" (some ["name"]) [("name", .text "<b>"), ("secret", .int 1)], .model "Draft" (some ["text"]) []],
    by decide⟩
  settings := .initial
  partials := .value .null

/-- The places of the objects. -/
def declaredPlaces (place : Nat) : Bool := place < 3

/-- The name of the user, shown in a block. -/
def declaredBody : Template := .leaf (.name "name") .nil

/-- The name of the user, once along a path and once in a block. -/
def declaredTemplate : Template := .leaf (.name "user.name") (.block .plain "user" declaredBody .nil)

/-- What is to be done at the stages of the rendering. -/
def declaredJobs : List Job :=
  [⟨0, .template declaredTemplate, .value (.ref 0), some 1000⟩,
    ⟨0, .template (.block .plain "user" declaredBody .nil), .value (.ref 0), some 1000⟩,
    ⟨0, .template .nil, .value (.ref 0), some 1000⟩,
    ⟨0, .body Stack.plainFrames declaredBody, .value (.ref 1), some 1000⟩,
    ⟨0, .template declaredBody, .value (.ref 1), some 998⟩,
    ⟨0, .template .nil, .value (.ref 1), some 998⟩]

theorem declared_question {j : Job} (hj : j ∈ declaredJobs) (σ : RunState) :
    (∃ shown, (declared.question j).runFrom σ = (.ok (.shows shown), σ)) ∨
      ∃ inner ∈ declaredJobs, (declared.question j).runFrom σ = (.ok (.enters inner), σ) := by
  simp only [declaredJobs, List.mem_cons, List.not_mem_nil, or_false] at hj
  rcases hj with rfl | rfl | rfl | rfl | rfl | rfl
  · exact .inl ⟨_, rfl⟩
  · exact .inr ⟨⟨0, .body Stack.plainFrames declaredBody, .value (.ref 1), some 1000⟩, by simp [declaredJobs], rfl⟩
  · exact .inl ⟨_, rfl⟩
  · exact .inr ⟨⟨0, .template declaredBody, .value (.ref 1), some 998⟩, by simp [declaredJobs], rfl⟩
  · exact .inl ⟨_, rfl⟩
  · exact .inl ⟨_, rfl⟩

theorem declared_rest {j : Job} (hj : j ∈ declaredJobs) {task : Task} (hrest : j.task.rest? = some task) :
    { j with task } ∈ declaredJobs := by
  simp only [declaredJobs, List.mem_cons, List.not_mem_nil, or_false] at hj
  rcases hj with rfl | rfl | rfl | rfl | rfl | rfl <;> cases hrest <;> simp [declaredJobs]

/-- No other jobs come up than these. -/
theorem declared_passes {a b : Stage} (h : declared.Passes a b) (ha : a.toJob ∈ declaredJobs) :
    b.toJob ∈ declaredJobs := by
  refine Passes.job_of_closed (P := (· ∈ declaredJobs)) (fun j inner σ hj henters => ?_)
    (fun _ _ hj => declared_rest hj) h ha
  rcases declared_question hj σ with ⟨shown, hshows⟩ | ⟨inner', hinner, hasks⟩
  · rw [hshows] at henters
    cases henters
  · rw [hasks] at henters
    rw [← Stage.Answer.enters.inj (Except.ok.inj henters)]
    exact hinner

/-- Nothing is shown but the name of the user. -/
theorem declared_shows {a : Stage} (ha : a.toJob ∈ declaredJobs) {v : Value} {m : Memory} (h : declared.Shows a v m) :
    v = .text "<b>" := by
  obtain ⟨j, σ⟩ := a
  cases h with
  | @intro l name rest τ htask hleaf hlookup =>
    have hname : (declared.graph.lookup j.scope name).runFrom σ = (.ok (.text "<b>"), σ) := by
      simp only [declaredJobs, List.mem_cons, List.not_mem_nil, or_false] at ha
      rcases ha with rfl | rfl | rfl | rfl | rfl | rfl <;> cases htask <;> rcases hleaf with hleaf | hleaf <;>
        cases hleaf <;> rfl
    exact (Except.ok.inj (Prod.mk.inj (hname.symm.trans hlookup)).1).symm

theorem declared_tabulates : declared.Tabulates declaredPlaces (.value (.ref 0)) where
  data := by
    constructor
    · intro place hplace
      have hlt : place < 3 := by simpa [declaredPlaces] using hplace
      have hcases : place = 0 ∨ place = 1 ∨ place = 2 := by omega
      rcases hcases with rfl | rfl | rfl <;> exact ⟨_, _, _, rfl⟩
    · intro place vs hnode
      have hmem := Array.mem_of_getElem? hnode
      simp [declared] at hmem
  scope := trivial
  partials := trivial
  mapping h := by
    cases h
    intro _ _ hfresh
    cases hfresh

/-- The page is the context, and the user is looked at. The draft is not. -/
theorem render_asTables_declared :
    let rendered := (declared.render declaredTemplate (.value (.ref 0)) Stack.ordinary).runFrom ⟨.fresh, #[]⟩
    declared.Tabulates declaredPlaces (.value (.ref 0)) ∧
      (∀ a v m, declared.Passes (start declaredTemplate (.value (.ref 0)) Stack.ordinary ⟨.fresh, #[]⟩) a →
        declared.Shows a v m → ∀ w, declared.graph.Holds m v w → w.Avoids declaredPlaces) ∧
      rendered.1.toOption = some "&lt;b&gt;&lt;b&gt;" ∧
      ({ declared with graph := declared.graph.asTables declaredPlaces }.render declaredTemplate (.value (.ref 0))
        Stack.ordinary).runFrom ⟨.fresh, #[]⟩ = rendered := by
  have hshown : ∀ a v m, declared.Passes (start declaredTemplate (.value (.ref 0)) Stack.ordinary ⟨.fresh, #[]⟩) a →
      declared.Shows a v m → ∀ w, declared.graph.Holds m v w → w.Avoids declaredPlaces := by
    intro a v m hpasses hshows w hw place _
    obtain rfl := declared_shows (declared_passes hpasses (by simp [declaredJobs, start, Stack.ordinary])) hshows
    rw [hw.eq_of_scalar nofun]
    exact nofun
  have hresult : ((declared.render declaredTemplate (.value (.ref 0)) Stack.ordinary).runFrom
      ⟨.fresh, #[]⟩).1.toOption = some "&lt;b&gt;&lt;b&gt;" := by
    decide +kernel
  refine ⟨declared_tabulates, hshown, hresult, ?_⟩
  rcases render_asTables declared declaredPlaces declaredTemplate (.value (.ref 0)) Stack.ordinary ⟨.fresh, #[]⟩
    declared_tabulates hshown with ⟨f, -, hfails⟩ | hsame
  · rw [hfails] at hresult
    cases hresult
  · exact hsame

/-- An object `m` with a field that is set and a field that is not. -/
def partlySet : Setting where
  graph := ⟨#[.table .plain [(.text "m", .ref 1)], .model "Model" (some ["a", "b"]) [("a", .text "x")]], by decide⟩
  settings := .initial
  partials := .value .null

/-- **A field that is not set is not just missing**: it makes the other fields fail. -/
theorem exists_field_not_shown :
    let shown := Template.leaf (.name "m.a") .nil
    ((partlySet.render shown (.value (.ref 0)) Stack.ordinary).runFrom ⟨.fresh, #[]⟩).1 =
        .error (.noAttribute "Model" "b") ∧
      (({ partlySet with graph := partlySet.graph.asTables (· == 1) }.render shown (.value (.ref 0))
        Stack.ordinary).runFrom ⟨.fresh, #[]⟩).1 = .ok "x" := by
  exact ⟨rfl, rfl⟩

end Setting

end Stencil
