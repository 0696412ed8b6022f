import Stencil.Interchange
import Stencil.Proofs.Paths
import Stencil.Proofs.Tabulation

/-!
# Containers of other kinds look the same

Templates look at values as sequences, as maps, as being empty or not, and as something to be called. Interchangeable
values look the same in each of these ways: their elements are interchangeable one by one, there are interchangeable
values under the same names, both of them are empty or none is, and neither of them is called if they are not the same.
Each of these is a case analysis on how one of the values replaces the other one (`Stencil.Graph.Swapped`).

Only the text of a container tells its kind. A value that holds no container is interchangeable with nothing but itself
(`Stencil.Graph.Interchangeable.eq_of_holds_no_container`).
-/

namespace Stencil

open Run

theorem rel_imp {α β : Type} {P Q : α → β → Prop} (hPQ : ∀ x y, P x y → Q x y) {x? : Option α} {y? : Option β}
    (h : Option.Rel P x? y?) : Option.Rel Q x? y? := by
  cases h with
  | none => exact .none
  | some hxy => exact .some (hPQ _ _ hxy)

theorem Node.isContainer_of_items? {n : Node} {xs : List Value} (h : n.items? = some xs) : n.IsContainer := by
  cases n with
  | sequence | range => trivial
  | _ => cases h

theorem Node.isContainer_of_entries? {n : Node} {gained es : Entries} (h : n.entries? gained = some es) :
    n.IsContainer := by
  cases n with
  | table | struct => trivial
  | model type declared attributes =>
    cases declared with
    | none => cases h
    | some declared => trivial
  | _ => cases h

/-- Whether two maps are of the same shape and have tables with the same names. -/
inductive MapView.SameNames (g : Graph) (A : Value → Value → Prop) : MapView → MapView → Prop
  | single {es es' : Entries} : g.SameNames A es es' → SameNames g A (.single es) (.single es')
  | layered {ls ls' : List Layer} : List.Forall₂ (fun l l' => g.SameNames A l.entries l'.entries) ls ls' →
    SameNames g A (.layered ls) (.layered ls')

namespace Graph

variable {g : Graph} {A : Value → Value → Prop}

theorem rel_refl (hA : ∀ v, A v v) (v? : Option Value) : Option.Rel A v? v? := by
  cases v? with
  | none => exact .none
  | some v => exact .some (hA v)

theorem sameNames_refl (hA : ∀ v, A v v) (es : Entries) : g.SameNames A es es where
  find? _ := rel_refl hA _
  isEmpty_eq := rfl

/-- Entries with the same keys in the same order have the same names. -/
theorem sameNames_of_forall₂ {es es' : Entries} (h : List.Forall₂ (fun e e' => e.1 = e'.1 ∧ A e.2 e'.2) es es') :
    g.SameNames A es es' where
  find? name := by
    induction h with
    | nil => exact .none
    | @cons e e' es es' he _ ih =>
      rw [Graph.find?, Graph.find?, he.1]
      split
      · exact .some he.2
      · exact ih
  isEmpty_eq := isEmpty_eq_of_forall₂ h

end Graph

theorem MapView.sameNames_refl {g : Graph} {A : Value → Value → Prop} (hA : ∀ v, A v v) (view : MapView) :
    view.SameNames g A view := by
  cases view with
  | single es => exact .single (Graph.sameNames_refl hA es)
  | layered ls => exact .layered (List.forall₂_same.mpr fun l _ => Graph.sameNames_refl hA l.entries)

namespace Graph

variable {g : Graph} {m m' : Memory} {v w : Value}

/-! ### Values that can be put in each other's place -/

theorem SameNames.mono {A B : Value → Value → Prop} (hAB : ∀ v w, A v w → B v w) {es es' : Entries}
    (h : g.SameNames A es es') : g.SameNames B es es' where
  find? name := rel_imp hAB (h.find? name)
  isEmpty_eq := h.isEmpty_eq

theorem Swapped.mono {A B : Value → Value → Prop} (hAB : ∀ v w, A v w → B v w) (h : g.Swapped m A v w) :
    g.Swapped m B v w := by
  cases h with
  | same v => exact .same v
  | sequence hv hw hxs hys hitems => exact .sequence hv hw hxs hys (hitems.imp hAB)
  | table hi hj hes hes' hnames => exact .table hi hj hes hes' (hnames.mono hAB)
  | model hv hw hfields => exact .model hv hw (hfields.imp fun _ _ hf => ⟨hf.1, hAB _ _ hf.2⟩)
  | chain hv hw hmapping hlayers => exact .chain hv hw hmapping (hlayers.imp hAB)
  | set hv hw hholds hcontainer hforth hback =>
    refine .set hv hw hholds hcontainer (fun x hx => ?_) fun y hy => ?_
    · obtain ⟨y, hy, hxy⟩ := hforth x hx
      exact ⟨y, hy, hAB x y hxy⟩
    · obtain ⟨x, hx, hxy⟩ := hback y hy
      exact ⟨x, hx, hAB x y hxy⟩

theorem interchangeable_refl (g : Graph) (m : Memory) (v : Value) : g.Interchangeable m v v := by
  refine ⟨Eq, ?_, rfl⟩
  rintro v _ rfl
  exact .same v

/-- **What is interchangeable contains what is interchangeable.** -/
theorem Interchangeable.swapped (h : g.Interchangeable m v w) : g.Swapped m (g.Interchangeable m) v w := by
  obtain ⟨A, hA, hvw⟩ := h
  exact (hA v w hvw).mono fun x y hxy => ⟨A, hA, hxy⟩

/-! ### Looking at containers -/

theorem elements?_of_items? {n : Node} {xs : List Value} (hv : g.node? v = some n) (hxs : n.items? = some xs) :
    ∃ es, g.elements? v = some es ∧ es.toList = xs := by
  rw [elements?, hv]
  cases n with
  | sequence kind items => exact ⟨.listed items, rfl, Option.some.inj hxs⟩
  | range start stop step => exact ⟨.progression start step _, rfl, Option.some.inj hxs⟩
  | _ => cases hxs

/-- The layer that a table is, with a default or without. -/
theorem exists_layers_of_table {i : Nat} {kind : TableKind} {es : Entries} (hi : g.nodes[i]? = some (.table kind es))
    (m : Memory) (depth : Nat) :
    ∃ fallback held, (Node.table kind es).entries? (m.gained i) = some held ∧
      g.layers m (depth + 1) (.ref i) = [⟨held, fallback⟩] := by
  have hnode : g.node? (.ref i) = some (.table kind es) := hi
  cases kind with
  | defaulting factory fresh => exact ⟨some (i, fresh), es ++ m.gained i, rfl, layers_of_defaulting hnode m depth⟩
  | _ => exact ⟨none, es, rfl, by simp only [layers, hnode]⟩

theorem mapLike?_of_entries? {i : Nat} {n : Node} {es : Entries} (hi : g.nodes[i]? = some n)
    (hes : n.entries? (m.gained i) = some es) : g.mapLike? m (.ref i) = .ok (some (.single es)) := by
  have hnode : g.node? (.ref i) = some n := hi
  cases n with
  | table kind held =>
    obtain ⟨fallback, held', hheld', hlayers⟩ := exists_layers_of_table hi m 0
    obtain rfl : held' = es := Option.some.inj (hheld'.symm.trans hes)
    rw [mapLike?, mapping?, hnode]
    dsimp only
    rw [hlayers, List.flatMap_singleton]
  | struct type fields =>
    rw [mapLike?, hnode]
    obtain rfl := Option.some.inj hes
    rfl
  | model type declared attributes =>
    cases declared with
    | none => cases hes
    | some declared =>
      rw [Node.entries?] at hes
      split at hes
      · next hset =>
        obtain rfl := Option.some.inj hes
        rw [mapLike?_of_model hnode]
        rcases declaredFields_cases type attributes declared.eraseDups with ⟨name, hname, hmissing, -⟩ | hfields
        · have hfound := List.all_eq_true.mp hset name (List.mem_eraseDups.mp hname)
          rw [hmissing] at hfound
          cases hfound
        · rw [hfields]
          rfl
      · cases hes
  | _ => cases hes

/-- **Of interchangeable sequences the elements are interchangeable**, and what is interchangeable with a sequence is
one. -/
theorem Interchangeable.rel_elements? (h : g.Interchangeable m v w) :
    Option.Rel (fun xs ys => List.Forall₂ (g.Interchangeable m) xs.toList ys.toList) (g.elements? v)
      (g.elements? w) := by
  have hnone {v : Value} {n : Node} (hv : g.node? v = some n) (hxs : n.items? = none) : g.elements? v = none := by
    rw [elements?, hv]
    cases n with
    | sequence | range => cases hxs
    | _ => rfl
  cases h.swapped with
  | same v =>
    cases g.elements? v with
    | none => exact .none
    | some xs => exact .some (List.forall₂_same.mpr fun x _ => interchangeable_refl g m x)
  | sequence hv hw hxs hys hitems =>
    obtain ⟨xs, hxs', rfl⟩ := elements?_of_items? hv hxs
    obtain ⟨ys, hys', rfl⟩ := elements?_of_items? hw hys
    rw [hxs', hys']
    exact .some hitems
  | @table i j n n' es es' hi hj hes hes' =>
    have hkind {n : Node} {gained es : Entries} (hes : n.entries? gained = some es) : n.items? = none := by
      cases n with
      | sequence | range => cases hes
      | _ => rfl
    rw [hnone (v := .ref i) hi (hkind hes), hnone (v := .ref j) hj (hkind hes')]
    exact .none
  | model hv hw =>
    rw [hnone hv rfl, hnone hw rfl]
    exact .none
  | chain hv hw =>
    rw [hnone hv rfl, hnone hw rfl]
    exact .none
  | set hv hw =>
    rw [hnone hv rfl, hnone hw rfl]
    exact .none

/-- Interchangeable mappings are made of tables with the same names. -/
theorem Interchangeable.forall₂_layers (depth : Nat) (h : g.Interchangeable m v w) (hv : g.IsMapping v)
    (hw : g.IsMapping w) :
    List.Forall₂ (fun l l' => g.SameNames (g.Interchangeable m) l.entries l'.entries) (g.layers m depth v)
      (g.layers m depth w) := by
  -- A mapping is replaced as a table or as a chain. The other ways to replace a value are those of other kinds.
  induction depth generalizing v w with
  | zero => exact .nil
  | succ depth ih =>
    obtain ⟨a, hav, ha⟩ := hv
    obtain ⟨b, hbw, hb⟩ := hw
    cases h.swapped with
    | same v => exact List.forall₂_same.mpr fun l _ => sameNames_refl (interchangeable_refl g m) l.entries
    | @sequence _ _ n _ _ _ hv _ hxs _ _ =>
      obtain rfl : n = a := Option.some.inj (hv.symm.trans hav)
      cases n with
      | table | chain => cases hxs
      | _ => exact ha.elim
    | @table i j n n' es es' hi hj hes hes' hnames =>
      obtain rfl : n = a := Option.some.inj (hi.symm.trans hav)
      obtain rfl : n' = b := Option.some.inj (hj.symm.trans hbw)
      cases n with
      | table kind held =>
        cases n' with
        | table kind' held' =>
          obtain ⟨d, ds, hds, hlayers⟩ := exists_layers_of_table hi m depth
          obtain ⟨d', ds', hds', hlayers'⟩ := exists_layers_of_table hj m depth
          obtain rfl := Option.some.inj (hds.symm.trans hes)
          obtain rfl := Option.some.inj (hds'.symm.trans hes')
          rw [hlayers, hlayers']
          exact .cons hnames .nil
        | chain => cases hes'
        | _ => exact hb.elim
      | chain => cases hes
      | _ => exact ha.elim
    | @chain _ _ vs ws hv hw hmapping hlayers =>
      simp only [layers, hv, hw]
      clear hv hw
      induction hlayers with
      | nil => exact .nil
      | @cons x y vs ws hxy _ ihrest =>
        have hfirst := ih hxy (hmapping x (by simp)) (hmapping y (by simp))
        exact List.rel_append hfirst (ihrest fun z hz => hmapping z (by simp at hz ⊢; tauto))
    | model hv =>
      cases Option.some.inj (hv.symm.trans hav)
      exact ha.elim
    | set hv =>
      cases Option.some.inj (hv.symm.trans hav)
      exact ha.elim

theorem mapLike?_of_chain {vs : List Value} (hv : g.node? v = some (.chain vs)) :
    g.mapLike? m v = .ok (some (.layered (g.layers m (g.nodes.size + 1) v))) := by
  rw [mapLike?, mapping?, hv]

/-- **Interchangeable values are the same maps from names to values**, or both are no maps. -/
theorem Interchangeable.endAlike_mapLike? (h : g.Interchangeable m v w) :
    EndAlike (Option.Rel (MapView.SameNames g (g.Interchangeable m))) (g.mapLike? m v) (g.mapLike? m w) := by
  have hrefl (view? : Option MapView) : Option.Rel (MapView.SameNames g (g.Interchangeable m)) view? view? := by
    cases view? with
    | none => exact .none
    | some view => exact .some (view.sameNames_refl (interchangeable_refl g m))
  cases h.swapped with
  | same v => exact EndAlike.refl hrefl _
  | sequence hv hw hxs hys =>
    obtain ⟨xs, hxs, -⟩ := elements?_of_items? hv hxs
    obtain ⟨ys, hys, -⟩ := elements?_of_items? hw hys
    rw [mapLike?_of_elements? hxs, mapLike?_of_elements? hys]
    exact .ok .none
  | table hi hj hes hes' hnames =>
    rw [mapLike?_of_entries? hi hes, mapLike?_of_entries? hj hes']
    exact .ok (.some (.single hnames))
  | model hv hw hfields =>
    rw [mapLike?_of_model hv, mapLike?_of_model hw]
    refine (endAlike_declaredFields_of_forall₂ hfields _ _).map fun es es' hes => .some (.single ?_)
    refine sameNames_of_forall₂ (hes.imp ?_)
    rintro ⟨_, x⟩ ⟨_, y⟩ ⟨⟨name, rfl, rfl⟩, hxy⟩
    exact ⟨rfl, hxy⟩
  | chain hv hw =>
    have hlayers := h.forall₂_layers (g.nodes.size + 1) ⟨_, hv, trivial⟩ ⟨_, hw, trivial⟩
    rw [mapLike?_of_chain hv, mapLike?_of_chain hw]
    exact .ok (.some (.layered hlayers))
  | set hv hw =>
    rw [mapLike?, mapLike?, mapping?, mapping?, hv, hw]
    exact .ok .none

end Graph

/-! ### Looking into maps -/

section

variable {g : Graph} {A : Value → Value → Prop} {view view' : MapView}

theorem MapView.SameNames.isEmpty_eq (h : view.SameNames g A view') : view.isEmpty = view'.isEmpty := by
  cases h with
  | single hnames => exact hnames.isEmpty_eq
  | layered hlayers =>
    rw [isEmpty, isEmpty]
    induction hlayers with
    | nil => rfl
    | cons hnames _ ih => rw [List.all_cons, List.all_cons, hnames.isEmpty_eq, ih]

theorem MapView.SameNames.mono {B : Value → Value → Prop} (hAB : ∀ v w, A v w → B v w) (h : view.SameNames g A view') :
    view.SameNames g B view' := by
  cases h with
  | single hnames => exact .single (hnames.mono hAB)
  | layered hlayers => exact .layered (hlayers.imp fun _ _ hnames => hnames.mono hAB)

/-- The first of the tables that has a name has related values under it. -/
theorem MapView.SameNames.rel_value? (h : view.SameNames g A view') (name : String) :
    Option.Rel A (view.value? g (.text name)) (view'.value? g (.text name)) := by
  cases h with
  | single hnames => exact hnames.find? name
  | layered hlayers =>
    rw [value?, value?]
    induction hlayers with
    | nil => exact .none
    | @cons l l' ls ls' hnames _ ih =>
      rw [List.findSome?_cons, List.findSome?_cons]
      have hfirst := hnames.find? name
      generalize g.find? (.text name) l.entries = x?, g.find? (.text name) l'.entries = y? at hfirst
      cases hfirst with
      | some hxy => exact .some hxy
      | none => exact ih

end

namespace Graph

variable {g : Graph} {m m' : Memory} {v w : Value}

/-! ### Emptiness and calls -/

theorem truth_of_set {frozen : Bool} {xs : List Value} (hv : g.node? v = some (.set frozen xs)) :
    g.truth m v = .ok !xs.isEmpty := by
  cases v with
  | ref i => rw [truth, hv]
  | _ => cases hv

/-- **Interchangeable values are empty alike**, and it fails alike to tell whether they are. -/
theorem Interchangeable.isEmpty_eq (h : g.Interchangeable m v w) : g.isEmpty m v = g.isEmpty m w := by
  have htruth (hitems : g.elements? v = none) (hview : g.mapLike? m v = .ok none) : g.truth m v = g.truth m w := by
    -- What can be told to be empty by its items or entries is not tested for its truth.
    cases h.swapped with
    | same v => rfl
    | sequence hv _ hxs =>
      obtain ⟨xs, hxs, -⟩ := elements?_of_items? hv hxs
      cases hitems.symm.trans hxs
    | table hi _ hes => cases hview.symm.trans (mapLike?_of_entries? hi hes)
    | @model _ _ type declared attributes _ hv =>
      rw [mapLike?_of_model hv] at hview
      cases hfields : declaredFields type attributes declared.eraseDups <;> rw [hfields] at hview <;> cases hview
    | chain hv => cases hview.symm.trans (mapLike?_of_chain hv)
    | @set _ _ _ _ xs ys hv hw _ _ hforth hback =>
      have hempty : xs.isEmpty = ys.isEmpty := by
        rw [Bool.eq_iff_iff, List.isEmpty_iff, List.isEmpty_iff]
        constructor
        · rintro rfl
          refine List.eq_nil_iff_forall_not_mem.mpr fun y hy => ?_
          obtain ⟨x, hx, -⟩ := hback y hy
          cases hx
        · rintro rfl
          refine List.eq_nil_iff_forall_not_mem.mpr fun x hx => ?_
          obtain ⟨y, hy, -⟩ := hforth x hx
          cases hy
      rw [truth_of_set hv, truth_of_set hw, hempty]
  have helements := h.rel_elements?
  have hviews := h.endAlike_mapLike?
  rw [isEmpty, isEmpty]
  generalize g.elements? v = xs?, g.elements? w = ys? at helements htruth
  generalize g.mapLike? m v = r, g.mapLike? m w = r' at hviews htruth
  cases helements with
  | @some xs ys hxs =>
    dsimp only
    rw [xs.size_eq_length, ys.size_eq_length, hxs.length_eq]
  | none =>
    cases hviews with
    | error f => rfl
    | ok hviews =>
      cases hviews with
      | some hviews => exact congrArg Except.ok hviews.isEmpty_eq
      | none =>
        dsimp only
        rw [htruth rfl rfl]

theorem invoke_of_isContainer {n : Node} (hv : g.node? v = some n) (hn : n.IsContainer) : g.invoke v = pure v := by
  refine invoke_eq_pure (fun parameters b hcallable => ?_) fun type fields sample htype => ?_
  · obtain rfl := Option.some.inj (hv.symm.trans hcallable)
    exact hn
  · obtain rfl := Option.some.inj (hv.symm.trans htype)
    exact hn

/-- **What is called is the same**, as containers are not called. -/
theorem Interchangeable.invoke_cases (h : g.Interchangeable m v w) :
    v = w ∨ g.invoke v = pure v ∧ g.invoke w = pure w := by
  have hset {v : Value} {frozen : Bool} {xs : List Value} (hv : g.node? v = some (.set frozen xs)) :
      g.invoke v = pure v := by
    refine invoke_eq_pure (fun _ _ hcallable => ?_) fun _ _ _ htype => ?_
    · exact nomatch Option.some.inj (hv.symm.trans hcallable)
    · exact nomatch Option.some.inj (hv.symm.trans htype)
  cases h.swapped with
  | same v => exact .inl rfl
  | sequence hv hw hxs hys =>
    exact .inr ⟨invoke_of_isContainer hv (Node.isContainer_of_items? hxs),
      invoke_of_isContainer hw (Node.isContainer_of_items? hys)⟩
  | table hi hj hes hes' =>
    exact .inr ⟨invoke_of_isContainer (v := .ref _) hi (Node.isContainer_of_entries? hes),
      invoke_of_isContainer (v := .ref _) hj (Node.isContainer_of_entries? hes')⟩
  | model hv hw => exact .inr ⟨invoke_of_isContainer hv trivial, invoke_of_isContainer hw trivial⟩
  | chain hv hw => exact .inr ⟨invoke_of_isContainer hv trivial, invoke_of_isContainer hw trivial⟩
  | set hv hw => exact .inr ⟨hset hv, hset hw⟩

/-! ### What holds no container -/

/-- **What holds no container is interchangeable with nothing else.** -/
theorem Interchangeable.eq_of_holds_no_container (h : g.Interchangeable m v w)
    (hv : ∀ x, g.Holds m v x → ¬g.IsContainer x) : v = w := by
  cases h.swapped with
  | same v => rfl
  | sequence hnode _ hxs => exact absurd ⟨_, hnode, Node.isContainer_of_items? hxs⟩ (hv v .itself)
  | table hi _ hes => exact absurd ⟨_, hi, Node.isContainer_of_entries? hes⟩ (hv _ .itself)
  | model hnode => exact absurd ⟨_, hnode, trivial⟩ (hv v .itself)
  | chain hnode => exact absurd ⟨_, hnode, trivial⟩ (hv v .itself)
  | set _ _ hholds hcontainer => exact absurd hcontainer (hv _ hholds)

/-! ### Other memories -/

theorem Holds.of_gained_eq {x : Value} (hm : m'.gained = m.gained) (h : g.Holds m v x) : g.Holds m' v x := by
  induction h with
  | itself => exact .itself
  | within _ hnode hmem ih => exact ih.within hnode (by rwa [hm])

theorem Swapped.of_gained_eq {A : Value → Value → Prop} (hm : m'.gained = m.gained) (h : g.Swapped m A v w) :
    g.Swapped m' A v w := by
  cases h with
  | same v => exact .same v
  | sequence hv hw hxs hys hitems => exact .sequence hv hw hxs hys hitems
  | table hi hj hes hes' hnames => exact .table hi hj (by rwa [hm]) (by rwa [hm]) hnames
  | model hv hw hfields => exact .model hv hw hfields
  | chain hv hw hmapping hlayers => exact .chain hv hw hmapping hlayers
  | set hv hw hholds hcontainer hforth hback =>
    exact .set hv hw (hholds.of_gained_eq hm) hcontainer hforth hback

/-- What is interchangeable stays so as long as no table gains an entry. -/
theorem Interchangeable.of_gained_eq (hm : m'.gained = m.gained) (h : g.Interchangeable m v w) :
    g.Interchangeable m' v w := by
  obtain ⟨A, hA, hvw⟩ := h
  exact ⟨A, fun x y hxy => (hA x y hxy).of_gained_eq hm, hvw⟩

end Graph

end Stencil
