import Stencil.Correspondence
import Stencil.Proofs.Runs

/-!
# Nothing tells the same data apart

Templates look at values as sequences, as maps, as being empty or not, and as texts. Two values that correspond look the
same in each of these ways: they have corresponding elements or corresponding entries, both of them are empty or none
is (`Stencil.Graph.Correspondence.isEmpty_eq`), and they have the same text
(`Stencil.Graph.Correspondence.display_eq`). Each of these is a case analysis on two nodes that correspond, which are of
the same kind.

That places are never related to two others is needed only where places are compared: for the text of an object that
contains itself (`Stencil.Graph.Correspondence.contains_eq`), and for entries that are stored.
-/

namespace Stencil

/-! ### Ends -/

theorem EndAlike.refl {α : Type} {P : α → α → Prop} (hP : ∀ x, P x x) (r : Except Fault α) : EndAlike P r r := by
  cases r with
  | ok x => exact .ok (hP x)
  | error f => exact .error f

/-- A relation between values may be replaced by one that follows from it. -/
theorem EndAlike.mono {α β : Type} {P Q : α → β → Prop} {r : Except Fault α} {r' : Except Fault β} (h : EndAlike P r r')
    (hPQ : ∀ x y, P x y → Q x y) : EndAlike Q r r' := by
  cases h with
  | ok hxy => exact .ok (hPQ _ _ hxy)
  | error f => exact .error f

theorem EndAlike.map {α β γ δ : Type} {P : α → β → Prop} {Q : γ → δ → Prop} {r : Except Fault α} {r' : Except Fault β}
    (h : EndAlike P r r') {f : α → γ} {f' : β → δ} (hf : ∀ x y, P x y → Q (f x) (f' y)) :
    EndAlike Q (r.map f) (r'.map f') := by
  cases h with
  | ok hxy => exact .ok (hf _ _ hxy)
  | error f => exact .error f

/-- Faults that are the same become the same ones. -/
theorem EndAlike.mapError {α β : Type} {P : α → β → Prop} {r : Except Fault α} {r' : Except Fault β}
    (h : EndAlike P r r') (f : Fault → Fault) : EndAlike P (r.mapError f) (r'.mapError f) := by
  cases h with
  | ok hxy => exact .ok hxy
  | error fault => exact .error (f fault)

theorem EndAlike.eq {α : Type} {r r' : Except Fault α} (h : EndAlike Eq r r') : r = r' := by
  cases h with
  | ok hxy => exact congrArg Except.ok hxy
  | error f => rfl

theorem rel_getD {α β : Type} {P : α → β → Prop} {x : α} {y : β} (h : P x y) {x? : Option α} {y? : Option β}
    (h? : Option.Rel P x? y?) : P (x?.getD x) (y?.getD y) := by
  cases h? with
  | some h => exact h
  | none => exact h

/-! ### Values and nodes -/

section Refl

variable {R : Nat → Nat → Prop} (hR : ∀ i, R i i)

include hR

/-- A value corresponds to itself if places do. -/
theorem Value.corresponds_refl (v : Value) : v.Corresponds R v := by
  cases v with
  | ref i => exact .ref (hR i)
  | _ => exact .scalar nofun

theorem Entries.correspond_refl (es : Entries) : es.Correspond R es :=
  List.forall₂_same.mpr fun e _ => ⟨Value.corresponds_refl hR e.1, Value.corresponds_refl hR e.2⟩

theorem fieldsCorrespond_refl (fs : List (String × Value)) : FieldsCorrespond R fs fs :=
  List.forall₂_same.mpr fun f _ => ⟨rfl, Value.corresponds_refl hR f.2⟩

theorem Node.corresponds_refl (n : Node) : n.Corresponds R n := by
  have hvalues (xs : List Value) : List.Forall₂ (Value.Corresponds R) xs xs :=
    List.forall₂_same.mpr fun v _ => Value.corresponds_refl hR v
  cases n with
  | sequence kind xs => exact .sequence kind (hvalues xs)
  | range start stop step => exact .range start stop step
  | table kind es =>
    by_cases hkind : ∃ factory fresh, kind = .defaulting factory fresh
    · obtain ⟨factory, fresh, rfl⟩ := hkind
      exact .defaulting factory (Value.corresponds_refl hR fresh) (Entries.correspond_refl hR es)
    · exact .table (fun factory fresh h => hkind ⟨factory, fresh, h⟩) (Entries.correspond_refl hR es)
  | chain layers => exact .chain (hvalues layers)
  | struct type fs => exact .struct type (fieldsCorrespond_refl hR fs)
  | structType type fs sample =>
    refine .structType type (List.forall₂_same.mpr fun f _ => ⟨rfl, ?_⟩) (Value.corresponds_refl hR sample)
    cases f.2 with
    | none => exact .none
    | some v => exact .some (Value.corresponds_refl hR v)
  | model type declared attributes => exact .model type declared (fieldsCorrespond_refl hR attributes)
  | set frozen xs => exact .set frozen (hvalues xs)
  | buffer bs => exact .buffer bs
  | object text truth => exact .object text truth
  | callable parameters b =>
    cases b with
    | replies first later => exact .callable parameters (.replies (Value.corresponds_refl hR first) (hvalues later))
    | fails kind message => exact .callable parameters (.fails kind message)

end Refl

namespace Graph

/-- Every place is related to itself alone. -/
def Correspondence.identity (g : Graph) : g.Correspondence where
  Related := Eq
  node := by
    rintro i _ rfl
    cases g.nodes[i]? with
    | none => exact .none
    | some n => exact .some (Node.corresponds_refl (fun _ => rfl) n)
  unique := by
    rintro i _ i' _ rfl rfl
    rfl

end Graph

theorem Value.Corresponds.eq {v w : Value} (h : v.Corresponds Eq w) : v = w := by
  cases h with
  | scalar _ => rfl
  | ref hij => exact congrArg Value.ref hij

namespace Graph

namespace Correspondence

variable {g : Graph} (c : g.Correspondence) {m m' : Memory} {v w : Value}

theorem identity_remembers (h : m.gained = m'.gained) : (identity g).Remembers m m' := by
  rintro i _ rfl
  rw [h]
  exact Entries.correspond_refl (fun _ => rfl) _

theorem corresponds_null : Value.null.Corresponds c.Related .null := .scalar nofun

variable {c}

/-- Corresponding values refer to no nodes, or to corresponding ones. -/
theorem node?_cases (h : v.Corresponds c.Related w) :
    g.node? v = none ∧ g.node? w = none ∨
      ∃ n n', g.node? v = some n ∧ g.node? w = some n' ∧ n.Corresponds c.Related n' := by
  cases h with
  | scalar hv =>
    refine .inl ?_
    cases v with
    | ref i => exact absurd rfl (hv i)
    | _ => exact ⟨rfl, rfl⟩
  | @ref i j hij =>
    have hnode := c.node hij
    rw [node?_ref, node?_ref]
    cases hi : g.nodes[i]? <;> cases hj : g.nodes[j]? <;> rw [hi, hj] at hnode <;> cases hnode
    · exact .inl ⟨rfl, rfl⟩
    · next hnodes => exact .inr ⟨_, _, rfl, rfl, hnodes⟩

/-- A text is the same key as one of two corresponding values if it is the same key as the other. -/
theorem sameKey_text (h : v.Corresponds c.Related w) (key : String) :
    g.sameKey v (.text key) = g.sameKey w (.text key) := by
  cases h with
  | scalar _ => rfl
  | ref _ => rfl

/-- Corresponding entries have the same keys, as far as these are texts, and so the same one is found. -/
theorem rel_find? {es es' : Entries} (h : es.Correspond c.Related es') (key : String) :
    Option.Rel (Value.Corresponds c.Related) (g.find? (.text key) es) (g.find? (.text key) es') := by
  induction h with
  | nil => exact .none
  | cons he _ ih =>
    rw [find?, find?, sameKey_text he.1]
    split
    · exact .some he.2
    · exact ih

theorem corresponds_getD {v? w? : Option Value} (h : Option.Rel (Value.Corresponds c.Related) v? w?) :
    (v?.getD .null).Corresponds c.Related (w?.getD .null) := rel_getD c.corresponds_null h

end Correspondence

end Graph

/-! ### Sequences and maps -/

theorem Elements.Corresponds.size_eq {R : Nat → Nat → Prop} {xs ys : Elements} (h : xs.Corresponds R ys) :
    xs.size = ys.size := by
  cases h with
  | listed h => exact h.length_eq
  | progression start step size => rfl

theorem isEmpty_eq_of_forall₂ {α β : Type} {P : α → β → Prop} {xs : List α} {ys : List β} (h : List.Forall₂ P xs ys) :
    xs.isEmpty = ys.isEmpty := by
  cases h <;> rfl

theorem rel_getElem? {α β : Type} {P : α → β → Prop} {xs : List α} {ys : List β} (h : List.Forall₂ P xs ys) (n : Nat) :
    Option.Rel P xs[n]? ys[n]? := by
  induction h generalizing n with
  | nil => exact .none
  | cons hxy _ ih =>
    cases n with
    | zero => exact .some hxy
    | succ n => exact ih n

namespace Elements

theorem size_eq_length (xs : Elements) : xs.size = xs.toList.length := by
  cases xs with
  | listed xs => rfl
  | progression a d n =>
    rw [toList, List.length_map, List.length_range]
    rfl

theorem get?_eq_getElem? (xs : Elements) (i : Nat) : xs.get? i = xs.toList[i]? := by
  cases xs with
  | listed xs => rfl
  | progression a d n =>
    rw [get?, toList, List.getElem?_map]
    split
    · next hi =>
      rw [List.getElem?_range hi]
      rfl
    · next hi =>
      rw [List.getElem?_eq_none (by rwa [List.length_range, ← Nat.not_lt])]
      rfl

/-- What is at an index depends on the elements alone, and not on how they are given. -/
theorem rel_at? {P : Value → Value → Prop} {xs ys : Elements} (h : List.Forall₂ P xs.toList ys.toList) (i : Int) :
    Option.Rel P (xs.at? i) (ys.at? i) := by
  unfold at?
  rw [xs.size_eq_length, ys.size_eq_length, h.length_eq]
  generalize (if i < 0 then i + (ys.toList.length : Int) else i) = j
  dsimp only
  split
  · exact .none
  · rw [get?_eq_getElem?, get?_eq_getElem?]
    exact rel_getElem? h _

end Elements

/-- Fields of the same names in the same order are found under the same names. -/
theorem rel_lookup {P : Value → Value → Prop} {fs fs' : List (String × Value)}
    (h : List.Forall₂ (fun f f' => f.1 = f'.1 ∧ P f.2 f'.2) fs fs') (name : String) :
    Option.Rel P (fs.lookup name) (fs'.lookup name) := by
  induction h with
  | nil => exact .none
  | @cons f f' fs fs' hf _ ih =>
    rw [List.lookup_cons, List.lookup_cons, hf.1]
    split
    · exact .some hf.2
    · exact ih

/-- The first declared field that is not set is the same if the same are set. -/
theorem Graph.endAlike_declaredFields_of_forall₂ {P : Value → Value → Prop}
    {attributes attributes' : List (String × Value)}
    (h : List.Forall₂ (fun f f' => f.1 = f'.1 ∧ P f.2 f'.2) attributes attributes') (type : String)
    (names : List String) :
    EndAlike (List.Forall₂ fun e e' => (∃ name, e.1 = .text name ∧ e'.1 = .text name) ∧ P e.2 e'.2)
      (declaredFields type attributes names) (declaredFields type attributes' names) := by
  induction names with
  | nil => exact .ok .nil
  | cons name names ih =>
    rw [declaredFields, declaredFields]
    have hvalue := rel_lookup h name
    generalize attributes.lookup name = v?, attributes'.lookup name = w? at hvalue
    cases hvalue with
    | none => exact .error _
    | some hvalue => exact ih.map fun _ _ hes => .cons ⟨⟨name, rfl, rfl⟩, hvalue⟩ hes

theorem isSome_eq_of_rel {α β : Type} {P : α → β → Prop} {x? : Option α} {y? : Option β} (h : Option.Rel P x? y?) :
    x?.isSome = y?.isSome := by
  cases h <;> rfl

theorem MapView.Corresponds.isEmpty_eq {R : Nat → Nat → Prop} {view view' : MapView} (h : view.Corresponds R view') :
    view.isEmpty = view'.isEmpty := by
  cases h with
  | single h => exact isEmpty_eq_of_forall₂ h
  | layered h =>
    rw [isEmpty, isEmpty]
    induction h with
    | nil => rfl
    | cons hl _ ih => rw [List.all_cons, List.all_cons, isEmpty_eq_of_forall₂ hl.entries, ih]

namespace Graph.Correspondence

variable {g : Graph} {c : g.Correspondence} {m m' : Memory} {v w : Value}

theorem forall₂_toList {xs ys : Elements} (h : xs.Corresponds c.Related ys) :
    List.Forall₂ (Value.Corresponds c.Related) xs.toList ys.toList := by
  cases h with
  | listed h => exact h
  | progression start step size =>
    refine List.forall₂_same.mpr fun v hv => ?_
    obtain ⟨i, -, rfl⟩ := List.mem_map.mp hv
    exact .scalar nofun

theorem corresponds_at? {xs ys : Elements} (h : xs.Corresponds c.Related ys) (i : Int) :
    Option.Rel (Value.Corresponds c.Related) (xs.at? i) (ys.at? i) := Elements.rel_at? (forall₂_toList h) i

theorem rel_elements? (h : v.Corresponds c.Related w) :
    Option.Rel (Elements.Corresponds c.Related) (g.elements? v) (g.elements? w) := by
  unfold elements?
  rcases node?_cases h with ⟨hv, hw⟩ | ⟨n, n', hv, hw, hnodes⟩ <;> rw [hv, hw]
  · exact .none
  · cases hnodes with
    | sequence kind hxs => exact .some (.listed hxs)
    | range start stop step => exact .some (.progression start step _)
    | _ => exact .none

/-- Tables that correspond have corresponding layers, and so have chains of them. The induction is on the depth to which
chains are followed. -/
theorem forall₂_layers (hm : c.Remembers m m') (depth : Nat) (h : v.Corresponds c.Related w) :
    List.Forall₂ (Layer.Corresponds c.Related) (g.layers m depth v) (g.layers m' depth w) := by
  induction depth generalizing v w with
  | zero => exact .nil
  | succ depth ih =>
    cases h with
    | scalar hv =>
      cases v with
      | ref i => exact absurd rfl (hv i)
      | _ => exact .nil
    | @ref i j hij =>
      rcases node?_cases (.ref hij) with ⟨hi, hj⟩ | ⟨n, n', hi, hj, hnodes⟩
      · simp only [layers, hi, hj]
        exact .nil
      · simp only [layers, hi, hj]
        cases hnodes with
        | @table kind es es' hkind hes =>
          cases kind with
          | defaulting factory fresh => exact absurd rfl (hkind factory fresh)
          | _ => exact .cons ⟨hes, .none⟩ .nil
        | defaulting factory hfresh hes => exact .cons ⟨List.rel_append hes (hm i j hij), .some ⟨hij, hfresh⟩⟩ .nil
        | chain hlayers => exact List.rel_flatMap hlayers fun _ _ h => ih h
        | _ => exact .nil

theorem rel_mapping? (hm : c.Remembers m m') (h : v.Corresponds c.Related w) :
    Option.Rel (MapView.Corresponds c.Related) (g.mapping? m v) (g.mapping? m' w) := by
  have hentries : Entries.Correspond c.Related ((g.layers m 1 v).flatMap Layer.entries)
      ((g.layers m' 1 w).flatMap Layer.entries) :=
    List.rel_flatMap (forall₂_layers hm 1 h) fun _ _ hl => hl.entries
  unfold mapping?
  rcases node?_cases h with ⟨hv, hw⟩ | ⟨n, n', hv, hw, hnodes⟩ <;> rw [hv, hw]
  · exact .none
  · cases hnodes with
    | table _ _ => exact .some (.single hentries)
    | defaulting _ _ _ => exact .some (.single hentries)
    | chain _ => exact .some (.layered (forall₂_layers hm _ h))
    | _ => exact .none

/-- Of corresponding fields the ones have defaults if the others have. -/
theorem all_isSome_eq {fs fs' : List (String × Option Value)}
    (h : List.Forall₂ (fun f f' => f.1 = f'.1 ∧ Option.Rel (Value.Corresponds c.Related) f.2 f'.2) fs fs') :
    (fs.all fun f => f.2.isSome) = fs'.all fun f => f.2.isSome := by
  induction h with
  | nil => rfl
  | cons hf _ ih => rw [List.all_cons, List.all_cons, isSome_eq_of_rel hf.2, ih]

theorem endAlike_declaredFields {attributes attributes' : List (String × Value)}
    (h : FieldsCorrespond c.Related attributes attributes') (type : String) (names : List String) :
    EndAlike (Entries.Correspond c.Related) (declaredFields type attributes names)
      (declaredFields type attributes' names) := by
  refine (endAlike_declaredFields_of_forall₂ h type names).mono fun es es' hes => hes.imp ?_
  rintro ⟨_, v⟩ ⟨_, w⟩ ⟨⟨name, rfl, rfl⟩, hvw⟩
  exact ⟨.scalar nofun, hvw⟩

/-- **A value is map-like if a corresponding one is, as a map with corresponding entries.** -/
theorem endAlike_mapLike? (hm : c.Remembers m m') (h : v.Corresponds c.Related w) :
    EndAlike (Option.Rel (MapView.Corresponds c.Related)) (g.mapLike? m v) (g.mapLike? m' w) := by
  have hmapping : EndAlike (Option.Rel (MapView.Corresponds c.Related)) (.ok (g.mapping? m v))
      (.ok (g.mapping? m' w)) := .ok (rel_mapping? hm h)
  unfold mapLike?
  rcases node?_cases h with ⟨hv, hw⟩ | ⟨n, n', hv, hw, hnodes⟩ <;> rw [hv, hw]
  · exact hmapping
  · cases hnodes with
    | struct type hfs =>
      refine .ok (.some (.single (List.forall₂_map_left_iff.mpr (List.forall₂_map_right_iff.mpr ?_))))
      exact hfs.imp fun f f' hf => ⟨hf.1 ▸ .scalar nofun, hf.2⟩
    | @model type declared attributes attributes' hattributes =>
      cases declared with
      | none => exact hmapping
      | some names => exact (endAlike_declaredFields hattributes type _).map fun _ _ hes => .some (.single hes)
    | _ => exact hmapping

/-! ### Truth and emptiness -/

/-- **Corresponding values count as true or false alike.** -/
theorem truth_eq (hm : c.Remembers m m') (h : v.Corresponds c.Related w) : g.truth m v = g.truth m' w := by
  have hnodes := node?_cases h
  have helements := rel_elements? h
  have hmapping := rel_mapping? hm h
  cases h with
  | scalar hv =>
    cases v with
    | ref i => exact absurd rfl (hv i)
    | _ => rfl
  | @ref i j hij =>
    unfold truth
    rcases hnodes with ⟨hi, hj⟩ | ⟨n, n', hi, hj, hnodes⟩ <;> dsimp only <;> rw [hi, hj]
    cases hnodes with
    | set frozen hxs => exact congrArg (fun empty : Bool => Except.ok !empty) (isEmpty_eq_of_forall₂ hxs)
    | buffer bs => rfl
    | object text truth => cases truth <;> rfl
    | _ =>
      -- An object that can be looked into is true if it holds something.
      dsimp only
      generalize g.elements? (.ref i) = xs?, g.elements? (.ref j) = ys? at helements
      generalize g.mapping? m (.ref i) = view?, g.mapping? m' (.ref j) = view'? at hmapping
      cases helements with
      | some hxs => exact congrArg (fun size : Nat => Except.ok (size != 0)) hxs.size_eq
      | none =>
        cases hmapping with
        | some hview => exact congrArg (fun empty : Bool => Except.ok !empty) hview.isEmpty_eq
        | none => rfl

theorem isEmpty_eq (hm : c.Remembers m m') (h : v.Corresponds c.Related w) : g.isEmpty m v = g.isEmpty m' w := by
  have helements := rel_elements? h
  have hview := endAlike_mapLike? hm h
  have htruth := truth_eq hm h
  unfold isEmpty
  generalize g.elements? v = xs?, g.elements? w = ys? at helements
  generalize g.mapLike? m v = r, g.mapLike? m' w = r' at hview
  cases helements with
  | some hxs =>
    dsimp only
    rw [hxs.size_eq]
  | none =>
    cases hview with
    | error f => rfl
    | ok hview =>
      cases hview with
      | some hview => exact congrArg Except.ok hview.isEmpty_eq
      | none =>
        dsimp only
        rw [htruth]

/-! ### Text -/

theorem mapM_eq_of_forall₂ {α β : Type} {P : α → α → Prop} {xs ys : List α} (h : List.Forall₂ P xs ys)
    {f f' : α → Except Fault β} (hf : ∀ x y, P x y → f x = f' y) : xs.mapM f = ys.mapM f' := by
  induction h with
  | nil => rfl
  | cons hxy _ ih => rw [List.mapM_cons, List.mapM_cons, hf _ _ hxy, ih]

theorem map_fst_eq {fs fs' : List (String × Value)} (h : FieldsCorrespond c.Related fs fs') :
    fs.map Prod.fst = fs'.map Prod.fst := by
  induction h with
  | nil => rfl
  | cons hf _ ih => rw [List.map_cons, List.map_cons, hf.1, ih]

theorem ellipsis?_eq {n n' : Node} (h : n.Corresponds c.Related n') : ellipsis? n = ellipsis? n' := by
  cases h with
  | @table kind es es' hkind _ =>
    cases kind with
    | defaulting factory fresh => exact absurd rfl (hkind factory fresh)
    | _ => rfl
  | sequence kind _ => cases kind <;> rfl
  | set frozen _ => cases frozen <;> rfl
  | _ => rfl

/-- Corresponding nodes have the same text if corresponding values have. -/
theorem quoteNode_eq {gained gained' : Entries} (hgained : gained.Correspond c.Related gained')
    {shown shown' : Value → Except Fault String} (hshown : ∀ v w, v.Corresponds c.Related w → shown v = shown' w)
    {n n' : Node} (h : n.Corresponds c.Related n') : quoteNode gained shown n = quoteNode gained' shown' n' := by
  have hvalues {xs ys : List Value} (hxs : List.Forall₂ (Value.Corresponds c.Related) xs ys) :
      xs.mapM shown = ys.mapM shown' := mapM_eq_of_forall₂ hxs hshown
  have hentries {es es' : Entries} (hes : es.Correspond c.Related es') :
      quoteNode.entryTexts shown es = quoteNode.entryTexts shown' es' := by
    refine mapM_eq_of_forall₂ hes fun e e' he => ?_
    rw [hshown _ _ he.1, hshown _ _ he.2]
  cases h with
  | sequence kind hxs => cases kind <;> simp only [quoteNode, hvalues hxs]
  | range start stop step =>
    by_cases hstep : step = 1
    · subst hstep
      rfl
    · rw [quoteNode, quoteNode] <;> exact hstep
  | @table kind es es' hkind hes =>
    cases kind with
    | plain => simp only [quoteNode, hentries hes]
    | ordered =>
      cases hes with
      | nil => rfl
      | cons he hes => simp only [quoteNode, hentries (.cons he hes)]
    | wrapped => simp only [quoteNode, hentries hes]
    | readOnly => simp only [quoteNode, hentries hes]
    | defaulting factory fresh => exact absurd rfl (hkind factory fresh)
  | defaulting factory _ hes => simp only [quoteNode, hentries (List.rel_append hes hgained)]
  | chain hlayers => simp only [quoteNode, hvalues hlayers]
  | struct type hfs =>
    have htexts := mapM_eq_of_forall₂ hfs fun f f' hf => hshown f.2 f'.2 hf.2
    simp only [quoteNode, map_fst_eq hfs, htexts]
  | structType type _ _ => rfl
  | model type declared _ => rfl
  | set frozen hxs =>
    cases frozen <;> cases hxs with
    | nil => rfl
    | cons hx hxs => simp only [quoteNode, hvalues (.cons hx hxs)]
  | buffer bs => rfl
  | object text truth => rfl
  | callable parameters _ => rfl

/-- Related places are around related places. -/
theorem contains_eq {around around' : List Nat} (h : List.Forall₂ c.Related around around') {i j : Nat}
    (hij : c.Related i j) : around.contains i = around'.contains j := by
  induction h with
  | nil => rfl
  | cons hab _ ih =>
    have hhead := c.unique hij hab
    rw [List.contains_cons, List.contains_cons, ih]
    exact congrArg (· || _) (decide_eq_decide.mpr hhead)

/-- Corresponding values look the same inside others. They are inside themselves at the same depth, so that the values
around them have to correspond as well. -/
theorem quoteTo_eq (hm : c.Remembers m m') (depth : Nat) {around around' : List Nat}
    (haround : List.Forall₂ c.Related around around') (h : v.Corresponds c.Related w) :
    g.quoteTo m depth around v = g.quoteTo m' depth around' w := by
  induction depth generalizing around around' v w with
  | zero => rfl
  | succ depth ih =>
    cases h with
    | scalar hv =>
      cases v with
      | ref i => exact absurd rfl (hv i)
      | _ => rfl
    | @ref i j hij =>
      rcases node?_cases (.ref hij) with ⟨hi, hj⟩ | ⟨n, n', hi, hj, hnodes⟩
      all_goals
        rw [node?_ref] at hi hj
        rw [quoteTo, quoteTo, hi, hj]
      dsimp only
      rw [ellipsis?_eq hnodes, contains_eq haround hij]
      split
      · split
        · rfl
        · exact quoteNode_eq (hm i j hij) (fun _ _ h => ih (.cons hij haround) h) hnodes
      · exact quoteNode_eq (hm i j hij) (fun _ _ h => ih haround h) hnodes

/-- **The same data has the same text.** -/
theorem display_eq (hm : c.Remembers m m') (h : v.Corresponds c.Related w) : g.display m v = g.display m' w := by
  have hquote : g.quote m v = g.quote m' w := quoteTo_eq hm displayDepth .nil h
  cases h with
  | scalar hv =>
    cases v with
    | ref i => exact absurd rfl (hv i)
    | _ => rfl
  | @ref i j hij =>
    unfold display
    rcases node?_cases (.ref hij) with ⟨hi, hj⟩ | ⟨n, n', hi, hj, hnodes⟩ <;> rw [hi, hj]
    · exact hquote
    · cases hnodes with
      | @table kind es es' hkind hes =>
        cases kind with
        | readOnly =>
          refine quoteNode_eq .nil (fun _ _ h => quoteTo_eq hm displayDepth (.cons hij .nil) h) ?_
          exact .table nofun hes
        | _ => exact hquote
      | _ => exact hquote

end Graph.Correspondence

end Stencil
