import Stencil.Proofs.Keys
import Stencil.Proofs.Runs

/-!
# Maps without defaults

A map none of whose tables has a default is no more than its entries: asking it for a key has no effect and gives the
value from the first table that has the key (`Stencil.Graph.get_eq_value?`), it does not depend on the memory which map
a value is (`Stencil.Graph.mapping?_eq`), and a table that is filled from it holds under each name what the map has
under it (`Stencil.Graph.find?_table`).
-/

namespace Stencil

/-- Whether no table of a map has a default. -/
def MapView.IsPlain : MapView → Prop
  | single _ => True
  | layered ls => ∀ l ∈ ls, l.fallback = none

/-- The entries of a map, with the values that it has under its keys. -/
def MapView.table (g : Graph) (view : MapView) : Entries :=
  match view with
  | single es => es
  | layered ls => (g.chainKeys ls).map fun k => (k, (view.value? g k).getD .null)

/-- The entries of a table. Other nodes have none. -/
def Node.entries : Node → Entries
  | .table _ es => es
  | _ => []

namespace Graph

open Run

variable {g : Graph}

/-! ### Asking for a key -/

theorem answer_eq_findSome? {ls : List Layer} (h : ∀ l ∈ ls, l.fallback = none) (key : Value) :
    g.answer key ls = pure ((ls.findSome? fun l => g.find? key l.entries).getD .null) := by
  induction ls with
  | nil => rfl
  | cons l ls ih =>
    have hl : l.fallback = none := h l List.mem_cons_self
    rw [answer, List.findSome?_cons, hl]
    cases g.find? key l.entries with
    | some v => rfl
    | none => exact ih fun l' hl' => h l' (List.mem_cons_of_mem _ hl')

/-- **Asking a map without defaults for a key has no effect** and gives what the first of its tables has. -/
theorem get_eq_value? {view : MapView} (h : view.IsPlain) (key : Value) :
    g.get key view = pure ((view.value? g key).getD .null) := by
  cases view with
  | single es => rfl
  | layered ls =>
    rw [get, MapView.value?, ← List.isSome_findSome?]
    cases hfound : ls.findSome? fun l => g.find? key l.entries with
    | none => rfl
    | some v =>
      rw [Option.isSome_some, if_pos rfl, answer_eq_findSome? h, hfound]

/-! ### Which map a value is -/

theorem layers_eq {m m' : Memory} {depth : Nat} {v : Value} (h : ∀ l ∈ g.layers m depth v, l.fallback = none) :
    g.layers m' depth v = g.layers m depth v := by
  induction depth generalizing v with
  | zero => rfl
  | succ depth ih =>
    unfold layers at h ⊢
    split at h
    · next i _ factory fresh es _ =>
      have hfallback := h _ List.mem_cons_self
      cases hfallback
    · rfl
    · next ws _ =>
      have hlayer (w : Value) (hw : w ∈ ws) : g.layers m' depth w = g.layers m depth w :=
        ih fun l hl => h l (List.mem_flatMap.mpr ⟨w, hw, hl⟩)
      rw [List.flatMap_def, List.flatMap_def, List.map_congr_left hlayer]
    · rfl

theorem defaults_eq_nil_iff {v : Value} :
    g.defaults v = [] ↔ ∀ l ∈ g.layers .fresh (g.nodes.size + 1) v, l.fallback = none :=
  List.filterMap_eq_nil_iff

/-- A table consists of one table, whatever the depth. -/
theorem layers_of_table {v : Value} {kind : TableKind} {es : Entries} (hnode : g.node? v = some (.table kind es))
    (m : Memory) : ∃ l, ∀ depth, g.layers m (depth + 1) v = [l] := by
  unfold layers
  split
  · exact ⟨_, fun _ => rfl⟩
  · exact ⟨_, fun _ => rfl⟩
  · next hchain =>
    rw [hnode] at hchain
    cases hchain
  · next hother _ _ => exact absurd hnode (hother kind es)

theorem layers_of_defaulting {place : Nat} {factory : Factory} {fresh : Value} {es : Entries}
    (hnode : g.node? (.ref place) = some (.table (.defaulting factory fresh) es)) (m : Memory) (depth : Nat) :
    g.layers m (depth + 1) (.ref place) = [⟨es ++ m.gained place, some (place, fresh)⟩] := by
  unfold layers
  rw [hnode]

/-- **A mapping is a table, which is one layer, or a chain of tables.** -/
theorem mapping?_cases {m : Memory} {v : Value} {view : MapView} (h : g.mapping? m v = some view) :
    (∃ kind es l, g.node? v = some (.table kind es) ∧ (∀ depth, g.layers m (depth + 1) v = [l]) ∧
      view = .single l.entries) ∨
    ∃ ws, g.node? v = some (.chain ws) ∧ view = .layered (g.layers m (g.nodes.size + 1) v) := by
  unfold mapping? at h
  split at h
  · next kind es hnode =>
    obtain ⟨l, hl⟩ := layers_of_table hnode m
    rw [hl, List.flatMap_singleton] at h
    exact .inl ⟨kind, es, l, hnode, hl, (Option.some.inj h).symm⟩
  · next ws hnode => exact .inr ⟨ws, hnode, (Option.some.inj h).symm⟩
  · cases h

/-- Looking for a key in the tables of a mapping one after the other. -/
theorem findSome?_layers {m : Memory} {v : Value} {view : MapView} (h : g.mapping? m v = some view) (key : Value) :
    ((g.layers m (g.nodes.size + 1) v).findSome? fun l => g.find? key l.entries) = view.value? g key := by
  rcases mapping?_cases h with ⟨kind, es, l, -, hl, rfl⟩ | ⟨ws, -, rfl⟩
  · rw [hl, List.findSome?_singleton]
    rfl
  · rfl

section

variable {v : Value} (hv : g.defaults v = [])

include hv

theorem fallback_eq_none (m : Memory) : ∀ l ∈ g.layers m (g.nodes.size + 1) v, l.fallback = none := by
  have hfresh := defaults_eq_nil_iff.mp hv
  rw [layers_eq hfresh]
  exact hfresh

theorem isPlain_of_mapping? {m : Memory} {view : MapView} (h : g.mapping? m v = some view) : view.IsPlain := by
  rcases mapping?_cases h with ⟨kind, es, l, -, -, rfl⟩ | ⟨ws, -, rfl⟩
  · trivial
  · exact fallback_eq_none hv m

/-- **Which map a value without defaults is does not depend on the memory.** -/
theorem mapping?_eq (m m' : Memory) : g.mapping? m v = g.mapping? m' v := by
  have hlayers : g.layers m (g.nodes.size + 1) v = g.layers m' (g.nodes.size + 1) v :=
    layers_eq (fallback_eq_none hv m')
  unfold mapping?
  split
  · next kind es hnode =>
    obtain ⟨l, hl⟩ := layers_of_table hnode m
    obtain ⟨l', hl'⟩ := layers_of_table hnode m'
    rw [hl, hl'] at hlayers
    rw [hl, hl', hlayers]
  · rw [hlayers]
  · rfl

end

/-- A mapping is map-like. -/
theorem mapLike?_of_mapping? {m : Memory} {v : Value} {view : MapView} (h : g.mapping? m v = some view) :
    g.mapLike? m v = .ok (some view) := by
  unfold mapLike?
  rcases mapping?_cases h with ⟨kind, es, l, hnode, -, -⟩ | ⟨ws, hnode, -⟩
  all_goals
    rw [hnode]
    exact congrArg Except.ok h

/-- What a mapping without defaults has under a name is what the name resolves to. -/
theorem child_of_entry? {m : Memory} {v w : Value} {name : String} (hv : g.defaults v = [])
    (h : g.entry? m v name = some w) : g.child v name = pure w := by
  obtain ⟨view, hview, hw⟩ := Option.bind_eq_some_iff.mp h
  have hlike (m' : Memory) : g.mapLike? m' v = .ok (some view) :=
    mapLike?_of_mapping? ((mapping?_eq hv m' m).trans hview)
  rw [child]
  simp only [hlike, ofExcept_ok, pure_bind]
  rw [get_eq_value? (isPlain_of_mapping? hv hview), hw]
  rfl

/-! ### Filling a table from a map -/

/-- The keys of a chain are those of its tables. -/
theorem text_mem_chainKeys_iff (g : Graph) (s : String) (ls : List Layer) :
    .text s ∈ g.chainKeys ls ↔ (ls.findSome? fun l => g.find? (.text s) l.entries).isSome := by
  rw [chainKeys, text_mem_keys_iff, List.foldl_reverse]
  induction ls with
  | nil => exact Iff.rfl
  | cons l ls ih =>
    -- The entries that a layer contributes have its keys, which is all that matters.
    have hkeys : (g.find? (.text s) (l.entries.map fun e => (e.1, Value.null))).isSome =
        (g.find? (.text s) l.entries).isSome := by
      rw [Bool.eq_iff_iff, ← text_mem_keys_iff, ← text_mem_keys_iff, List.map_map]
      rfl
    rw [List.foldr_cons, isSome_find?_putAll, hkeys, List.findSome?_cons, Bool.or_eq_true, ih]
    cases g.find? (.text s) l.entries with
    | none => exact ⟨fun h => h.resolve_left nofun, .inr⟩
    | some v => exact ⟨fun _ => rfl, fun _ => .inl rfl⟩

/-- Filling a table from a map without defaults has no effect. -/
theorem entriesOf_eq {view : MapView} (h : view.IsPlain) : g.entriesOf view = pure (view.table g) := by
  cases view with
  | single es => rfl
  | layered ls =>
    have hkey (k : Value) : (do return (k, ← g.get k (.layered ls)) : Run (Value × Value)) =
        pure (k, ((MapView.layered ls).value? g k).getD .null) := by
      rw [get_eq_value? h, pure_bind]
    rw [entriesOf]
    simp only [hkey, List.mapM_pure]
    rfl

/-- **A table that is filled from a map holds what the map has.** -/
theorem find?_table (s : String) (view : MapView) :
    g.find? (.text s) (view.table g) = view.value? g (.text s) := by
  cases view with
  | single es => rfl
  | layered ls =>
    have hkey : .text s ∈ g.chainKeys ls ↔ ((MapView.layered ls).value? g (.text s)).isSome :=
      text_mem_chainKeys_iff g s ls
    rw [MapView.table, find?_map_keys]
    simp only [hkey]
    cases (MapView.layered ls).value? g (.text s) <;> rfl

/-! ### Distinct keys -/

/-- In the beginning it is enough to look at the entries of each table. -/
theorem orderly_fresh (h : ∀ n ∈ g.nodes.toList, g.Distinct n.entries) : g.Orderly .fresh := by
  intro place kind es hnode
  have hmem : .table kind es ∈ g.nodes.toList := by
    rw [Array.mem_toList_iff]
    exact Array.mem_of_getElem? hnode
  rw [Memory.fresh, List.append_nil]
  exact h _ hmem

/-- The entries of a table have distinct keys. -/
theorem Orderly.distinct_of_single {m : Memory} (hm : g.Orderly m) {v : Value} {es : Entries}
    (h : g.mapping? m v = some (.single es)) : g.Distinct es := by
  rcases mapping?_cases h with ⟨kind, entries, l, hnode, hl, hview⟩ | ⟨ws, -, hview⟩
  · obtain rfl := MapView.single.inj hview
    obtain ⟨i, rfl⟩ : ∃ i, v = .ref i := by
      cases v with
      | ref i => exact ⟨i, rfl⟩
      | _ => cases hnode
    have hdistinct := hm i kind entries hnode
    -- A table with a default also holds what it has gained.
    by_cases hkind : ∃ factory fresh, kind = .defaulting factory fresh
    · obtain ⟨factory, fresh, rfl⟩ := hkind
      have hlayers := layers_of_defaulting hnode m 0
      rw [hl 0] at hlayers
      rw [List.singleton_inj.mp hlayers]
      exact hdistinct
    · have hmapping : g.mapping? m (.ref i) = some (.single entries) :=
        mapping?_of_table hnode (fun factory fresh heq => hkind ⟨factory, fresh, heq⟩) m
      rw [hmapping] at h
      rw [← MapView.single.inj (Option.some.inj h)]
      exact List.Pairwise.sublist (List.sublist_append_left _ _) hdistinct
  · cases hview

theorem exists_distinct_chainKeys (g : Graph) (ls : List Layer) :
    ∃ es : Entries, g.Distinct es ∧ g.chainKeys ls = es.map Prod.fst := by
  refine ⟨_, ?_, rfl⟩
  rw [List.foldl_reverse]
  induction ls with
  | nil => exact List.Pairwise.nil
  | cons l ls ih => exact distinct_putAll ih _

/-- Values that are found key by key stand under these keys. -/
theorem keys_of_mapM {f : Value → Run Value} {ks : List Value} {σ σ' : RunState} {es : Entries}
    (h : (ks.mapM fun k => return (k, ← f k) : Run Entries).runFrom σ = (.ok es, σ')) : es.map Prod.fst = ks := by
  induction ks generalizing σ es with
  | nil =>
    cases h
    rfl
  | cons k ks ih =>
    rw [List.mapM_cons, bind_assoc] at h
    rcases hfirst : (f k).runFrom σ with ⟨fault | v, τ⟩
    · rw [runFrom_bind_error hfirst] at h
      cases h
    · rw [runFrom_bind_ok hfirst, pure_bind] at h
      rcases hrest : (ks.mapM fun k => return (k, ← f k) : Run Entries).runFrom τ with ⟨fault | rest, τ'⟩
      · rw [runFrom_bind_error hrest] at h
        cases h
      · rw [runFrom_bind_ok hrest] at h
        cases h
        rw [List.map_cons, ih hrest]

/-- **The entries of a map have distinct keys** if no table holds a key twice. -/
theorem Orderly.distinct_of_entriesOf {m : Memory} (hm : g.Orderly m) {v : Value} {view : MapView}
    (h : g.mapping? m v = some view) {σ σ' : RunState} {es : Entries}
    (hes : (g.entriesOf view).runFrom σ = (.ok es, σ')) : g.Distinct es := by
  cases view with
  | single entries =>
    cases hes
    exact hm.distinct_of_single h
  | layered ls =>
    obtain ⟨entries, hdistinct, hkeys⟩ := exists_distinct_chainKeys g ls
    exact distinct_of_keys_eq hdistinct ((keys_of_mapM hes).trans hkeys)

end Graph

end Stencil
