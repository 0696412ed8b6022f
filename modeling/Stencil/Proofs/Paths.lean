import Stencil.Descent
import Stencil.Proofs.Likeness

/-!
# Paths put together

The segments of a path that is put together from two are those of the one and then those of the other
(`Stencil.segments_dot`), and following them is following first the one and then the other
(`Stencil.Graph.runFrom_walk_append`). So a name shows, behind another one and a dot, what it shows in what the other
one stands for (`Stencil.Graph.runFrom_interpolate_dot`).

What is empty needs a word, for it ends a path: the rest of the path is not followed, and then nothing is shown. Where
the rest is followed nevertheless, it finds nothing (`Stencil.Graph.runFrom_child_of_isEmpty`), which shows as little.
And a scope whose size cannot be counted can be asked for one segment, but no path can be followed from it
(`Stencil.Graph.runFrom_interpolate_of_uncountable`).
-/

namespace Stencil

open Run

/-! ### Segments -/

namespace Text

theorem cutAt_ne_nil (sep : Char) (cs : List Char) : cutAt sep cs ≠ [] := by
  cases cs with
  | nil => exact List.cons_ne_nil _ _
  | cons c cs =>
    rw [cutAt]
    split
    · exact List.cons_ne_nil _ _
    · split <;> exact List.cons_ne_nil _ _

theorem cutAt_append (sep : Char) (cs ds : List Char) : cutAt sep (cs ++ sep :: ds) = cutAt sep cs ++ cutAt sep ds := by
  induction cs with
  | nil => exact if_pos rfl
  | cons c cs ih =>
    rw [List.cons_append, cutAt, cutAt, ih]
    split
    · rfl
    · cases hcs : cutAt sep cs with
      | nil => exact absurd hcs (cutAt_ne_nil sep cs)
      | cons d ds => rfl

theorem cutAt_of_notMem {sep : Char} {cs : List Char} (h : sep ∉ cs) : cutAt sep cs = [cs] := by
  induction cs with
  | nil => rfl
  | cons c cs ih =>
    obtain ⟨hc, hcs⟩ := not_or.mp (mt List.mem_cons.mpr h)
    rw [cutAt, if_neg (Ne.symm hc), ih hcs]

end Text

theorem segments_ne_nil (name : String) : segments name ≠ [] :=
  fun h => Text.cutAt_ne_nil _ _ (List.map_eq_nil_iff.mp h)

/-- The text of a name in front of a dot and another one. -/
theorem toList_dot (name rest : String) : (name ++ "." ++ rest).toList = name.toList ++ '.' :: rest.toList := by
  rw [String.toList_append, String.toList_append, List.append_assoc]
  rfl

/-- **A dot separates the segments in front of it from those behind it.** -/
theorem segments_dot (name rest : String) : segments (name ++ "." ++ rest) = segments name ++ segments rest := by
  rw [segments, toList_dot, Text.cutAt_append, List.map_append]
  rfl

theorem segments_of_notMem {name : String} (h : '.' ∉ name.toList) : segments name = [name] := by
  rw [segments, Text.cutAt_of_notMem h, List.map_singleton, String.ofList_toList]

/-- A name that is no path is its only segment, unless it begins with a dot. -/
theorem segments_of_not_isPath {name : String} (hdot : ¬BeginsWithDot name) (hname : isPath name = false) :
    segments name = [name] := by
  refine segments_of_notMem fun hmem => ?_
  rw [isPath] at hname
  rw [BeginsWithDot] at hdot
  cases htext : name.toList with
  | nil =>
    rw [htext] at hmem
    cases hmem
  | cons c cs =>
    rw [htext] at hmem hname hdot
    rcases List.mem_cons.mp hmem with rfl | hrest
    · exact hdot rfl
    · split at hname
      · next hnil => cases hnil
      · next hcons => exact hdot (congrArg List.head? hcons)
      · next d ds _ hcons =>
        obtain ⟨rfl, rfl⟩ := List.cons.inj hcons
        exact Bool.false_ne_true (hname.symm.trans (List.contains_iff_mem.mpr hrest))

theorem isPath_dot {name : String} (hname : name ≠ "") (hdot : ¬BeginsWithDot name) (rest : String) :
    isPath (name ++ "." ++ rest) = true := by
  rw [isPath, toList_dot]
  rw [BeginsWithDot] at hdot
  cases htext : name.toList with
  | nil => exact absurd (String.toList_eq_nil_iff.mp htext) hname
  | cons c cs =>
    rw [htext] at hdot
    rw [List.cons_append]
    split
    · next hnil => cases hnil
    · next hcons => exact absurd (congrArg some (List.cons.inj hcons).1) hdot
    · next hcons =>
      obtain ⟨rfl, rfl⟩ := List.cons.inj hcons
      exact List.contains_iff_mem.mpr (List.mem_append_right _ List.mem_cons_self)

namespace Graph

variable {g : Graph}

/-! ### What is not called -/

theorem invoke_eq_pure {v : Value} (hcallable : ∀ parameters b, g.node? v ≠ some (.callable parameters b))
    (htype : ∀ type fields sample, g.node? v ≠ some (.structType type fields sample)) : g.invoke v = pure v := by
  unfold invoke
  split
  · next hnode => exact absurd hnode (hcallable _ _)
  · next hnode => exact absurd hnode (htype _ _ _)
  · rfl

theorem invoke_of_elements? {v : Value} {xs : Elements} (h : g.elements? v = some xs) : g.invoke v = pure v := by
  refine invoke_eq_pure (fun _ _ hnode => ?_) fun _ _ _ hnode => ?_
  all_goals
    rw [elements?, hnode] at h
    cases h

theorem invoke_of_mapLike? {m : Memory} {v : Value} {view : MapView} (h : g.mapLike? m v = .ok (some view)) :
    g.invoke v = pure v := by
  refine invoke_eq_pure (fun _ _ hnode => ?_) fun _ _ _ hnode => ?_
  all_goals
    rw [mapLike?, mapping?, hnode] at h
    cases h

/-- Callables and types are not empty. -/
theorem invoke_of_isEmpty {m : Memory} {v : Value} (h : g.isEmpty m v = .ok true) : g.invoke v = pure v := by
  refine invoke_eq_pure (fun _ _ hnode => ?_) fun _ _ _ hnode => ?_
  all_goals
    cases v with
    | ref i =>
      rw [isEmpty, elements?, mapLike?, truth, elements?, mapping?, hnode] at h
      cases h
    | _ => cases hnode

theorem mapLike?_of_elements? {v : Value} {xs : Elements} (h : g.elements? v = some xs) (m : Memory) :
    g.mapLike? m v = .ok none := by
  rw [elements?] at h
  split at h
  · next hnode => rw [mapLike?, mapping?, hnode]
  · next hnode => rw [mapLike?, mapping?, hnode]
  · cases h

theorem elements?_of_mapLike? {m : Memory} {v : Value} {view : MapView} (h : g.mapLike? m v = .ok (some view)) :
    g.elements? v = none := by
  cases hxs : g.elements? v with
  | none => rfl
  | some xs =>
    rw [mapLike?_of_elements? hxs] at h
    cases h

/-! ### What is empty -/

theorem get_of_isEmpty {view : MapView} (h : view.isEmpty = true) (key : Value) : g.get key view = pure .null := by
  cases view with
  | single es =>
    rw [List.isEmpty_iff.mp h]
    rfl
  | layered ls =>
    have hnone : (ls.any fun l => (g.find? key l.entries).isSome) = false := by
      refine List.any_eq_false.mpr fun l hl => ?_
      rw [List.isEmpty_iff.mp (List.all_eq_true.mp h l hl)]
      exact Bool.false_ne_true
    rw [get, hnone, if_neg Bool.false_ne_true]

/-- The ways in which a value can be empty. -/
theorem isEmpty_cases {m : Memory} {v : Value} (h : g.isEmpty m v = .ok true) :
    (∃ xs, g.elements? v = some xs ∧ xs.size = 0) ∨
      (∃ view, g.mapLike? m v = .ok (some view) ∧ view.isEmpty = true) ∨
      g.elements? v = none ∧ g.mapLike? m v = .ok none := by
  rw [isEmpty] at h
  cases hxs : g.elements? v with
  | some xs =>
    rw [hxs] at h
    dsimp only at h
    split at h
    · exact .inl ⟨xs, rfl, beq_iff_eq.mp (Except.ok.inj h)⟩
    · cases h
  | none =>
    rw [hxs] at h
    dsimp only at h
    rcases hview : g.mapLike? m v with f | _ | view <;> rw [hview] at h
    · cases h
    · exact .inr (.inr ⟨rfl, rfl⟩)
    · exact .inr (.inl ⟨view, rfl, Except.ok.inj h⟩)

/-- The ways in which it cannot be told whether a value is empty. -/
theorem isEmpty_error_cases {m : Memory} {v : Value} {f : Fault} (h : g.isEmpty m v = .error f) :
    (∃ xs, g.elements? v = some xs ∧ sizeLimit ≤ xs.size) ∨ g.mapLike? m v = .error f ∨
      g.elements? v = none ∧ g.mapLike? m v = .ok none ∧ g.truth m v = .error f ∧
        ¬(f.kind = .type ∨ f.kind = .value) := by
  rw [isEmpty] at h
  cases hxs : g.elements? v with
  | some xs =>
    rw [hxs] at h
    dsimp only at h
    split at h
    · cases h
    · next hsize => exact .inl ⟨xs, rfl, Nat.le_of_not_lt hsize⟩
  | none =>
    rw [hxs] at h
    dsimp only at h
    rcases hview : g.mapLike? m v with f' | _ | view <;> rw [hview] at h
    · cases h
      exact .inr (.inl rfl)
    · dsimp only at h
      rcases htruth : g.truth m v with f' | b <;> rw [htruth] at h
      · dsimp only at h
        split at h
        · cases h
        · next hkind =>
          rw [Bool.or_eq_true, decide_eq_true_iff, decide_eq_true_iff] at hkind
          cases h
          exact .inr (.inr ⟨rfl, rfl, rfl, hkind⟩)
      · cases h
    · cases h

theorem at?_of_size_eq_zero {xs : Elements} (h : xs.size = 0) (i : Int) : xs.at? i = none := by
  have hget (j : Nat) : xs.get? j = none := by
    cases xs with
    | listed xs =>
      rw [List.eq_nil_of_length_eq_zero h]
      rfl
    | progression a d n =>
      obtain rfl : n = 0 := h
      rw [Elements.get?, if_neg (Nat.not_lt_zero j)]
  rw [Elements.at?, hget, ite_self]

/-- What a sequence has at an index that is written out. -/
theorem child_of_elements? {v : Value} {xs : Elements} (h : g.elements? v = some xs) (key : String) :
    g.child v key = pure (((Number.readInteger key.toList).bind xs.at?).getD .null) := by
  rw [child]
  simp only [mapLike?_of_elements? h, ofExcept_ok, pure_bind, h]
  cases Number.readInteger key.toList <;> rfl

/-- Nothing is found in what is empty. -/
theorem runFrom_child_of_isEmpty {v : Value} {σ : RunState} (h : g.isEmpty σ.memory v = .ok true) (key : String) :
    (g.child v key).runFrom σ = (.ok .null, σ) := by
  rcases isEmpty_cases h with ⟨xs, hxs, hsize⟩ | ⟨view, hview, hempty⟩ | ⟨hxs, hview⟩
  · rw [child_of_elements? hxs, runFrom_pure]
    cases Number.readInteger key.toList with
    | none => rfl
    | some i => rw [Option.bind_some, at?_of_size_eq_zero hsize]; rfl
  all_goals
    rw [child, runFrom_bind_ok (runFrom_memory σ), hview, ofExcept_ok, pure_bind]
    dsimp only
  · rw [get_of_isEmpty hempty, runFrom_pure]
  · rw [hxs]
    rfl

theorem runFrom_walk_of_isEmpty {v : Value} {σ : RunState} (h : g.isEmpty σ.memory v = .ok true) (ss : List String) :
    (g.walk v ss).runFrom σ = (.ok v, σ) := by
  cases ss with
  | nil => rfl
  | cons s ss =>
    have hempty : (g.empty? v).runFrom σ = (.ok true, σ) := by rw [runFrom_empty?, h]
    rw [walk, runFrom_bind_ok hempty]
    rfl

theorem runFrom_walk_of_not_isEmpty {v : Value} {σ : RunState} (h : g.isEmpty σ.memory v = .ok false) (s : String)
    (ss : List String) : (g.walk v (s :: ss)).runFrom σ = (g.child v s >>= fun w => g.walk w ss).runFrom σ := by
  have hempty : (g.empty? v).runFrom σ = (.ok false, σ) := by rw [runFrom_empty?, h]
  rw [walk, runFrom_bind_ok hempty]
  rfl

/-! ### Paths -/

/-- **Segments are followed one after the other.** -/
theorem runFrom_walk_append (v : Value) (ss ts : List String) (σ : RunState) :
    (g.walk v (ss ++ ts)).runFrom σ = (g.walk v ss >>= fun w => g.walk w ts).runFrom σ := by
  induction ss generalizing v σ with
  | nil => rfl
  | cons s ss ih =>
    rw [List.cons_append, walk, walk, bind_assoc]
    cases hempty : g.isEmpty σ.memory v with
    | error f =>
      have hrun : (g.empty? v).runFrom σ = (.error f, σ) := by rw [runFrom_empty?, hempty]
      rw [runFrom_bind_error hrun, runFrom_bind_error hrun]
    | ok empty =>
      have hrun : (g.empty? v).runFrom σ = (.ok empty, σ) := by rw [runFrom_empty?, hempty]
      rw [runFrom_bind_ok hrun, runFrom_bind_ok hrun]
      cases empty with
      | true =>
        -- The rest is not followed either way.
        rw [if_pos rfl, if_pos rfl, pure_bind, runFrom_walk_of_isEmpty hempty, runFrom_pure]
      | false =>
        rw [if_neg Bool.false_ne_true, if_neg Bool.false_ne_true, bind_assoc]
        rcases hchild : (g.child v s).runFrom σ with ⟨f | w, τ⟩
        · rw [runFrom_bind_error hchild, runFrom_bind_error hchild]
        · rw [runFrom_bind_ok hchild, runFrom_bind_ok hchild]
          exact ih w τ

theorem runFrom_scopeWalk_append (scope : Scope) {ss : List String} (hss : ss ≠ []) (ts : List String) (σ : RunState) :
    (g.scopeWalk scope (ss ++ ts)).runFrom σ = (g.scopeWalk scope ss >>= fun w => g.walk w ts).runFrom σ := by
  obtain ⟨s, ss, rfl⟩ := List.exists_cons_of_ne_nil hss
  have hfirst (r : Run Value) : (r >>= fun w => g.walk w (ss ++ ts)).runFrom σ =
      (r >>= fun w => g.walk w ss >>= fun w => g.walk w ts).runFrom σ := by
    rcases hr : r.runFrom σ with ⟨f | w, τ⟩
    · rw [runFrom_bind_error hr, runFrom_bind_error hr]
    · rw [runFrom_bind_ok hr, runFrom_bind_ok hr, runFrom_walk_append]
  cases scope with
  | value v => exact runFrom_walk_append v (s :: ss) ts σ
  | record es => exact hfirst _
  | layered v es => exact (hfirst _).trans (by rw [← bind_assoc]; rfl)

/-- What a name shows that resolves to a value. -/
def showValue (g : Graph) (v : Value) : Run String := g.see v >>= fun v? => v?.elim (pure "") g.show?

theorem interpolate_eq_showValue (scope : Scope) (name : String) :
    g.interpolate scope name = g.resolve scope name >>= g.showValue := by
  rw [interpolate_eq, seen?, bind_assoc]
  rfl

theorem runFrom_showValue_of_isEmpty {v : Value} {σ : RunState} (h : g.isEmpty σ.memory v = .ok true) :
    (g.showValue v).runFrom σ = (.ok "", σ) := by
  have hempty : (g.empty? v).runFrom σ = (.ok true, σ) := by rw [runFrom_empty?, h]
  rw [showValue, see, invoke_of_isEmpty h, pure_bind, bind_assoc, runFrom_bind_ok hempty]
  rfl

/-- A name that does not begin with a dot is resolved in what is not empty by following its segments. -/
theorem runFrom_resolve_of_not_isEmpty {v : Value} {σ : RunState} (h : g.isEmpty σ.memory v = .ok false) {name : String}
    (hdot : ¬BeginsWithDot name) : (g.resolve (.value v) name).runFrom σ = (g.walk v (segments name)).runFrom σ := by
  rw [resolve]
  cases hname : isPath name with
  | true =>
    rw [if_pos rfl]
    cases hss : segments name with
    | nil => exact absurd hss (segments_ne_nil name)
    | cons s ss => rfl
  | false =>
    have hbind : (g.child v name >>= fun w => g.walk w []) = g.child v name := bind_pure _
    rw [if_neg Bool.false_ne_true, segments_of_not_isPath hdot hname, runFrom_walk_of_not_isEmpty h, hbind]
    rfl

/-- Whether a scope is empty can be told where a name resolves in it, unless the scope is too long. It may be an object
that cannot be tested for its truth, but in that no name stands for anything. -/
theorem exists_isEmpty_of_resolve {scope : Scope} {name : String} {σ τ : RunState} {v : Value}
    (hresolve : (g.resolve scope name).runFrom σ = (.ok v, τ)) (hcountable : ¬g.Uncountable scope)
    (htestable : v = .null → g.Testable σ.memory scope) (w : Value) (hw : scope = .value w) :
    ∃ empty, g.isEmpty σ.memory w = .ok empty := by
  subst hw
  cases hempty : g.isEmpty σ.memory w with
  | ok empty => exact ⟨empty, rfl⟩
  | error f =>
    have hchild : (g.child w name).runFrom σ = (.ok v, τ) := by
      rw [resolve] at hresolve
      split at hresolve
      · -- No path is followed from what cannot be told to be empty.
        obtain ⟨s, ss, hss⟩ := List.exists_cons_of_ne_nil (segments_ne_nil name)
        have hrun : (g.empty? w).runFrom σ = (.error f, σ) := by rw [runFrom_empty?, hempty]
        have hwalk : (g.walk w (s :: ss)).runFrom σ = (.error f, σ) := runFrom_bind_error hrun _
        rw [hss] at hresolve
        cases hwalk.symm.trans hresolve
      · exact hresolve
    rw [child, runFrom_bind_ok (runFrom_memory σ)] at hchild
    rcases isEmpty_error_cases hempty with ⟨xs, hxs, hsize⟩ | hview | ⟨hxs, hview, htruth, hkind⟩
    · exact absurd ⟨w, xs, rfl, hxs, hsize⟩ hcountable
    · rw [hview] at hchild
      cases hchild
    · rw [hview, ofExcept_ok, pure_bind] at hchild
      dsimp only at hchild
      rw [hxs] at hchild
      have hnull : v = .null := (Except.ok.inj (Prod.mk.inj hchild).1).symm
      exact absurd (htestable hnull w f rfl htruth) hkind

/-- **No path can be followed from a scope that is too long**, though a single name can be looked up in it. -/
theorem runFrom_interpolate_of_uncountable {scope : Scope} (hscope : g.Uncountable scope) {name : String}
    (hname : name ≠ "") (hdot : ¬BeginsWithDot name) (rest : String) (σ : RunState) :
    (g.interpolate scope (name ++ "." ++ rest)).runFrom σ = (.error .tooManyElements, σ) := by
  obtain ⟨v, xs, rfl, hxs, hsize⟩ := hscope
  obtain ⟨s, ss, hss⟩ := List.exists_cons_of_ne_nil (segments_ne_nil (name ++ "." ++ rest))
  have hempty : (g.empty? v).runFrom σ = (.error .tooManyElements, σ) := by
    rw [runFrom_empty?, isEmpty, hxs]
    dsimp only
    rw [if_neg (Nat.not_lt_of_le hsize)]
  rw [interpolate_eq_showValue, resolve, isPath_dot hname hdot rest, if_pos rfl, hss, scopeWalk, walk]
  exact runFrom_bind_error (runFrom_bind_error hempty _) _

section Dot

variable {scope : Scope} {name : String} (hname : name ≠ "") (hdot : ¬BeginsWithDot name) {σ τ : RunState} {v : Value}
  (hresolve : (g.resolve scope name).runFrom σ = (.ok v, τ)) (rest : String)

include hname hdot hresolve

/-- The segments behind a dot are followed from what the name in front of it stands for, but for a scope that is empty:
that is itself where the path ends, while a single name finds nothing in it. -/
theorem runFrom_resolve_dot (hscope : ∀ w, scope = .value w → ∃ empty, g.isEmpty σ.memory w = .ok empty) :
    (g.resolve scope (name ++ "." ++ rest)).runFrom σ = (g.walk v (segments rest)).runFrom τ ∨
      v = .null ∧ τ = σ ∧ ∃ w, g.isEmpty σ.memory w = .ok true ∧
        (g.resolve scope (name ++ "." ++ rest)).runFrom σ = (.ok w, σ) := by
  rw [resolve, isPath_dot hname hdot rest, if_pos rfl, segments_dot]
  rw [resolve] at hresolve
  cases hpath : isPath name with
  | true =>
    rw [hpath, if_pos rfl] at hresolve
    rw [runFrom_scopeWalk_append scope (segments_ne_nil name), runFrom_bind_ok hresolve]
    exact .inl rfl
  | false =>
    rw [hpath, if_neg Bool.false_ne_true] at hresolve
    rw [segments_of_not_isPath hdot hpath, List.singleton_append]
    cases scope with
    | record es => exact .inl (runFrom_bind_ok hresolve _)
    | layered w es => exact .inl (runFrom_bind_ok hresolve _)
    | value w =>
      have hchild : (g.child w name).runFrom σ = (.ok v, τ) := hresolve
      obtain ⟨empty, hempty⟩ := hscope w rfl
      cases empty with
      | true =>
        rw [runFrom_child_of_isEmpty hempty] at hchild
        cases hchild
        exact .inr ⟨rfl, rfl, w, hempty, runFrom_walk_of_isEmpty hempty _⟩
      | false =>
        refine .inl ((runFrom_walk_of_not_isEmpty hempty _ _).trans ?_)
        rw [runFrom_bind_ok hchild]

/-- **A name behind a dot shows what its segments lead to** from what the name in front of the dot stands for. -/
theorem runFrom_interpolate_dot (hscope : ∀ w, scope = .value w → ∃ empty, g.isEmpty σ.memory w = .ok empty) :
    (g.interpolate scope (name ++ "." ++ rest)).runFrom σ = (g.walk v (segments rest) >>= g.showValue).runFrom τ := by
  rw [interpolate_eq_showValue]
  rcases runFrom_resolve_dot hname hdot hresolve rest hscope with hfollow | ⟨rfl, rfl, w, hempty, hfollow⟩
  · exact runFrom_bind_congr hfollow _
  · -- The scope is empty, and so is what is not there: neither is shown.
    have hnull : g.isEmpty τ.memory .null = .ok true := rfl
    rw [runFrom_bind_ok hfollow, runFrom_showValue_of_isEmpty hempty,
      runFrom_bind_ok (runFrom_walk_of_isEmpty hnull _), runFrom_showValue_of_isEmpty hnull]

end Dot

end Graph

end Stencil
