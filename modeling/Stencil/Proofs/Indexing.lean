import Stencil.Proofs.Constancy
import Stencil.Proofs.Descent
import Stencil.Proofs.Numerals

/-!
# Iterating over a sequence shows what its indices show

A block repeats its body for each element of a sequence, with the element under the name `.` if it has no names of its
own. A path picks out one element by its index, which is written as a numeral. What the block shows with the body `.` is
what the paths show with the indices from the first to the last, put one after the other, and so it is with the indices
counted from the end (`Stencil.Setting.render_iterated_eq_joined`).

On both sides an element shows the same, when it is looked at from the same state. The block looks at the elements in
turn, though, and what was shown before may have been calls. This makes no difference where callables return the same
value each time: showing an element makes no table gain an entry (`Stencil.Graph.keepsGained_showValue`), and all else
depends on the gained entries alone.

A segment can be any text. What counts is the integer that it is read as, and if it is read as none, then nothing is
shown. All of this presupposes that the size of the sequence can be counted; if not, each path fails
(`Stencil.Setting.exists_indexing_fails`).
-/

namespace Stencil

open Run

/-! ### Indices -/

namespace Elements

variable (xs : Elements)

theorem get?_of_le {i : Nat} (h : xs.size ≤ i) : xs.get? i = none := by
  rw [get?_eq_getElem?]
  exact List.getElem?_eq_none (xs.size_eq_length ▸ h)

theorem at?_natCast (i : Nat) : xs.at? i = xs.get? i := by
  have hi : ¬(i : Int) < 0 := Int.not_lt.mpr (Int.natCast_nonneg i)
  rw [at?, if_neg hi, if_neg hi, Int.toNat_natCast]

/-- Counted from the end. -/
theorem at?_sub_size {i : Nat} (h : i < xs.size) : xs.at? ((i : Int) - xs.size) = xs.get? i := by
  have hneg : (i : Int) - xs.size < 0 := by omega
  have hback : (i : Int) - xs.size + xs.size = i := by omega
  have hi : ¬(i : Int) < 0 := Int.not_lt.mpr (Int.natCast_nonneg i)
  rw [at?, if_pos hneg, hback, if_neg hi, Int.toNat_natCast]

theorem at?_eq_none {i : Int} (h : i < -xs.size ∨ xs.size ≤ i) : xs.at? i = none := by
  by_cases hi : i < 0
  · have hback : i + xs.size < 0 := by omega
    rw [at?, if_pos hi, if_pos hback]
  · rw [at?, if_neg hi, if_neg hi, xs.get?_of_le (by omega)]

theorem toList_eq_map : xs.toList = (List.range xs.size).map fun i => (xs.get? i).getD .null := by
  refine List.ext_getElem (by rw [List.length_map, List.length_range, size_eq_length]) fun i hi _ => ?_
  rw [List.getElem_map, List.getElem_range, get?_eq_getElem?, List.getElem?_eq_getElem hi, Option.getD_some]

end Elements

/-! ### Results put together -/

/-- The texts of results one after the other, or the first fault among them. -/
def joined : List (Except Fault String) → Except Fault String
  | [] => .ok ""
  | r :: rs => do return (← r) ++ (← joined rs)

/-- What is shown for elements in turn is what is shown for each of them, if this is so whenever a condition on the
state is met, which is met again afterwards. A fault is the one that leaves the iteration. -/
theorem Graph.runFrom_concatMap {f : Value → Run String} {shown : Value → Except Fault String} {P : RunState → Prop}
    {xs : List Value} (h : ∀ x ∈ xs, ∀ σ, P σ → ((f x).runFrom σ).1 = shown x ∧ P ((f x).runFrom σ).2) {σ : RunState}
    (hσ : P σ) : ((concatMap f xs).runFrom σ).1 = (joined (xs.map shown)).mapError Fault.outOfIteration := by
  induction xs generalizing σ with
  | nil => rfl
  | cons x xs ih =>
    obtain ⟨hshown, hkept⟩ := h x List.mem_cons_self σ hσ
    rw [List.map_cons, joined, ← hshown, concatMap]
    have hinside := runFrom_insideIteration (f x) σ
    rcases hx : (f x).runFrom σ with ⟨e | text, τ⟩ <;> rw [hx] at hinside
    · rw [runFrom_bind_error hinside]
      rfl
    · rw [hx] at hkept
      have hrest := ih (fun y hy => h y (List.mem_cons_of_mem x hy)) hkept
      rw [runFrom_bind_ok hinside]
      rcases hxs : (concatMap f xs).runFrom τ with ⟨e | texts, τ'⟩ <;> rw [hxs] at hrest
      · rw [runFrom_bind_error hxs]
        cases hjoined : joined (xs.map shown) <;> rw [hjoined] at hrest <;> cases hrest
        rfl
      · rw [runFrom_bind_ok hxs]
        cases hjoined : joined (xs.map shown) <;> rw [hjoined] at hrest <;> cases hrest
        rfl

/-! ### Showing changes no table -/

namespace Run

/-- Whether no table has gained an entry after a run. -/
def KeepsGained {α : Type} (r : Run α) : Prop := ∀ σ, (r.runFrom σ).2.memory.gained = σ.memory.gained

variable {α β : Type}

theorem keepsGained_pure (x : α) : KeepsGained (pure x : Run α) := fun _ => rfl

theorem keepsGained_ofExcept (r : Except Fault α) : KeepsGained (ofExcept r) := fun σ => by rw [runFrom_ofExcept]

theorem keepsGained_memory : KeepsGained memory := fun _ => rfl

theorem KeepsGained.bind {r : Run α} {k : α → Run β} (hr : KeepsGained r) (hk : ∀ x, KeepsGained (k x)) :
    KeepsGained (r >>= k) :=
  kept_bind (fun σ => σ.memory.gained) hr hk

end Run

namespace Graph

variable {g : Graph}

theorem keepsGained_invoke (v : Value) : KeepsGained (g.invoke v) := by
  unfold invoke
  split
  · split
    · intro σ
      next behaviour _ _ => cases behaviour <;> rfl
    · exact keepsGained_pure _
  · split <;> exact keepsGained_pure _
  · exact keepsGained_pure _

/-- **Showing a value makes no table gain an entry.** -/
theorem keepsGained_showValue (v : Value) : KeepsGained (g.showValue v) := by
  refine KeepsGained.bind ((keepsGained_invoke v).bind fun w => ?_) fun v? => ?_
  · refine (keepsGained_memory.bind fun m => keepsGained_ofExcept _).bind fun empty => ?_
    split <;> exact keepsGained_pure _
  · cases v? with
    | none => exact keepsGained_pure _
    | some w => exact keepsGained_memory.bind fun m => keepsGained_ofExcept _

/-- The name `.` stands for an item. -/
theorem interpolate_item (v : Value) : g.interpolate (.item v) "." = g.showValue v := by
  have hresolve : g.resolve (.item v) "." = pure v := by
    have hpath : isPath "." = false := by decide
    rw [resolve, hpath, if_neg Bool.false_ne_true]
    rfl
  rw [interpolate_eq_showValue, hresolve, pure_bind]

/-- What a value shows depends on the gained entries alone, where callables return the same value each time. -/
theorem isConstant_showValue (hg : g.RepliesConstantly) (v : Value) : IsConstant g (g.showValue v) := by
  rw [← interpolate_item]
  exact (Asks.interpolate (.item v) ".").isConstant hg

/-- Whether a value is map-like does not depend on the memory. -/
theorem mapLike?_eq_none {m : Memory} {v : Value} (h : g.mapLike? m v = .ok none) (m' : Memory) :
    g.mapLike? m' v = .ok none := by
  rw [mapLike?, mapping?] at h ⊢
  cases hnode : g.node? v with
  | none => rfl
  | some n =>
    rw [hnode] at h
    cases n with
    | table => cases h
    | chain => cases h
    | struct => cases h
    | model type declared attributes =>
      cases declared with
      | none => rfl
      | some names =>
        dsimp only at h
        cases hfields : declaredFields type attributes names.eraseDups <;> rw [hfields] at h <;> cases h
    | _ => rfl

/-! ### Elements -/

section

variable {leaf : String → Leaf} {present : String → String}
  (hpresent : ∀ g inclusion name scope stack, renderParts g inclusion (.leaf (leaf name) .nil) scope stack =
    g.interpolate scope name >>= fun text => pure (present text))
  (inclusion : String → Scope → Stack → Run String)

include hpresent

/-- What a block shows that shows each element of a sequence. -/
theorem runFrom_renderSeen_of_elements? (hg : g.RepliesConstantly) {v : Value} {xs : Elements}
    (hxs : g.elements? v = some xs) {τ : RunState} (hitems : ∀ x ∈ xs.toList, g.mapLike? τ.memory x = .ok none)
    (scope : Scope) (stack : Stack) :
    let iterated :=
      ((g.renderSeen scope stack (renderParts g inclusion (.leaf (leaf ".") .nil)) v).runFrom τ).1
    let shown := xs.toList.map fun x => ((g.showValue x).runFrom τ).1.map present
    iterated = (joined shown).mapError Fault.outOfIteration ∨
      stack.Short Stack.iteratedFrames ∧ iterated = .error .stackExhausted := by
  rw [renderSeen, hxs]
  dsimp only
  have helement (x : Value) (hx : x ∈ xs.toList) (σ : RunState) :
      (g.elementScope x).runFrom σ = (.ok (.item x), σ) := by
    rw [elementScope, runFrom_bind_ok (runFrom_memory σ), mapLike?_eq_none (hitems x hx)]
    rfl
  by_cases hroom : stack.Short Stack.iteratedFrames
  · cases hlist : xs.toList with
    | nil => exact .inl rfl
    | cons x rest =>
      have hfirst := helement x (hlist ▸ List.mem_cons_self) τ
      have hfails : (insideIteration (g.elementScope x >>= fun inner => stack.enter Stack.iteratedFrames >>= fun left =>
          renderParts g inclusion (.leaf (leaf ".") .nil) inner left)).runFrom τ = (.error .stackExhausted, τ) := by
        rw [runFrom_insideIteration, runFrom_bind_ok hfirst, runFrom_bind_error (hroom.runFrom_enter τ)]
        rfl
      rw [concatMap, runFrom_bind_error hfails]
      exact .inr ⟨hroom, rfl⟩
  · refine .inl (runFrom_concatMap (P := fun σ => τ.memory.gained = σ.memory.gained) (fun x hx σ hσ => ?_) rfl)
    rcases henter : (stack.enter Stack.iteratedFrames).runFrom σ with ⟨f | left, σ'⟩
    · obtain ⟨n, hstack, hn, -⟩ := Stack.of_enter_error henter
      exact absurd ⟨n, hstack, hn⟩ hroom
    · obtain rfl := Stack.of_enter_ok henter
      rw [runFrom_bind_ok (helement x hx σ), runFrom_bind_ok henter, hpresent, runFrom_bind_pure, interpolate_item]
      obtain ⟨hsame, -⟩ := (isConstant_showValue hg x).endsAlike hσ
      exact ⟨by rw [hsame], hσ.trans (keepsGained_showValue x σ).symm⟩

/-- The same for a block whose name stands for the sequence, if its size can be counted. -/
theorem runFrom_block_of_elements? (hg : g.RepliesConstantly) {scope : Scope} {name : String} {σ τ : RunState}
    {v : Value} {xs : Elements} (hresolve : (g.resolve scope name).runFrom σ = (.ok v, τ))
    (hxs : g.elements? v = some xs) (hitems : ∀ x ∈ xs.toList, g.mapLike? τ.memory x = .ok none)
    (hsize : xs.size < sizeLimit) (stack : Stack) :
    let iterated :=
      ((renderParts g inclusion (.block .plain name (.leaf (leaf ".") .nil) .nil) scope stack).runFrom σ).1
    let shown := xs.toList.map fun x => ((g.showValue x).runFrom τ).1.map present
    iterated = (joined shown).mapError Fault.outOfIteration ∨
      stack.Short Stack.iteratedFrames ∧ iterated = .error .stackExhausted := by
  have hcount : g.isEmpty τ.memory v = .ok (xs.size == 0) := by
    rw [isEmpty, hxs]
    exact if_pos hsize
  intro iterated
  have hblock : iterated = ((if xs.size == 0 then pure "" else g.renderSeen scope stack
      (renderParts g inclusion (.leaf (leaf ".") .nil)) v : Run String).runFrom τ).1 := by
    change ((renderParts g inclusion _ scope stack).runFrom σ).1 = _
    rw [renderParts_block_nil, renderBlock, runFrom_renderPlain hresolve (invoke_of_elements? hxs) hcount]
  rw [hblock]
  cases hzero : xs.size == 0 with
  | true =>
    have hnone : xs.toList = [] := by
      rw [← List.length_eq_zero_iff, ← xs.size_eq_length]
      exact beq_iff_eq.mp hzero
    rw [hnone]
    exact .inl rfl
  | false => exact runFrom_renderSeen_of_elements? hpresent inclusion hg hxs hitems scope stack

end

/-! ### Segments of one name behind another -/

section

variable {scope : Scope} {name : String} (hname : name ≠ "") (hdot : ¬BeginsWithDot name) {σ τ : RunState} {v : Value}
  (hresolve : (g.resolve scope name).runFrom σ = (.ok v, τ)) {xs : Elements} (hxs : g.elements? v = some xs)

include hname hdot hresolve hxs

/-- **A segment behind a sequence shows the element at the index that it is read as**, and nothing if there is none. -/
theorem runFrom_interpolate_index (hscope : ¬g.Uncountable scope) (hsize : xs.size < sizeLimit) {segment : String}
    (hsegment : '.' ∉ segment.toList) :
    ((g.interpolate scope (name ++ "." ++ segment)).runFrom σ).1 =
      ((g.showValue (((Number.readInteger segment.toList).bind xs.at?).getD .null)).runFrom τ).1 := by
  have hnotnull : v = .null → g.Testable σ.memory scope := by
    rintro rfl
    cases hxs
  have hempty : g.isEmpty τ.memory v = .ok (xs.size == 0) := by
    rw [isEmpty, hxs]
    exact if_pos hsize
  rw [runFrom_interpolate_dot hname hdot hresolve segment (exists_isEmpty_of_resolve hresolve hscope hnotnull),
    segments_of_notMem hsegment]
  cases hzero : xs.size == 0 with
  | true =>
    rw [hzero] at hempty
    have hat : (Number.readInteger segment.toList).bind xs.at? = none := by
      refine Option.bind_eq_none_iff.mpr fun i _ => ?_
      exact at?_of_size_eq_zero (beq_iff_eq.mp hzero) i
    have hnull : g.isEmpty τ.memory .null = .ok true := rfl
    rw [runFrom_bind_ok (runFrom_walk_of_isEmpty hempty _), runFrom_showValue_of_isEmpty hempty, hat, Option.getD_none,
      runFrom_showValue_of_isEmpty hnull]
  | false =>
    rw [hzero] at hempty
    have hwalk : (g.walk v [segment]).runFrom τ =
        (.ok (((Number.readInteger segment.toList).bind xs.at?).getD .null), τ) := by
      rw [runFrom_walk_of_not_isEmpty hempty, child_of_elements? hxs, pure_bind]
      rfl
    rw [runFrom_bind_ok hwalk]

/-- A segment that picks out no element shows nothing. -/
theorem runFrom_interpolate_index_of_none (hscope : ¬g.Uncountable scope) (hsize : xs.size < sizeLimit)
    {segment : String} (hsegment : '.' ∉ segment.toList)
    (hat : (Number.readInteger segment.toList).bind xs.at? = none) :
    ((g.interpolate scope (name ++ "." ++ segment)).runFrom σ).1 = .ok "" := by
  have hnull : g.isEmpty τ.memory .null = .ok true := rfl
  rw [runFrom_interpolate_index hname hdot hresolve hxs hscope hsize hsegment, hat, Option.getD_none,
    runFrom_showValue_of_isEmpty hnull]

/-- The numeral of an index shows the element there. Indices in range are short enough to be read. -/
theorem runFrom_interpolate_numeral (hscope : ¬g.Uncountable scope) (hsize : xs.size < sizeLimit) {i : Int}
    (hi : i.natAbs ≤ xs.size) : ((g.interpolate scope (name ++ "." ++ toString i)).runFrom σ).1 =
      ((g.showValue ((xs.at? i).getD .null)).runFrom τ).1 := by
  have hread : Number.readInteger (toString i).toList = some i :=
    Number.readInteger_toString_of_lt (Nat.lt_of_le_of_lt hi (Nat.lt_trans hsize (by decide)))
  rw [runFrom_interpolate_index hname hdot hresolve hxs hscope hsize
    (Number.notMem_toString (by decide) (by decide) i), hread, Option.bind_some]

/-- The numeral of an index out of range shows nothing, also if it is too long to be read. -/
theorem runFrom_interpolate_numeral_of_out (hscope : ¬g.Uncountable scope) (hsize : xs.size < sizeLimit) {i : Int}
    (hi : i < -xs.size ∨ xs.size ≤ i) :
    ((g.interpolate scope (name ++ "." ++ toString i)).runFrom σ).1 = .ok "" := by
  refine runFrom_interpolate_index_of_none hname hdot hresolve hxs hscope hsize
    (Number.notMem_toString (by decide) (by decide) i) ?_
  rw [Number.readInteger_toString]
  split
  · exact xs.at?_eq_none hi
  · rfl

/-- No path can be followed into a sequence whose size cannot be counted. -/
theorem runFrom_interpolate_index_of_le (hsize : sizeLimit ≤ xs.size) (segment : String) :
    ((g.interpolate scope (name ++ "." ++ segment)).runFrom σ).1 = .error .tooManyElements := by
  by_cases hscope : g.Uncountable scope
  · rw [runFrom_interpolate_of_uncountable hscope hname hdot]
  · have hnotnull : v = .null → g.Testable σ.memory scope := by
      rintro rfl
      cases hxs
    obtain ⟨s, ss, hss⟩ := List.exists_cons_of_ne_nil (segments_ne_nil segment)
    have hempty : (g.empty? v).runFrom τ = (.error .tooManyElements, τ) := by
      rw [runFrom_empty?, isEmpty, hxs]
      dsimp only
      rw [if_neg (Nat.not_lt_of_le hsize)]
    have hwalk : (g.walk v (segments segment)).runFrom τ = (.error .tooManyElements, τ) := by
      rw [hss]
      exact runFrom_bind_error hempty _
    rw [runFrom_interpolate_dot hname hdot hresolve segment (exists_isEmpty_of_resolve hresolve hscope hnotnull),
      runFrom_bind_error hwalk]

end

end Graph

namespace Setting

/-- **A block that shows each element of a sequence shows what its indices show**, one after the other, counted from
the front or from the end. An index out of range shows nothing, whatever its numeral; segments that are read as the
same integer show the same, and one that is read as none shows nothing.

That is so where the elements are not map-like, callables return the same value each time, and the stack has the frames
of the block. If an element cannot be shown, its index ends in the fault that the block ends in, but for one that must
not leave an iteration as it is (`Stencil.Fault.outOfIteration`). And the size of the sequence must be one that can be
counted, and that of the scope, if it is a sequence as well: if not, each index fails. -/
theorem render_iterated_eq_joined (s : Setting) {leaf : String → Leaf} (hleaf : IsInterpolation leaf) {scope : Scope}
    {name : String} (hname : name ≠ "") (hdot : ¬BeginsWithDot name) {σ τ : RunState} {v : Value} {xs : Elements}
    (hresolve : (s.graph.resolve scope name).runFrom σ = (.ok v, τ)) (hxs : s.graph.elements? v = some xs)
    (hitems : ∀ x ∈ xs.toList, s.graph.mapLike? τ.memory x = .ok none) (hreplies : s.graph.RepliesConstantly)
    (stack : Stack) :
    let shown (t : Template) := ((s.render t scope stack).runFrom σ).1
    let indexed (segment : String) := shown (.leaf (leaf (name ++ "." ++ segment)) .nil)
    let iterated := shown (.block .plain name (.leaf (leaf ".") .nil) .nil)
    let fromFront := (List.range xs.size).map fun (i : Nat) => indexed (toString (i : Int))
    let fromEnd := (List.range xs.size).map fun (i : Nat) => indexed (toString ((i : Int) - xs.size))
    (¬s.graph.Uncountable scope → xs.size < Graph.sizeLimit →
      (iterated = (joined fromFront).mapError Fault.outOfIteration ∨
        stack.Short Stack.iteratedFrames ∧ iterated = .error .stackExhausted) ∧
      fromEnd = fromFront ∧
      (∀ i : Int, i < -xs.size ∨ xs.size ≤ i → indexed (toString i) = .ok "") ∧
      ∀ segment, '.' ∉ segment.toList →
        (∀ i, Number.readInteger segment.toList = some i → i < -xs.size ∨ xs.size ≤ i → indexed segment = .ok "") ∧
        (Number.readInteger segment.toList = none → indexed segment = .ok "") ∧
        ∀ segment', '.' ∉ segment'.toList →
          Number.readInteger segment.toList = Number.readInteger segment'.toList →
            indexed segment = indexed segment') ∧
    (s.graph.Uncountable scope ∨ Graph.sizeLimit ≤ xs.size → ∀ segment, indexed segment = .error .tooManyElements) := by
  intro shown indexed iterated fromFront fromEnd
  obtain ⟨present, hempty, hpresent⟩ := Graph.exists_renderParts_interpolation hleaf
  have hshown (segment : String) : indexed segment =
      ((s.graph.interpolate scope (name ++ "." ++ segment)).runFrom σ).1.map present := by
    change ((renderParts s.graph _ _ scope stack).runFrom σ).1 = _
    rw [hpresent, runFrom_bind_pure]
  have hnothing {segment : String} (h : ((s.graph.interpolate scope (name ++ "." ++ segment)).runFrom σ).1 = .ok "") :
      indexed segment = .ok "" := by
    rw [hshown, h]
    exact congrArg Except.ok hempty
  refine ⟨fun hscope hsize => ?_, fun huncountable segment => ?_⟩
  · have hfront (i : Nat) (hi : i < xs.size) : indexed (toString (i : Int)) =
        ((s.graph.showValue ((xs.get? i).getD .null)).runFrom τ).1.map present := by
      rw [hshown, Graph.runFrom_interpolate_numeral hname hdot hresolve hxs hscope hsize (by omega), xs.at?_natCast]
    -- The block, the indices from the end, those out of range, and then what other segments are read as.
    refine ⟨?_, ?_, fun i hi => ?_, fun segment hsegment => ⟨fun i hi hout => ?_, fun hnone => ?_, ?_⟩⟩
    · have hitemwise : joined fromFront =
          joined (xs.toList.map fun x => ((s.graph.showValue x).runFrom τ).1.map present) := by
        rw [xs.toList_eq_map, List.map_map]
        exact congrArg joined (List.map_congr_left fun i hi => hfront i (List.mem_range.mp hi))
      rw [hitemwise]
      exact Graph.runFrom_block_of_elements? hpresent _ hreplies hresolve hxs hitems hsize stack
    · refine List.map_congr_left fun i hi => ?_
      have hlt : i < xs.size := List.mem_range.mp hi
      rw [hfront i hlt, hshown, Graph.runFrom_interpolate_numeral hname hdot hresolve hxs hscope hsize (by omega),
        xs.at?_sub_size hlt]
    · exact hnothing (Graph.runFrom_interpolate_numeral_of_out hname hdot hresolve hxs hscope hsize hi)
    · exact hnothing (Graph.runFrom_interpolate_index_of_none hname hdot hresolve hxs hscope hsize hsegment
        (by rw [hi, Option.bind_some, xs.at?_eq_none hout]))
    · exact hnothing (Graph.runFrom_interpolate_index_of_none hname hdot hresolve hxs hscope hsize hsegment
        (by rw [hnone, Option.bind_none]))
    · intro segment' hsegment' hsame
      rw [hshown, hshown, Graph.runFrom_interpolate_index hname hdot hresolve hxs hscope hsize hsegment,
        Graph.runFrom_interpolate_index hname hdot hresolve hxs hscope hsize hsegment', hsame]
  · rw [hshown]
    rcases huncountable with hscope | hsize
    · rw [Graph.runFrom_interpolate_of_uncountable hscope hname hdot]
      rfl
    · rw [Graph.runFrom_interpolate_index_of_le hname hdot hresolve hxs hsize]
      rfl

/-- Tags of several kinds, one of which is made by a callable. -/
def tagged : Setting where
  graph := ⟨#[
    .table .plain [(.text "tags", .ref 1)],
    .sequence .deque [.text "<a>", .null, .ref 2, .int 7],
    .callable (some []) (.replies (.text "b") [])], by decide⟩
  settings := .initial
  partials := .value .null

/-- The tags are shown in turn, or by their indices from either end. -/
theorem render_iterated_eq_joined_tagged :
    let shown (t : Template) := ((tagged.render t (.value (.ref 0)) Stack.ordinary).runFrom ⟨.fresh, #[]⟩).1
    let indexed (i : Int) := shown (.leaf (.name ("tags" ++ "." ++ toString i)) .nil)
    let iterated := shown (.block .plain "tags" (.leaf (.name ".") .nil) .nil)
    iterated.toOption = some "&lt;a&gt;b7" ∧
      iterated = joined ((List.range 4).map fun (i : Nat) => indexed i) ∧
      iterated = joined ((List.range 4).map fun (i : Nat) => indexed ((i : Int) - (4 : Nat))) ∧
      indexed 4 = .ok "" ∧ indexed (-5) = .ok "" := by
  intro shown indexed iterated
  have hreplies : tagged.graph.RepliesConstantly := by
    intro i parameters behaviour hnode
    have hmem := Array.mem_of_getElem? hnode
    simp only [tagged, List.mem_toArray, List.mem_cons, List.not_mem_nil, reduceCtorEq, false_or, or_false] at hmem
    cases hmem
    exact List.forall_mem_nil _
  have hresolve : (tagged.graph.resolve (.value (.ref 0)) "tags").runFrom ⟨.fresh, #[]⟩ =
      (.ok (.ref 1), ⟨.fresh, #[]⟩) := rfl
  have hxs : tagged.graph.elements? (.ref 1) = some (.listed [.text "<a>", .null, .ref 2, .int 7]) := rfl
  have hitems : ∀ x ∈ (Elements.listed [.text "<a>", .null, .ref 2, .int 7]).toList,
      tagged.graph.mapLike? .fresh x = .ok none := by
    simp only [Elements.toList, List.mem_cons, List.not_mem_nil, or_false]
    rintro x (rfl | rfl | rfl | rfl) <;> rfl
  have hscope : ¬tagged.graph.Uncountable (.value (.ref 0)) := by
    rintro ⟨v, xs, ⟨⟩, ⟨⟩, -⟩
  have hroom : ¬Stack.ordinary.Short Stack.iteratedFrames := by
    rintro ⟨n, ⟨⟩, hn⟩
    exact absurd hn (by decide)
  have htags : "tags" ≠ "" ∧ ¬BeginsWithDot "tags" := by decide
  obtain ⟨hiterated, hends, hout, -⟩ := (render_iterated_eq_joined tagged (.inl rfl) htags.1 htags.2 hresolve hxs hitems
    hreplies Stack.ordinary).1 hscope (by decide)
  have hfront : iterated = joined ((List.range 4).map fun (i : Nat) => indexed i) :=
    hiterated.resolve_right fun hshort => hroom hshort.1
  exact ⟨by decide +kernel, hfront, hfront.trans (congrArg joined hends.symm), hout 4 (by decide),
    hout (-5) (by decide)⟩

/-- A range `p` that is longer than sizes can count. -/
def long : Setting where
  graph := ⟨#[.table .plain [(.text "p", .ref 1)], .range 0 (Int.pow 10 30) 1], by decide⟩
  settings := .initial
  partials := .value .null

/-- **In a range that is too long even a segment fails that is no index.** -/
theorem exists_indexing_fails :
    (long.graph.resolve (.value (.ref 0)) "p").runFrom ⟨.fresh, #[]⟩ = (.ok (.ref 1), ⟨.fresh, #[]⟩) ∧
      long.graph.elements? (.ref 1) = some (.progression 0 1 (Graph.rangeSize 0 (Int.pow 10 30) 1)) ∧
      Number.readInteger "x".toList = none ∧
      ((long.render (.leaf (.name ("p" ++ "." ++ "x")) .nil) (.value (.ref 0)) Stack.ordinary).runFrom
        ⟨.fresh, #[]⟩).1 = .error .tooManyElements := by
  have hresolve :
      (long.graph.resolve (.value (.ref 0)) "p").runFrom ⟨.fresh, #[]⟩ = (.ok (.ref 1), ⟨.fresh, #[]⟩) := rfl
  have hxs : long.graph.elements? (.ref 1) = some (.progression 0 1 (Graph.rangeSize 0 (Int.pow 10 30) 1)) := rfl
  have hsize : Graph.sizeLimit ≤ Graph.rangeSize 0 (Int.pow 10 30) 1 := by decide +kernel
  have hp : "p" ≠ "" ∧ ¬BeginsWithDot "p" := by decide
  have hfails := Graph.runFrom_interpolate_index_of_le hp.1 hp.2 hresolve hxs hsize "x"
  obtain ⟨present, -, hpresent⟩ := Graph.exists_renderParts_interpolation (.inl rfl)
  refine ⟨hresolve, hxs, by decide, ?_⟩
  rw [render, hpresent, runFrom_bind_pure, hfails]
  rfl

end Setting

end Stencil
