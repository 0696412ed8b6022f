import Stencil.Proofs.Paths
import Stencil.Proofs.Safety

/-!
# Dots do what blocks in each other do

A name with dots in it shows what its last part shows inside a block of the part before, that inside a block of the part
before that, and so on (`Stencil.Setting.render_within_eq_render_dotted`), where the parts can be followed into blocks.

The two ways look different. The dots are followed in one go, and what is empty ends them; the blocks change the scope,
and what is empty shows nothing. They meet since one block is one dot: what a name shows inside the block of another
one, it shows behind that and a dot (`Stencil.Graph.runFrom_interpolate_dot`). The rest is an induction on the names.

Two things tell them apart. Blocks take frames of the stack, and dots take none. And the dots ask if the scope is empty
before they look into it, which fails for a scope whose size cannot be counted; a block looks into it right away
(`Stencil.Setting.exists_dotted_fails`).
-/

namespace Stencil

open Run

namespace Graph

variable {g : Graph}

/-! ### What is seen of a value that is not called -/

section

variable {scope : Scope} {name : String} {v : Value} {σ τ : RunState} {empty : Bool}
  (hresolve : (g.resolve scope name).runFrom σ = (.ok v, τ)) (hinvoke : g.invoke v = pure v)
  (hempty : g.isEmpty τ.memory v = .ok empty)

include hinvoke hempty

theorem runFrom_see : (g.see v).runFrom τ = (.ok (if empty then none else some v), τ) := by
  have hrun : (g.empty? v).runFrom τ = (.ok empty, τ) := by rw [runFrom_empty?, hempty]
  rw [see, hinvoke, pure_bind, runFrom_bind_ok hrun]
  cases empty <;> rfl

include hresolve

theorem runFrom_seen? : (g.seen? scope name).runFrom σ = (.ok (if empty then none else some v), τ) := by
  rw [seen?, runFrom_bind_ok hresolve, runFrom_see hinvoke hempty]

/-- A plain block is decided by what its name resolves to. -/
theorem runFrom_renderPlain (stack : Stack) (body : Scope → Stack → Run String) :
    (g.renderPlain scope stack name body).runFrom σ =
      (if empty then pure "" else g.renderSeen scope stack body v : Run String).runFrom τ := by
  rw [renderPlain_eq_seen, runFrom_bind_ok (runFrom_seen? hresolve hinvoke hempty)]
  cases empty <;> rfl

end

/-- Inside a plain block of something map-like is that itself. -/
theorem runFrom_renderSeen_of_mapLike? {v : Value} {view : MapView} {τ : RunState}
    (hview : g.mapLike? τ.memory v = .ok (some view)) (scope : Scope) (stack : Stack)
    (body : Scope → Stack → Run String) : (g.renderSeen scope stack body v).runFrom τ =
      (stack.enter Stack.plainFrames >>= body (.value v)).runFrom τ := by
  have hblock : (g.blockScope scope v).runFrom τ = (.ok (.value v), τ) := by
    rw [blockScope, runFrom_bind_ok (runFrom_memory τ), hview]
    rfl
  rw [renderSeen, elements?_of_mapLike? hview]
  exact runFrom_bind_ok hblock _

theorem isEmpty_of_mapLike? {m : Memory} {v : Value} {view : MapView} (h : g.mapLike? m v = .ok (some view)) :
    g.isEmpty m v = .ok view.isEmpty := by
  rw [isEmpty, elements?_of_mapLike? h, h]

/-! ### Templates of one leaf and of one block -/

/-- What a template shows that consists of one name, and how it shows it. -/
theorem exists_renderParts_interpolation {leaf : String → Leaf} (hleaf : IsInterpolation leaf) :
    ∃ present : String → String, present "" = "" ∧ ∀ g inclusion name scope stack,
      renderParts g inclusion (.leaf (leaf name) .nil) scope stack =
        g.interpolate scope name >>= fun text => pure (present text) := by
  have hnil (text : String) : (pure "" >>= fun tail => pure (text ++ tail) : Run String) = pure text := by
    rw [pure_bind, String.append_empty]
  rcases hleaf with rfl | rfl
  · refine ⟨Text.escape, rfl, fun g inclusion name scope stack => ?_⟩
    simp only [renderParts, renderLeaf, hnil, bind_pure]
  · refine ⟨id, rfl, fun g inclusion name scope stack => ?_⟩
    simp only [renderParts, renderLeaf, hnil, bind_pure, id]

theorem renderParts_block_nil (inclusion : String → Scope → Stack → Run String) (kind : BlockKind) (name : String)
    (body : Template) (scope : Scope) (stack : Stack) :
    renderParts g inclusion (.block kind name body .nil) scope stack =
      renderBlock g kind name (renderParts g inclusion body) scope stack := by
  have hnil (text : String) : (pure "" >>= fun tail => pure (text ++ tail) : Run String) = pure text := by
    rw [pure_bind, String.append_empty]
  simp only [renderParts, hnil, bind_pure]

/-! ### One dot after the other -/

theorem not_beginsWithDot_dotted {names : List String} {last : String}
    (hnames : ∀ name ∈ names, name ≠ "" ∧ ¬BeginsWithDot name) (hlast : ¬BeginsWithDot last) :
    ¬BeginsWithDot (dotted names last) := by
  cases names with
  | nil => exact hlast
  | cons name names =>
    obtain ⟨hname, hdot⟩ := hnames name List.mem_cons_self
    obtain ⟨c, cs, htext⟩ := List.exists_cons_of_ne_nil fun h => hname (String.toList_eq_nil_iff.mp h)
    rw [BeginsWithDot, htext] at hdot
    rw [dotted, List.foldr_cons, BeginsWithDot, toList_dot, htext]
    exact hdot

section

variable {leaf : String → Leaf} (hleaf : IsInterpolation leaf) {last : String} (hlast : ¬BeginsWithDot last)
  (inclusion : String → Scope → Stack → Run String) {scope : Scope} {σ τ : RunState} {name : String} {v : Value}
  (hname : name ≠ "") (hdot : ¬BeginsWithDot name)
  (hscope : ∀ w, scope = .value w → ∃ empty, g.isEmpty σ.memory w = .ok empty)
  (hresolve : (g.resolve scope name).runFrom σ = (.ok v, τ))

include hleaf hname hdot hscope hresolve

/-- Behind something empty nothing is shown. -/
theorem runFrom_dot_of_isEmpty (hempty : g.isEmpty τ.memory v = .ok true) (rest : String) (stack : Stack) :
    (renderParts g inclusion (.leaf (leaf (name ++ "." ++ rest)) .nil) scope stack).runFrom σ = (.ok "", τ) := by
  obtain ⟨present, hpresent, heq⟩ := exists_renderParts_interpolation hleaf
  have hshown : (g.interpolate scope (name ++ "." ++ rest)).runFrom σ = (.ok "", τ) := by
    rw [runFrom_interpolate_dot hname hdot hresolve rest hscope, runFrom_bind_ok (runFrom_walk_of_isEmpty hempty _),
      runFrom_showValue_of_isEmpty hempty]
  rw [heq, runFrom_bind_ok hshown, hpresent, runFrom_pure]

/-- Behind something that is not empty the rest shows what it shows there on its own. -/
theorem runFrom_dot_of_not_isEmpty (hempty : g.isEmpty τ.memory v = .ok false) {rest : String}
    (hrest : ¬BeginsWithDot rest) (stack stack' : Stack) :
    (renderParts g inclusion (.leaf (leaf (name ++ "." ++ rest)) .nil) scope stack).runFrom σ =
      (renderParts g inclusion (.leaf (leaf rest) .nil) (.value v) stack').runFrom τ := by
  obtain ⟨present, -, heq⟩ := exists_renderParts_interpolation hleaf
  have hshown : (g.interpolate scope (name ++ "." ++ rest)).runFrom σ = (g.interpolate (.value v) rest).runFrom τ := by
    have hfollow := runFrom_resolve_of_not_isEmpty hempty hrest
    rw [runFrom_interpolate_dot hname hdot hresolve rest hscope, interpolate_eq_showValue]
    exact (runFrom_bind_congr hfollow _).symm
  rw [heq, heq]
  exact runFrom_bind_congr hshown _

end

section

variable {leaf : String → Leaf} (hleaf : IsInterpolation leaf) {last : String} (hlast : ¬BeginsWithDot last)
  (inclusion : String → Scope → Stack → Run String)

include hleaf hlast

/-- **The dots show what the blocks show**, or the stack is too short for the blocks. -/
theorem runFrom_within_eq_dotted {scope : Scope} {σ : RunState} {names : List String} (h : g.Descends scope σ names)
    (hnames : ∀ name ∈ names, name ≠ "" ∧ ¬BeginsWithDot name)
    (hscope : ∀ w, scope = .value w → ∃ empty, g.isEmpty σ.memory w = .ok empty) (stack : Stack) :
    (renderParts g inclusion (.within names (.leaf (leaf last) .nil)) scope stack).runFrom σ =
        (renderParts g inclusion (.leaf (leaf (dotted names last)) .nil) scope stack).runFrom σ ∨
      stack.Short (Stack.plainFrames * names.length) ∧
        ((renderParts g inclusion (.within names (.leaf (leaf last) .nil)) scope stack).runFrom σ).1 =
          .error .stackExhausted := by
  -- Inside the first block is what the rest of the names has inside blocks, with the frames that are left.
  induction h generalizing stack with
  | done => exact .inl rfl
  | @ends scope σ τ name names v hresolve hempty =>
    obtain ⟨hname, hdot⟩ := hnames name List.mem_cons_self
    refine .inl (Eq.trans ?_ (runFrom_dot_of_isEmpty hleaf inclusion hname hdot hscope hresolve hempty _ stack).symm)
    rw [Template.within, List.foldr_cons, renderParts_block_nil, renderBlock,
      runFrom_renderPlain hresolve (invoke_of_isEmpty hempty) hempty, if_pos rfl, runFrom_pure]
  | @enters scope σ τ name names v view hresolve hview _ ih =>
    obtain ⟨hname, hdot⟩ := hnames name List.mem_cons_self
    have hnames' : ∀ name ∈ names, name ≠ "" ∧ ¬BeginsWithDot name := fun name' h => hnames name' (.tail _ h)
    have hempty := isEmpty_of_mapLike? hview
    have hblock : (renderParts g inclusion (.within (name :: names) (.leaf (leaf last) .nil)) scope stack).runFrom σ =
        (if view.isEmpty then pure "" else g.renderSeen scope stack
          (renderParts g inclusion (.within names (.leaf (leaf last) .nil))) v : Run String).runFrom τ := by
      rw [Template.within, List.foldr_cons, renderParts_block_nil, renderBlock,
        runFrom_renderPlain hresolve (invoke_of_mapLike? hview) hempty]
      rfl
    rw [hblock]
    cases hkeys : view.isEmpty with
    | true =>
      rw [hkeys] at hempty
      rw [if_pos rfl, runFrom_pure]
      exact .inl (runFrom_dot_of_isEmpty hleaf inclusion hname hdot hscope hresolve hempty _ stack).symm
    | false =>
      rw [hkeys] at hempty
      rw [if_neg Bool.false_ne_true, runFrom_renderSeen_of_mapLike? hview]
      rcases henter : (stack.enter Stack.plainFrames).runFrom τ with ⟨f | left, τ'⟩
      · obtain ⟨n, hstack, hn, rfl⟩ := Stack.of_enter_error henter
        have hshort : stack.Short Stack.plainFrames := ⟨n, hstack, hn⟩
        rw [runFrom_bind_error henter]
        exact .inr ⟨hshort.mono (Nat.le_mul_of_pos_right _ (Nat.zero_lt_succ _)), rfl⟩
      · obtain rfl : τ = τ' := Stack.of_enter_ok henter
        rw [runFrom_bind_ok henter]
        rcases ih hnames' (fun w hw => ⟨false, by cases hw; exact hempty⟩) left with heq | ⟨hshort, hend⟩
        · have hrest := not_beginsWithDot_dotted hnames' hlast
          have hdots := runFrom_dot_of_not_isEmpty hleaf inclusion hname hdot hscope hresolve hempty hrest stack left
          exact .inl (heq.trans hdots.symm)
        · refine .inr ⟨?_, hend⟩
          rw [List.length_cons, Nat.mul_succ, Nat.add_comm]
          exact Stack.Short.of_enter henter hshort

end

end Graph

namespace Setting

/-- **A name with dots shows what its last part shows inside blocks of the parts in front of it**, and leaves the same
state behind. That is so where the parts can be followed into blocks, the stack has the frames that the blocks take, and
it can be told whether the scope is empty. It cannot where the scope is too long for its size to be counted, and there a
name with dots shows nothing but fails. -/
theorem render_within_eq_render_dotted (s : Setting) {leaf : String → Leaf} (hleaf : IsInterpolation leaf)
    {names : List String} (hnames : ∀ name ∈ names, name ≠ "" ∧ ¬BeginsWithDot name) {last : String}
    (hlast : ¬BeginsWithDot last) {scope : Scope} {σ : RunState} (hdescends : s.graph.Descends scope σ names)
    (htestable : s.graph.Testable σ.memory scope) (stack : Stack) :
    let nested := (s.render (.within names (.leaf (leaf last) .nil)) scope stack).runFrom σ
    let flat := (s.render (.leaf (leaf (dotted names last)) .nil) scope stack).runFrom σ
    (¬s.graph.Uncountable scope →
      nested = flat ∨ stack.Short (Stack.plainFrames * names.length) ∧ nested.1 = .error .stackExhausted) ∧
    (s.graph.Uncountable scope → names ≠ [] → flat = (.error .tooManyElements, σ)) := by
  refine ⟨fun hcountable => ?_, fun huncountable hne => ?_⟩
  · cases names with
    | nil => exact .inl rfl
    | cons name names =>
      have hresolve : ∃ v τ, (s.graph.resolve scope name).runFrom σ = (.ok v, τ) := by
        cases hdescends with
        | ends hresolve _ => exact ⟨_, _, hresolve⟩
        | enters hresolve _ _ => exact ⟨_, _, hresolve⟩
      obtain ⟨v, τ, hresolve⟩ := hresolve
      have hscope := Graph.exists_isEmpty_of_resolve hresolve hcountable fun _ => htestable
      exact Graph.runFrom_within_eq_dotted hleaf hlast _ hdescends hnames hscope stack
  · obtain ⟨name, names, rfl⟩ := List.exists_cons_of_ne_nil hne
    obtain ⟨hname, hdot⟩ := hnames name List.mem_cons_self
    obtain ⟨present, -, heq⟩ := Graph.exists_renderParts_interpolation hleaf
    have hshown := Graph.runFrom_interpolate_of_uncountable huncountable hname hdot (dotted names last) σ
    rw [render, heq]
    exact runFrom_bind_error hshown _

/-- A user with a home in a town, each of another kind. -/
def homely : Setting where
  graph := ⟨#[
    .table .plain [(.text "user", .ref 1)],
    .struct "User" [("home", .ref 2)],
    .table .ordered [(.text "town", .ref 3)],
    .model "Town" (some ["name"]) [("name", .text "<Ys>")]], by decide⟩
  settings := .initial
  partials := .value .null

/-- The town of the user's home has a name, behind dots and inside blocks. -/
theorem render_within_eq_render_dotted_homely :
    let nested := Template.within ["user", "home"] (.leaf (.name "town.name") .nil)
    let flat := Template.leaf (.name (dotted ["user", "home"] "town.name")) .nil
    homely.graph.Descends (.value (.ref 0)) ⟨.fresh, #[]⟩ ["user", "home"] ∧
      ((homely.render nested (.value (.ref 0)) Stack.ordinary).runFrom ⟨.fresh, #[]⟩).1.toOption = some "&lt;Ys&gt;" ∧
      (homely.render nested (.value (.ref 0)) Stack.ordinary).runFrom ⟨.fresh, #[]⟩ =
        (homely.render flat (.value (.ref 0)) Stack.ordinary).runFrom ⟨.fresh, #[]⟩ := by
  intro nested flat
  have hdescends : homely.graph.Descends (.value (.ref 0)) ⟨.fresh, #[]⟩ ["user", "home"] :=
    .enters rfl rfl (.enters rfl rfl .done)
  have htestable : homely.graph.Testable .fresh (.value (.ref 0)) := by
    rintro v f ⟨⟩ ⟨⟩
  have hcountable : ¬homely.graph.Uncountable (.value (.ref 0)) := by
    rintro ⟨v, xs, ⟨⟩, ⟨⟩, -⟩
  have hresult : ((homely.render nested (.value (.ref 0)) Stack.ordinary).runFrom ⟨.fresh, #[]⟩).1.toOption =
      some "&lt;Ys&gt;" := by
    decide +kernel
  refine ⟨hdescends, hresult, ?_⟩
  have hnames : ∀ name ∈ ["user", "home"], name ≠ "" ∧ ¬BeginsWithDot name := by decide
  have hlast : ¬BeginsWithDot "town.name" := by decide
  rcases (render_within_eq_render_dotted homely (.inl rfl) hnames hlast hdescends htestable Stack.ordinary).1
    hcountable with hsame | ⟨-, hfails⟩
  · exact hsame
  · rw [hfails] at hresult
    cases hresult

/-- A range that is longer than sizes can count. -/
def endless : Setting where
  graph := ⟨#[.range 0 (Int.pow 10 30) 1], by decide⟩
  settings := .initial
  partials := .value .null

theorem elements?_endless :
    endless.graph.elements? (.ref 0) = some (.progression 0 1 (Graph.rangeSize 0 (Int.pow 10 30) 1)) := rfl

/-- **Asked for a path, a range that is too long fails**, although no name stands for anything in it. -/
theorem exists_dotted_fails :
    let scope := Scope.value (.ref 0)
    endless.graph.Descends scope ⟨.fresh, #[]⟩ ["x"] ∧ endless.graph.Testable .fresh scope ∧
      (endless.render (.within ["x"] (.leaf (.name "y") .nil)) scope Stack.ordinary).runFrom ⟨.fresh, #[]⟩ =
        (.ok "", ⟨.fresh, #[]⟩) ∧
      (endless.render (.leaf (.name (dotted ["x"] "y")) .nil) scope Stack.ordinary).runFrom ⟨.fresh, #[]⟩ =
        (.error .tooManyElements, ⟨.fresh, #[]⟩) := by
  intro scope
  have hresolve : (endless.graph.resolve scope "x").runFrom ⟨.fresh, #[]⟩ = (.ok .null, ⟨.fresh, #[]⟩) := by
    have hpath : isPath "x" = false := by decide
    have hnone : Number.readInteger "x".toList = none := by decide
    rw [Graph.resolve, hpath, if_neg Bool.false_ne_true, Graph.scopeChild, Graph.child_of_elements? elements?_endless,
      hnone]
    rfl
  have hnull : endless.graph.isEmpty .fresh .null = .ok true := rfl
  have htestable : endless.graph.Testable .fresh (.value (.ref 0)) := by
    rintro v f ⟨⟩ htruth
    have hnode : endless.graph.node? (.ref 0) = some (.range 0 (Int.pow 10 30) 1) := rfl
    rw [Graph.truth, hnode] at htruth
    dsimp only at htruth
    rw [elements?_endless] at htruth
    cases htruth
  refine ⟨.ends hresolve hnull, htestable, ?_, ?_⟩
  · rw [render, Template.within, List.foldr_cons, Graph.renderParts_block_nil, renderBlock,
      Graph.runFrom_renderPlain hresolve (Graph.invoke_of_isEmpty hnull) hnull]
    rfl
  · have hsize : Graph.sizeLimit ≤ Graph.rangeSize 0 (Int.pow 10 30) 1 := by decide +kernel
    have hx : "x" ≠ "" ∧ ¬BeginsWithDot "x" := by decide
    have hshown := Graph.runFrom_interpolate_of_uncountable ⟨.ref 0, _, rfl, elements?_endless, hsize⟩ hx.1 hx.2 "y"
      ⟨.fresh, #[]⟩
    exact runFrom_bind_error (runFrom_bind_error hshown _) _

end Setting

end Stencil
