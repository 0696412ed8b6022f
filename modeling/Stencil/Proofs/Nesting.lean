import Mathlib.Algebra.Order.BigOperators.Group.List
import Mathlib.Algebra.Order.Group.Nat
import Stencil.Proofs.Defaults
import Stencil.Proofs.Journal
import Stencil.Proofs.Repeating

/-!
# The limit of nesting bounds every rendering

Partials can contain themselves, and data can contain itself, so neither the template nor the data becomes smaller from
one partial to the next. What does is the number of further partials that may be rendered inside each other. It is
counted down while rendering, and the depths in the log are computed from it. This file shows that they are what they
say: a partial that is expanded is reported with one more than the number of partials around it
(`Stencil.Setting.reports_announcements`), however many partials were expanded beside it.

The limit also bounds the stack. The templates behind partials are among those that the data holds or comes to hold, of
which there are only finitely many (`Stencil.Setting.exists_frames_le`). So there is a number of frames that is enough
whatever the scope is, and with so many frames left the stack makes no difference.
-/

namespace Stencil

open Run

/-! ### What is reported about nesting -/

namespace Setting

variable {s : Setting}

/-- Of the events in the record of a partial, its announcement is the one about nesting. -/
theorem filter_isNesting_record (s : Setting) (e : Encounter) :
    (s.record e).filter Event.isNesting = (s.announcement e).toList := by
  rw [record, announcement]
  rcases ((s.source? e.visit.name).runFrom e.visit.state).1 with f | _ | source
  · rfl
  · rfl
  · dsimp only
    by_cases hroom : e.around.length < s.settings.limit
    · rw [if_pos hroom, if_pos hroom]
      cases Template.parse source with
      | error cause => simp [Except.isOk, Except.toBool, Event.isNesting]
      | ok t => cases s.settings.debug <;> rfl
    · rw [if_neg hroom, if_neg hroom]
      rfl

/-- **A rendering reports the announcements of the partials that it meets.** -/
theorem reports_announcements (t : Template) (scope : Scope) (stack : Stack) :
    Reports Event.isNesting (s.render t scope stack) fun σ =>
      (s.encounters t scope stack σ).filterMap s.announcement := by
  refine (s.reports_journal t scope stack).congr fun σ => ?_
  rw [filter_journal fun name => rfl, List.filterMap_eq_flatMap_toList]
  congr
  funext e
  exact s.filter_isNesting_record e

/-! ### The partials around a partial -/

variable {t : Template} {scope : Scope} {stack : Stack} {σ : RunState}

/-- What is noted down inside a partial is nothing, or what is noted down of a template, and then the partial is
expanded. -/
theorem inside_eq {β : Type} (depth : Nat) (v : Visit) (next : Template → Stack → RunState → List β) :
    s.inside depth v next = [] ∨ s.Expands v ∧ ∃ t inner τ, s.inside depth v next = next t inner τ := by
  rw [inside]
  rcases hrun : (s.source? v.name).runFrom v.state with ⟨f | _ | source, τ⟩
  · exact .inl (after_error hrun _)
  · exact .inl (after_ok hrun _)
  · rw [after_ok hrun]
    dsimp only
    cases hparse : Template.parse source with
    | error cause => exact .inl rfl
    | ok t =>
      simp only [after_debug]
      rcases henter : (v.stack.enter Stack.partialFrames).runFrom _ with ⟨f | inner, τ'⟩
      · exact .inl (after_error henter _)
      · exact .inr ⟨⟨source, t, by rw [hrun], hparse⟩, t, inner, τ', after_ok henter _⟩

/-- Whether the partials around an encounter are `around`, or those around an expanded partial that is `known` to be
met, and that partial. -/
def Encounter.StandsIn (s : Setting) (around : List String) (known : List Encounter) (e : Encounter) : Prop :=
  e.around = around ∨ ∃ outer ∈ known, s.Expands outer.visit ∧ e.around = outer.around ++ [outer.visit.name]

/-- An encounter in what is noted down of a partial, if it is known of the templates that may be behind it. -/
theorem standsIn_of_mem_cons {around : List String} {depth bound : Nat} {v : Visit}
    {next : Template → Stack → RunState → List Encounter} (haround : around.length ≤ bound)
    (hnext : ∀ t inner τ, ∀ e ∈ next t inner τ,
      e.StandsIn s (around ++ [v.name]) (next t inner τ) ∧ e.around.length ≤ bound)
    {e : Encounter} (he : e ∈ ⟨around, v⟩ :: s.inside depth v next) :
    e.StandsIn s around (⟨around, v⟩ :: s.inside depth v next) ∧ e.around.length ≤ bound := by
  rcases List.mem_cons.mp he with rfl | he
  · exact ⟨.inl rfl, haround⟩
  · rcases s.inside_eq depth v next with hnone | ⟨hexpands, t, inner, τ, hinside⟩
    · rw [hnone] at he
      cases he
    · rw [hinside] at he ⊢
      obtain ⟨hstands, hlength⟩ := hnext t inner τ e he
      refine ⟨.inr ?_, hlength⟩
      rcases hstands with hfirst | ⟨outer, houter, hexpands', hdeeper⟩
      · exact ⟨⟨around, v⟩, List.mem_cons_self, hexpands, hfirst⟩
      · exact ⟨outer, List.mem_cons_of_mem _ houter, hexpands', hdeeper⟩

/-- The same for all that is met in a template. -/
theorem standsIn_of_mem_flatMap {around : List String} {known : Visit → List Encounter} {vs : List Visit} {bound : Nat}
    (h : ∀ v, ∀ e ∈ known v, e.StandsIn s around (known v) ∧ e.around.length ≤ bound) {e : Encounter}
    (he : e ∈ vs.flatMap known) : e.StandsIn s around (vs.flatMap known) ∧ e.around.length ≤ bound := by
  obtain ⟨v, hv, he⟩ := List.mem_flatMap.mp he
  obtain ⟨hstands, hlength⟩ := h v e he
  refine ⟨hstands.imp_right ?_, hlength⟩
  rintro ⟨outer, houter, hexpands, hdeeper⟩
  exact ⟨outer, List.mem_flatMap.mpr ⟨v, hv, houter⟩, hexpands, hdeeper⟩

theorem standsIn_of_mem_encountersWithin (left : Nat) {around : List String} {e : Encounter}
    (he : e ∈ s.encountersWithin left around t scope stack σ) :
    e.StandsIn s around (s.encountersWithin left around t scope stack σ) ∧
      e.around.length ≤ around.length + left := by
  induction left generalizing around t scope stack σ e with
  | zero =>
    obtain ⟨v, -, rfl⟩ := List.mem_map.mp he
    exact ⟨.inl rfl, Nat.le_refl _⟩
  | succ left ih =>
    refine standsIn_of_mem_flatMap (fun v e he => ?_) he
    refine standsIn_of_mem_cons (Nat.le_add_right _ _) (fun body inner τ e he => ?_) he
    obtain ⟨hstands, hlength⟩ := ih he
    rw [List.length_append, List.length_singleton] at hlength
    exact ⟨hstands, by omega⟩

/-- **The partials around an encounter are met and expanded themselves**, and there are no more of them than may be
rendered inside each other. -/
theorem standsIn_of_mem_encounters {e : Encounter} (he : e ∈ s.encounters t scope stack σ) :
    e.StandsIn s [] (s.encounters t scope stack σ) ∧ e.around.length ≤ s.settings.limit := by
  have hlimit : 1 ≤ s.settings.limit := s.settings.one_le_limit
  refine standsIn_of_mem_flatMap (fun v e he => ?_) he
  refine standsIn_of_mem_cons (Nat.zero_le _) (fun body inner τ e he => ?_) he
  obtain ⟨hstands, hlength⟩ := standsIn_of_mem_encountersWithin _ he
  rw [List.length_singleton] at hlength
  exact ⟨hstands, by omega⟩

end Setting

/-! ### Room for all partials -/

/-- The values that a table holds which has gained some entries: those under its keys, and its default. -/
def Node.held (gained : Entries) : Node → List Value
  | .table (.defaulting _ fresh) es => fresh :: (es ++ gained).map Prod.snd
  | .table _ es => (es ++ gained).map Prod.snd
  | _ => []

theorem Node.mem_held {kind : TableKind} {es gained : Entries} {entry : Value × Value} (h : entry ∈ es ++ gained) :
    entry.2 ∈ (Node.table kind es).held gained := by
  have hmem : entry.2 ∈ (es ++ gained).map Prod.snd := List.mem_map_of_mem h
  cases kind with
  | defaulting factory fresh => exact List.mem_cons_of_mem _ hmem
  | _ => exact hmem

namespace Graph

variable {g : Graph} {m m' : Memory}

/-- The values that tables hold. -/
def stored (g : Graph) (m : Memory) : List Value :=
  (List.range g.nodes.size).flatMap fun place => (g.nodes[place]?.map (Node.held (m.gained place))).getD []

theorem exists_place_of_node? {v : Value} {n : Node} (h : g.node? v = some n) :
    ∃ place : Nat, g.nodes[place]? = some n := by
  cases v with
  | ref place => exact ⟨place, h⟩
  | _ => cases h

theorem mem_stored {place : Nat} {n : Node} (hnode : g.nodes[place]? = some n) {v : Value}
    (hv : v ∈ n.held (m.gained place)) : v ∈ g.stored m := by
  obtain ⟨hlt, -⟩ := Array.getElem?_eq_some_iff.mp hnode
  refine List.mem_flatMap.mpr ⟨place, List.mem_range.mpr hlt, ?_⟩
  rw [hnode]
  exact hv

/-- **What the tables of a value hold at any time is stored in the beginning**: all that they gain are defaults. -/
theorem mem_stored_of_mem_layers (hm : g.Evolves m m') {depth : Nat} {v w : Value}
    (hw : w ∈ (MapView.layered (g.layers m' depth v)).values) : w ∈ g.stored m := by
  induction depth generalizing v with
  | zero => cases hw
  | succ depth ih =>
    unfold layers at hw
    split at hw
    · next place factory fresh es hnode =>
      have hplace : g.nodes[place]? = some (.table (.defaulting factory fresh) es) := hnode
      refine mem_stored hplace ?_
      obtain ⟨added, hgained, hadded⟩ := hm.exists_gained place
      simp only [MapView.values, List.flatMap_singleton, hgained, List.mem_append, List.mem_map, Option.map_some,
        Option.mem_toList, Option.some.injEq] at hw
      rcases hw with ⟨entry, hentry | hentry | hentry, rfl⟩ | rfl
      · exact Node.mem_held (List.mem_append_left _ hentry)
      · exact Node.mem_held (List.mem_append_right _ hentry)
      · obtain ⟨factory', es', hplace'⟩ := hadded entry hentry
        rw [hplace] at hplace'
        cases hplace'
        exact List.mem_cons_self
      · exact List.mem_cons_self
    · next kind es _ hnode =>
      simp only [MapView.values, List.flatMap_singleton, List.mem_append, List.mem_map, Option.map_none,
        Option.toList_none, List.not_mem_nil, or_false] at hw
      obtain ⟨entry, hentry, rfl⟩ := hw
      obtain ⟨place, hplace⟩ := exists_place_of_node? hnode
      exact mem_stored hplace (Node.mem_held (List.mem_append_left _ hentry))
    · next ws hnode =>
      rw [MapView.values, List.flatMap_assoc] at hw
      obtain ⟨u, -, hu⟩ := List.mem_flatMap.mp hw
      exact ih hu
    · cases hw

/-- The values of a mapping are those that its tables hold. -/
theorem mem_stored_of_mapping? (hm : g.Evolves m m') {v w : Value} {view : MapView}
    (hview : g.mapping? m' v = some view) (hw : w ∈ view.values) : w ∈ g.stored m := by
  rcases mapping?_cases hview with ⟨kind, es, l, hnode, hl, rfl⟩ | ⟨ws, hnode, rfl⟩
  · have hlayers : w ∈ (MapView.layered (g.layers m' 1 v)).values := by
      rw [hl 0, MapView.values, List.flatMap_singleton]
      exact List.mem_append_left _ hw
    exact mem_stored_of_mem_layers hm hlayers
  · exact mem_stored_of_mem_layers hm hw

end Graph

/-- The frames that the blocks of a template may take that has the value as its source. -/
def Value.frames : Value → Nat
  | .text source =>
    match Template.parse source with
    | .ok body => body.frames
    | .error _ => 0
  | _ => 0

namespace Setting

variable {s : Setting} {m : Memory}

/-- **Only finitely many texts can come to be sources of partials.** -/
theorem exists_offered (s : Setting) (m : Memory) :
    ∃ values : List Value, ∀ source, s.Offers m source → .text source ∈ values := by
  cases hpartials : s.partials with
  | value v =>
    refine ⟨s.graph.stored m, ?_⟩
    rintro source ⟨m', view, hm, hview, hmem⟩
    rw [hpartials] at hview
    exact Graph.mem_stored_of_mapping? hm hview hmem
  | record es =>
    refine ⟨es.map Prod.snd, ?_⟩
    rintro source ⟨m', view, hm, hview, hmem⟩
    rw [hpartials] at hview
    obtain rfl := Option.some.inj hview
    exact hmem
  | layered v es =>
    refine ⟨s.graph.stored m ++ es.map Prod.snd, ?_⟩
    rintro source ⟨m', view, hm, hview, hmem⟩
    rw [hpartials] at hview
    obtain rfl := Option.some.inj hview
    simp only [Graph.scopeView, MapView.values, List.flatMap_append, List.flatMap_singleton, Option.map_none,
      Option.toList_none, List.append_nil, List.mem_append] at hmem
    exact List.mem_append.mpr (hmem.imp_left (Graph.mem_stored_of_mem_layers hm))

/-- There is a number of frames that is enough for the blocks of any template behind a partial. -/
theorem exists_frames_le (s : Setting) (m : Memory) :
    ∃ bound, ∀ source body, s.Offers m source → Template.parse source = .ok body → body.frames ≤ bound := by
  obtain ⟨values, hvalues⟩ := s.exists_offered m
  refine ⟨(values.map Value.frames).sum, fun source body hoffers hparse => ?_⟩
  have hframes : (Value.text source).frames = body.frames := by rw [Value.frames, hparse]
  rw [← hframes]
  exact List.le_sum_of_mem (List.mem_map_of_mem (hvalues source hoffers))

section Unlimited

/-- Whether a run on some stack does the same as one on a stack without end. -/
abbrev RepeatsUnlimited (s : Setting) (m : Memory) : Run String → Run String → Prop :=
  Repeats s.graph m fun _ => False

variable {bound : Nat}
  (hbound : ∀ source body, s.Offers m source → Template.parse source = .ok body → body.frames ≤ bound)

include hbound

/-- A partial, where there is room for the template behind it and for `left` further ones inside each other. -/
theorem repeats_inclusion_unlimited {left : Nat} {stack : Stack}
    (hroom : ¬stack.Short ((left + 1) * (Stack.partialFrames + bound))) (body : Template → Stack → Run String)
    (hbody : ∀ t inner, ¬inner.Short (t.frames + left * (Stack.partialFrames + bound)) →
      s.RepeatsUnlimited m (body t inner) (body t none))
    (contain : Run String → Run String)
    (hcontain : ∀ r r', s.RepeatsUnlimited m r r' → s.RepeatsUnlimited m (contain r) (contain r')) (name : String)
    (depth : Nat) :
    s.RepeatsUnlimited m
      (do
        match ← s.source? name with
        | none => return ""
        | some source => s.expand name source depth fun t => contain do body t (← stack.enter Stack.partialFrames))
      (do
        match ← s.source? name with
        | none => return ""
        | some source =>
          s.expand name source depth fun t => contain do body t (← Stack.enter none Stack.partialFrames)) := by
  have hcongruence : IsCongruence s.graph _ (s.RepeatsUnlimited m) := isCongruence_repeats_unlimited
  refine repeats_inclusion s rfl (s.isQuiet_source? name).repeats (ensures_source? name) rfl
    fun source t hsource hparse => hcontain _ _ ?_
  have hle : t.frames ≤ bound := hbound source t (hsource source rfl) hparse
  have hinside : ¬stack.Short (Stack.partialFrames + (t.frames + left * (Stack.partialFrames + bound))) ∧
      (none : Stack) = none := by
    refine hcongruence.less ?_ ⟨hroom, rfl⟩
    rw [Nat.succ_mul]
    omega
  refine hcongruence.enter hinside ?_
  rintro inner _ ⟨hinner, rfl⟩
  exact hbody t inner hinner

/-- **Partials inside others need no more frames than the templates behind them**, for as many of them as may be inside
each other. -/
theorem repeats_renderWithin_unlimited (left : Nat) {t : Template} {stack : Stack} (scope : Scope)
    (hroom : ¬stack.Short (t.frames + left * (Stack.partialFrames + bound))) :
    s.RepeatsUnlimited m (s.renderWithin left t scope stack) (s.renderWithin left t scope none) := by
  have hcongruence : IsCongruence s.graph _ (s.RepeatsUnlimited m) := isCongruence_repeats_unlimited
  induction left generalizing t scope stack with
  | zero =>
    rw [renderWithin_eq, renderWithin_eq]
    refine hcongruence.renderParts (fun name _ scope stack stack' _ => ?_) ⟨hroom, rfl⟩
    refine (s.isQuiet_source? name).repeats.bind fun source? => ?_
    cases source? with
    | none => exact (isQuiet_pure "").repeats
    | some source => exact (repeats_report _).bind fun _ => (isQuiet_pure "").repeats
  | succ left ih =>
    rw [renderWithin_eq, renderWithin_eq]
    refine hcongruence.renderParts ?_ ⟨hroom, rfl⟩
    rintro name - scope stack _ ⟨hroom, rfl⟩
    exact repeats_inclusion_unlimited hbound hroom (s.renderWithin left · scope ·) (fun t inner => ih scope)
      (fun r => r) (fun _ _ hr => hr) name _

theorem repeats_render_unlimited {t : Template} {stack : Stack} (scope : Scope)
    (hroom : ¬stack.Short (t.frames + s.settings.limit * (Stack.partialFrames + bound))) :
    s.RepeatsUnlimited m (s.render t scope stack) (s.render t scope none) := by
  have hcongruence : IsCongruence s.graph _ (s.RepeatsUnlimited m) := isCongruence_repeats_unlimited
  have hlimit : s.settings.limit = s.settings.limit - 1 + 1 := by
    have := s.settings.one_le_limit
    omega
  rw [render_eq, render_eq]
  refine hcongruence.renderParts ?_ ⟨hroom, rfl⟩
  rintro name - scope stack _ ⟨hroom, rfl⟩
  rw [hlimit] at hroom
  exact repeats_inclusion_unlimited hbound hroom (s.renderWithin (s.settings.limit - 1) · scope ·)
    (fun t inner => repeats_renderWithin_unlimited hbound _ scope) (containOverflow name)
    (fun _ _ hr => hr.containOverflow name) name 1

end Unlimited

/-! ### What the limit bounds -/

/-- A partial is announced as one more than those around it, or refused for being in as many as allowed. -/
theorem announcement_cases (s : Setting) (e : Encounter) :
    s.announcement e = none ∨
      (e.around.length < s.settings.limit ∧
        s.announcement e = some (.expanding e.visit.name (e.around.length + 1))) ∨
      ¬e.around.length < s.settings.limit ∧ s.announcement e = some (.limitReached e.visit.name s.settings.limit) := by
  rw [announcement]
  split
  · by_cases hroom : e.around.length < s.settings.limit
    · rw [if_pos hroom]
      split
      · exact .inr (.inl ⟨hroom, rfl⟩)
      · exact .inl rfl
    · rw [if_neg hroom]
      exact .inr (.inr ⟨hroom, rfl⟩)
  · exact .inl rfl

/-- A person `a` with two children, of whom one has a child and a grandchild, and a partial `person` that shows a name
and then the children. -/
def family : Setting where
  graph := ⟨#[.table .plain [(.text "name", .text "a"), (.text "children", .ref 1)], .sequence .list [.ref 2, .ref 3],
    .table .plain [(.text "name", .text "b"), (.text "children", .ref 4)], .table .plain [(.text "name", .text "c")],
    .sequence .list [.ref 5], .table .plain [(.text "name", .text "d"), (.text "children", .ref 6)],
    .sequence .list [.ref 7], .table .plain [(.text "name", .text "e")], .table .plain [(.text "person",
      .text "\x7b\x7bname\x7d\x7d(\x7b\x7b#children\x7d\x7d\x7b\x7b>person\x7d\x7d\x7b\x7b/children\x7d\x7d)")]],
    by decide⟩
  settings := ⟨true, 4, by decide⟩
  partials := .value (.ref 8)

/-- The template that is nothing but the partial. -/
def familyTemplate : Template := .leaf (.inclusion "person") .nil

/-- Siblings are equally deep, however deep the descendants of the first one are. -/
example :
    ((family.encounters familyTemplate (.value (.ref 0)) Stack.ordinary ⟨.fresh, #[]⟩).map fun e =>
      (e.around, family.announcement e)) =
    [([], some (.expanding "person" 1)), (["person"], some (.expanding "person" 2)),
      (["person", "person"], some (.expanding "person" 3)),
      (["person", "person", "person"], some (.expanding "person" 4)), (["person"], some (.expanding "person" 2))] := by
  decide +kernel

end Setting

end Stencil
