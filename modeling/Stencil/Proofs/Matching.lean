import Stencil.Template.Bracketing
import Stencil.Template.Error
import Mathlib.Data.List.Induction

/-!
# Reading accepts what nests, and reports the first fault

Reading walks over the pieces of the source with the names of the open blocks. This file says what that walk
finds, in terms of `Stencil.Nested` alone, and of what the chunks of the source are read as (`Stencil.reading`).

* A list of pieces that nests leaves the open blocks as they were (`Stencil.Nested.firstMisnesting_append`).
* After any pieces the walk either has met a fault, which nothing that follows takes back, or it knows the
  blocks that are open (`Stencil.scan`); what is open is said by `Stencil.OpenAfter`, without the walk.

So pieces can be continued to ones that nest exactly as long as no fault has been met, and the first fault is
the first closing piece after which they no longer can. The template that is built is the only one with these
pieces, and its blocks are the pairs of matching pieces (`Stencil.Template.mem_spans_iff`).
-/

namespace Stencil

/-! ### Pieces that nest -/

theorem Nested.append {ps qs : List Piece} (hp : Nested ps) (hq : Nested qs) : Nested (ps ++ qs) := by
  induction hp with
  | nil => exact hq
  | leaf l _ ih => exact .leaf l ih
  | block k n hbody _ _ ih =>
    rw [List.cons_append, List.append_assoc, List.cons_append]
    exact .block k n hbody ih

/-- **Pieces that nest leave the open blocks as they were.** -/
theorem Nested.firstMisnesting_append {ps : List Piece} (h : Nested ps) (stack : List String)
    (qs : List Piece) : firstMisnesting stack (ps ++ qs) = firstMisnesting stack qs := by
  induction h generalizing stack qs with
  | nil => rfl
  | leaf l _ ih =>
    rw [List.cons_append, firstMisnesting]
    exact ih stack qs
  | block k n _ _ ihbody ihrest =>
    rw [List.cons_append, List.append_assoc, List.cons_append, firstMisnesting, ihbody, firstMisnesting,
      if_pos rfl]
    exact ihrest stack qs

theorem Nested.firstMisnesting_eq_none {ps : List Piece} (h : Nested ps) : firstMisnesting [] ps = none := by
  have hnil := h.firstMisnesting_append [] []
  rw [List.append_nil] at hnil
  exact hnil

/-! ### The blocks that are open -/

/-- The names of the blocks that pieces leave open, innermost first: between the openings of these blocks, and
after the last of them, everything nests. -/
inductive OpenAfter : List Piece → List String → Prop
  | nested {ps : List Piece} : Nested ps → OpenAfter ps []
  | opening {ps qs : List Piece} {stack : List String} (k : BlockKind) (n : String) :
    OpenAfter ps stack → Nested qs → OpenAfter (ps ++ .opening k n :: qs) (n :: stack)

/-- Further pieces that nest change nothing about the open blocks. -/
theorem OpenAfter.append {ps qs : List Piece} {stack : List String} (h : OpenAfter ps stack)
    (hq : Nested qs) : OpenAfter (ps ++ qs) stack := by
  cases h with
  | nested hp => exact .nested (hp.append hq)
  | opening k n hps hrs =>
    rw [List.append_assoc, List.cons_append]
    exact .opening k n hps (hrs.append hq)

/-- The closing piece of the innermost open block closes it. -/
theorem OpenAfter.close {ps : List Piece} {n : String} {stack : List String}
    (h : OpenAfter ps (n :: stack)) : OpenAfter (ps ++ [.closing n]) stack := by
  cases h with
  | opening k _ hps hqs =>
    rw [List.append_assoc, List.cons_append]
    exact hps.append (.block k n hqs .nil)

/-- Closing the open blocks one after the other makes the pieces nest. -/
theorem OpenAfter.canNest {ps : List Piece} {stack : List String} (h : OpenAfter ps stack) : CanNest ps := by
  induction stack generalizing ps with
  | nil =>
    cases h with
    | nested hp => exact ⟨[], by rwa [List.append_nil]⟩
  | cons n stack ih =>
    obtain ⟨rest, hrest⟩ := ih h.close
    exact ⟨.closing n :: rest, by rwa [List.append_assoc] at hrest⟩

theorem OpenAfter.nested_of_nil {ps : List Piece} (h : OpenAfter ps []) : Nested ps := by
  cases h with
  | nested hp => exact hp

/-- The innermost open block is the last one that is opened and not closed again. -/
theorem OpenAfter.exists_innermost {ps : List Piece} {n : String} {stack : List String}
    (h : OpenAfter ps (n :: stack)) :
    ∃ before k inside, ps = before ++ .opening k n :: inside ∧ Nested inside := by
  cases h with
  | @opening before inside _ k _ _ hinside => exact ⟨before, k, inside, rfl, hinside⟩

/-! ### The walk over the pieces -/

/-- **What the walk knows after some pieces**: the open blocks, or a fault that nothing that follows takes
back. The induction adds one piece at the end. -/
theorem scan (ps : List Piece) :
    (∃ stack, OpenAfter ps stack ∧
      ∀ qs, firstMisnesting [] (ps ++ qs) = firstMisnesting stack qs) ∨
    ∃ m, ∀ qs, firstMisnesting [] (ps ++ qs) = some m := by
  induction ps using List.reverseRecOn with
  | nil => exact Or.inl ⟨[], .nested .nil, fun _ => rfl⟩
  | append_singleton ps p ih =>
    rcases ih with ⟨stack, hopen, hwalk⟩ | ⟨m, hfault⟩
    · have hstep : ∀ qs, firstMisnesting [] (ps ++ [p] ++ qs) = firstMisnesting stack (p :: qs) := fun qs => by
        rw [List.append_assoc]
        exact hwalk (p :: qs)
      cases p with
      | leaf l => exact Or.inl ⟨stack, hopen.append (.leaf l .nil), fun qs => by rw [hstep, firstMisnesting]⟩
      | opening k n =>
        exact Or.inl ⟨n :: stack, .opening k n hopen .nil, fun qs => by rw [hstep, firstMisnesting]⟩
      | closing n =>
        cases stack with
        | nil => exact Or.inr ⟨.unopened n, fun qs => by rw [hstep, firstMisnesting]⟩
        | cons m stack =>
          by_cases hmn : m = n
          · subst hmn
            exact Or.inl ⟨stack, hopen.close, fun qs => by rw [hstep, firstMisnesting, if_pos rfl]⟩
          · exact Or.inr ⟨.mismatched m n, fun qs => by rw [hstep, firstMisnesting, if_neg hmn]⟩
    · refine Or.inr ⟨m, fun qs => ?_⟩
      rw [List.append_assoc]
      exact hfault ([p] ++ qs)

/-- Where pieces can be continued to ones that nest, the walk knows the open blocks. -/
theorem CanNest.exists_openAfter {ps : List Piece} (h : CanNest ps) :
    ∃ stack, OpenAfter ps stack ∧ ∀ qs, firstMisnesting [] (ps ++ qs) = firstMisnesting stack qs := by
  rcases scan ps with hopen | ⟨m, hfault⟩
  · exact hopen
  · obtain ⟨rest, hrest⟩ := h
    have hnone := hrest.firstMisnesting_eq_none
    rw [hfault rest] at hnone
    exact absurd hnone (by simp)

theorem canNest_nil : CanNest [] := ⟨[], .nil⟩

/-- **The walk finds no fault exactly if the pieces nest.** -/
theorem firstMisnesting_eq_none_iff {ps : List Piece} : firstMisnesting [] ps = none ↔ Nested ps := by
  refine ⟨fun h => ?_, Nested.firstMisnesting_eq_none⟩
  rcases scan ps with ⟨stack, hopen, hwalk⟩ | ⟨m, hfault⟩
  · have hend := hwalk []
    rw [List.append_nil, h] at hend
    cases stack with
    | nil => exact hopen.nested_of_nil
    | cons n stack => exact absurd hend (by simp [firstMisnesting])
  · have hend := hfault []
    rw [List.append_nil, h] at hend
    exact absurd hend (by simp)

/-! ### The first fault -/

/-- Pieces that can be continued to ones that nest still can after a leaf or an opening piece. -/
theorem OpenAfter.canNest_leaf {ps : List Piece} {stack : List String} (h : OpenAfter ps stack) (l : Leaf) :
    CanNest (ps ++ [.leaf l]) :=
  (h.append (.leaf l .nil)).canNest

theorem OpenAfter.canNest_opening {ps : List Piece} {stack : List String} (h : OpenAfter ps stack)
    (k : BlockKind) (n : String) : CanNest (ps ++ [.opening k n]) :=
  OpenAfter.canNest (.opening k n h .nil)

/-- **The piece after which nothing nests any more** is a closing one. Either no block is open in front of it,
or it does not have the name of the innermost one, and that is what the walk reports, whatever follows. -/
theorem CanNest.firstMisnesting_of_not_canNest {ps : List Piece} {p : Piece} (h : CanNest ps)
    (hp : ¬CanNest (ps ++ [p])) : ∃ n, p = .closing n ∧
      (Nested ps ∧ (∀ qs, firstMisnesting [] (ps ++ p :: qs) = some (.unopened n)) ∨
        ∃ before k m inside, ps = before ++ .opening k m :: inside ∧ Nested inside ∧
          ∀ qs, firstMisnesting [] (ps ++ p :: qs) = some (.mismatched m n)) := by
  obtain ⟨stack, hopen, hwalk⟩ := h.exists_openAfter
  cases p with
  | leaf l => exact absurd (hopen.canNest_leaf l) hp
  | opening k n => exact absurd (hopen.canNest_opening k n) hp
  | closing n =>
    refine ⟨n, rfl, ?_⟩
    cases stack with
    | nil => exact Or.inl ⟨hopen.nested_of_nil, fun qs => by rw [hwalk, firstMisnesting]⟩
    | cons m stack =>
      have hmn : m ≠ n := by
        rintro rfl
        exact hp hopen.close.canNest
      obtain ⟨before, k, inside, hps, hinside⟩ := hopen.exists_innermost
      exact Or.inr ⟨before, k, m, inside, hps, hinside, fun qs => by
        rw [hwalk, firstMisnesting, if_neg hmn]⟩

/-- Pieces that could be continued to ones that nest, but do not nest, leave a block open, and the walk reports
the innermost one. -/
theorem CanNest.firstMisnesting_of_not_nested {ps : List Piece} (h : CanNest ps) (hps : ¬Nested ps) :
    ∃ before k n inside, ps = before ++ .opening k n :: inside ∧ Nested inside ∧
      firstMisnesting [] ps = some (.unfinished n) := by
  obtain ⟨stack, hopen, hwalk⟩ := h.exists_openAfter
  cases stack with
  | nil => exact absurd hopen.nested_of_nil hps
  | cons n stack =>
    obtain ⟨before, k, inside, heq, hinside⟩ := hopen.exists_innermost
    refine ⟨before, k, n, inside, heq, hinside, ?_⟩
    have hend := hwalk []
    rwa [List.append_nil] at hend

/-- **The first bad beginning**: pieces that begin in a way that nothing makes nest have a shortest such
beginning, and all that is shorter can be continued. -/
theorem exists_first_not_canNest {ps bad : List Piece} (hbad : bad <+: ps) (h : ¬CanNest bad) :
    ∃ qs p rest, ps = qs ++ p :: rest ∧ CanNest qs ∧ ¬CanNest (qs ++ [p]) := by
  obtain ⟨rest, rfl⟩ := hbad
  induction bad using List.reverseRecOn generalizing rest with
  | nil => exact absurd canNest_nil h
  | append_singleton qs p ih =>
    by_cases hqs : CanNest qs
    · exact ⟨qs, p, rest, by rw [List.append_assoc]; rfl, hqs, h⟩
    · obtain ⟨qs', p', rest', heq, hqs', hp'⟩ := ih hqs ([p] ++ rest)
      exact ⟨qs', p', rest', by rw [List.append_assoc, heq], hqs', hp'⟩

/-! ### The template with given pieces -/

namespace Template

theorem levels_toPieces (t : Template) (ps : List Piece) {u : Template} {us : List Template}
    (h : levels ps = u :: us) : levels (t.toPieces ++ ps) = (t ++ u) :: us := by
  induction t generalizing ps u us with
  | nil => exact h
  | leaf l r ih =>
    rw [toPieces, List.cons_append, levels, ih ps h]
    rfl
  | block k n b r ihb ihr =>
    -- the closing piece begins a level of its own, which the opening piece makes the body of the block
    have hclose : levels (.closing n :: (r.toPieces ++ ps)) = nil :: (r ++ u) :: us := by
      rw [levels, ihr ps h]
    rw [toPieces, List.cons_append, List.append_assoc, List.cons_append, levels, ihb _ hclose, append_nil]
    rfl

/-- **The template is rebuilt from its pieces.** -/
theorem forest_toPieces (t : Template) : forest t.toPieces = t := by
  have h := levels_toPieces t [] rfl
  rw [List.append_nil, append_nil] at h
  rw [forest, h]
  rfl

theorem parse_of_toPieces {s : String} {t : Template} (h : t.toPieces = pieces s.toList) :
    parse s = .ok t := by
  have hnone : firstMisnesting [] (pieces s.toList) = none := by
    rw [← h]
    exact t.nested_toPieces.firstMisnesting_eq_none
  simp only [parse, hnone]
  rw [← h, forest_toPieces]

/-- **Reading gives the template with the pieces of the source**, where there is one. -/
theorem parse_eq_ok_iff {s : String} {t : Template} : parse s = .ok t ↔ t.toPieces = pieces s.toList := by
  refine ⟨fun h => ?_, parse_of_toPieces⟩
  rw [parse] at h
  cases hwalk : firstMisnesting [] (pieces s.toList) with
  | some m =>
    rw [hwalk] at h
    exact absurd h (by simp)
  | none =>
    obtain ⟨u, hu⟩ := (nested_iff _).mp (firstMisnesting_eq_none_iff.mp hwalk)
    have huparse := parse_of_toPieces hu
    rw [parse, hwalk] at huparse
    rw [hwalk] at h
    rw [← hu, Except.ok.inj (h.symm.trans huparse)]

theorem parse_eq_error {s : String} {m : Misnesting} (h : firstMisnesting [] (pieces s.toList) = some m) :
    parse s = .error m := by
  rw [parse, h]

theorem exists_parse_eq_ok_iff {s : String} : (∃ t, parse s = .ok t) ↔ Nested (pieces s.toList) := by
  rw [nested_iff]
  exact exists_congr fun t => parse_eq_ok_iff

end Template

/-! ### Matching pieces -/

/-- Pieces that nest do not go on with a closing piece. -/
theorem Nested.not_nested_append_closing {ps : List Piece} (h : Nested ps) (n : String) (qs : List Piece) :
    ¬Nested (ps ++ .closing n :: qs) := by
  intro hnested
  have hnone := hnested.firstMisnesting_eq_none
  rw [h.firstMisnesting_append, firstMisnesting] at hnone
  exact absurd hnone (by simp)

/-- Pieces that nest do not end in an opening piece and pieces that nest. -/
theorem Nested.not_nested_opening_append {inside : List Piece} (h : Nested inside) (k : BlockKind) (n : String)
    (before : List Piece) : ¬Nested (before ++ .opening k n :: inside) := by
  intro hnested
  have hnone := hnested.firstMisnesting_eq_none
  rcases scan before with ⟨stack, -, hwalk⟩ | ⟨m, hfault⟩
  · have hinside := h.firstMisnesting_append (n :: stack) []
    rw [List.append_nil] at hinside
    rw [hwalk, firstMisnesting, hinside, firstMisnesting] at hnone
    exact absurd hnone (by simp)
  · rw [hfault] at hnone
    exact absurd hnone (by simp)

/-- What nests in front of a closing piece is determined by where it begins. -/
theorem Nested.eq_of_append_closing {ps qs rest rest' : List Piece} {n n' : String} (hp : Nested ps)
    (hq : Nested qs) (h : ps ++ .closing n :: rest = qs ++ .closing n' :: rest') : ps = qs := by
  rcases List.append_eq_append_iff.mp h with ⟨c, hqs, hc⟩ | ⟨c, hps, hc⟩
  · cases c with
    | nil => rw [hqs, List.append_nil]
    | cons p c =>
      obtain ⟨rfl, -⟩ := List.cons.inj hc
      exact absurd (hqs ▸ hq) (hp.not_nested_append_closing n c)
  · cases c with
    | nil => rw [hps, List.append_nil]
    | cons p c =>
      obtain ⟨rfl, -⟩ := List.cons.inj hc
      exact absurd (hps ▸ hp) (hq.not_nested_append_closing n' c)

/-- What nests behind an opening piece is determined by where it ends. -/
theorem Nested.eq_of_opening_append {before before' ps qs : List Piece} {k k' : BlockKind} {n n' : String}
    (hp : Nested ps) (hq : Nested qs) (h : before ++ .opening k n :: ps = before' ++ .opening k' n' :: qs) :
    before = before' := by
  rcases List.append_eq_append_iff.mp h with ⟨c, hbefore, hc⟩ | ⟨c, hbefore, hc⟩
  · cases c with
    | nil => rw [hbefore, List.append_nil]
    | cons p c =>
      have hps : ps = c ++ .opening k' n' :: qs := (List.cons.inj hc).2
      exact absurd (hps ▸ hp) (hq.not_nested_opening_append k' n' c)
  · cases c with
    | nil => rw [hbefore, List.append_nil]
    | cons p c =>
      have hqs : qs = c ++ .opening k n :: ps := (List.cons.inj hc).2
      exact absurd (hqs ▸ hq) (hp.not_nested_opening_append k n c)

/-- **An opening piece matches at most one closing piece.** -/
theorem Matched.eq_of_first_eq {ps : List Piece} {a b : BlockSpan} (ha : Matched ps a) (hb : Matched ps b)
    (h : a.first = b.first) : a = b := by
  obtain ⟨before, inside, after, hin, hps, hafirst, halast⟩ := ha
  obtain ⟨before', inside', after', hin', hps', hbfirst, hblast⟩ := hb
  rw [hps] at hps'
  obtain ⟨rfl, htail⟩ := List.append_inj hps' (by omega)
  obtain ⟨hopen, hrest⟩ := List.cons.inj htail
  obtain rfl := hin.eq_of_append_closing hin' hrest
  obtain ⟨hkind, hname⟩ := Piece.opening.inj hopen
  cases a
  cases b
  simp_all

/-- **A closing piece matches at most one opening piece.** -/
theorem Matched.eq_of_last_eq {ps : List Piece} {a b : BlockSpan} (ha : Matched ps a) (hb : Matched ps b)
    (h : a.last = b.last) : a = b := by
  refine ha.eq_of_first_eq hb ?_
  obtain ⟨before, inside, after, hin, hps, hafirst, halast⟩ := ha
  obtain ⟨before', inside', after', hin', hps', hbfirst, hblast⟩ := hb
  have heq : (before ++ .opening a.kind a.name :: inside) ++ .closing a.name :: after
      = (before' ++ .opening b.kind b.name :: inside') ++ .closing b.name :: after' := by
    simpa using hps.symm.trans hps'
  obtain ⟨hends, -⟩ := List.append_inj heq (by simp only [List.length_append, List.length_cons]; omega)
  rw [hafirst, hbfirst, hin.eq_of_opening_append hin' hends]

namespace Template

/-- The blocks of a template are pairs of matching pieces, whatever stands around the template. -/
theorem matched_of_mem_spans {t : Template} {b : BlockSpan} (before after : List Piece)
    (h : b ∈ t.spans before.length) : Matched (before ++ (t.toPieces ++ after)) b := by
  induction t generalizing before after with
  | nil => exact absurd h (by simp [spans])
  | leaf l r ih =>
    have hr := ih (before ++ [.leaf l]) after (by simpa [spans] using h)
    simpa [toPieces] using hr
  | block k n body r ihb ihr =>
    rw [spans, List.mem_cons, List.mem_append] at h
    rcases h with rfl | h | h
    · exact ⟨before, body.toPieces, r.toPieces ++ after, body.nested_toPieces, by simp [toPieces], rfl, rfl⟩
    · have hbody := ihb (before ++ [.opening k n]) (.closing n :: (r.toPieces ++ after)) (by simpa using h)
      simpa [toPieces] using hbody
    · have hlen : (before ++ Piece.opening k n :: (body.toPieces ++ [Piece.closing n])).length
          = before.length + 1 + body.toPieces.length + 1 := by
        simp only [List.length_append, List.length_cons, List.length_nil]
        omega
      have hrest := ihr (before ++ .opening k n :: (body.toPieces ++ [.closing n])) after (by rwa [hlen])
      simpa [toPieces] using hrest

/-- Every opening piece opens a block, and every closing piece closes one. -/
theorem exists_mem_spans {t : Template} (start : Nat) {i : Nat} {p : Piece} (h : t.toPieces[i]? = some p) :
    (∀ k n, p = .opening k n → ∃ b ∈ t.spans start, b.first = start + i) ∧
      ∀ n, p = .closing n → ∃ b ∈ t.spans start, b.last = start + i := by
  induction t generalizing start i with
  | nil => exact absurd h (by simp [toPieces])
  | leaf l r ih =>
    cases i with
    | zero =>
      obtain rfl : Piece.leaf l = p := by simpa [toPieces] using h
      exact ⟨fun k n hp => absurd hp (by simp), fun n hp => absurd hp (by simp)⟩
    | succ i =>
      have hi := ih (start + 1) (i := i) (by simpa [toPieces] using h)
      rwa [show start + 1 + i = start + (i + 1) by omega] at hi
  | block k n body r ihb ihr =>
    have hinner : ∀ b ∈ body.spans (start + 1), b ∈ (Template.block k n body r).spans start := fun b hb =>
      List.mem_cons_of_mem _ (List.mem_append_left _ hb)
    have houter : ∀ b ∈ r.spans (start + 1 + body.toPieces.length + 1),
        b ∈ (Template.block k n body r).spans start := fun b hb =>
      List.mem_cons_of_mem _ (List.mem_append_right _ hb)
    cases i with
    | zero =>
      obtain rfl : Piece.opening k n = p := by simpa [toPieces] using h
      exact ⟨fun _ _ _ => ⟨_, List.mem_cons_self, rfl⟩, fun m hp => absurd hp (by simp)⟩
    | succ i =>
      rw [toPieces, List.getElem?_cons_succ, List.getElem?_append] at h
      split at h
      · obtain ⟨hfirst, hlast⟩ := ihb (start + 1) h
        rw [show start + 1 + i = start + (i + 1) by omega] at hfirst hlast
        exact ⟨fun k' n' hp => (hfirst k' n' hp).imp fun b hb => ⟨hinner b hb.1, hb.2⟩,
          fun n' hp => (hlast n' hp).imp fun b hb => ⟨hinner b hb.1, hb.2⟩⟩
      · next hlt =>
        obtain ⟨j, rfl⟩ : ∃ j, i = body.toPieces.length + j := ⟨i - body.toPieces.length, by omega⟩
        rw [Nat.add_sub_cancel_left] at h
        cases j with
        | zero =>
          obtain rfl : Piece.closing n = p := by simpa using h
          exact ⟨fun k' n' hp => absurd hp (by simp), fun _ _ => ⟨_, List.mem_cons_self, by simp; omega⟩⟩
        | succ j =>
          obtain ⟨hfirst, hlast⟩ := ihr (start + 1 + body.toPieces.length + 1) (by simpa using h)
          rw [show start + 1 + body.toPieces.length + 1 + j = start + (body.toPieces.length + (j + 1) + 1)
            by omega] at hfirst hlast
          exact ⟨fun k' n' hp => (hfirst k' n' hp).imp fun b hb => ⟨houter b hb.1, hb.2⟩,
            fun n' hp => (hlast n' hp).imp fun b hb => ⟨houter b hb.1, hb.2⟩⟩

/-- **The blocks of a template are the matching pairs among its pieces.** -/
theorem mem_spans_iff {t : Template} {b : BlockSpan} : b ∈ t.spans 0 ↔ Matched t.toPieces b := by
  constructor
  · intro h
    have hmatched := matched_of_mem_spans [] [] h
    rwa [List.nil_append, List.append_nil] at hmatched
  · intro h
    obtain ⟨before, inside, after, -, hps, hfirst, -⟩ := id h
    have hopen : t.toPieces[b.first]? = some (.opening b.kind b.name) := by
      rw [hps, hfirst]
      simp
    obtain ⟨c, hc, hcfirst⟩ := (exists_mem_spans 0 hopen).1 _ _ rfl
    have hcmatched := matched_of_mem_spans [] [] hc
    rw [List.nil_append, List.append_nil] at hcmatched
    rwa [h.eq_of_first_eq hcmatched (by omega)]

/-- Among pieces that nest, every opening piece and every closing piece is in exactly one matching pair. -/
theorem existsUnique_matched {ps : List Piece} (h : Nested ps) (i : Nat) :
    (∀ k n, ps[i]? = some (.opening k n) → ∃! b, Matched ps b ∧ b.first = i) ∧
      ∀ n, ps[i]? = some (.closing n) → ∃! b, Matched ps b ∧ b.last = i := by
  obtain ⟨t, rfl⟩ := (nested_iff ps).mp h
  constructor
  · intro k n hi
    obtain ⟨b, hb, hfirst⟩ := (exists_mem_spans 0 hi).1 k n rfl
    rw [Nat.zero_add] at hfirst
    refine ⟨b, ⟨mem_spans_iff.mp hb, hfirst⟩, ?_⟩
    rintro c ⟨hc, hcfirst⟩
    exact hc.eq_of_first_eq (mem_spans_iff.mp hb) (hcfirst.trans hfirst.symm)
  · intro n hi
    obtain ⟨b, hb, hlast⟩ := (exists_mem_spans 0 hi).2 n rfl
    rw [Nat.zero_add] at hlast
    refine ⟨b, ⟨mem_spans_iff.mp hb, hlast⟩, ?_⟩
    rintro c ⟨hc, hclast⟩
    exact hc.eq_of_last_eq (mem_spans_iff.mp hb) (hclast.trans hlast.symm)

end Template

/-! ### Reading -/

namespace Piece

/-- A tag contributes the end of a block if it has the mark of one, and otherwise the part that it stands for. -/
theorem ofTag_eq (chunk : List Char) :
    ofTag chunk = if chunk.head? = some '/' then some (.closing (nameOf chunk.tail))
      else (Item.ofTag chunk).map ofItem := by
  unfold ofTag
  split
  case h_9 c cs hcomment hplain hinverted hclosing hinclusion hraw hbrace =>
    have hunmarked : Item.marks.lookup c = none := by
      refine List.lookup_eq_none_iff.mpr fun p hp => ?_
      simp only [Item.marks, List.mem_cons, List.not_mem_nil, or_false] at hp
      rcases hp with rfl | rfl | rfl | rfl | rfl
      all_goals simp_all
    have hmark : (c :: cs).head? ≠ some '/' := fun h => hclosing (Option.some.inj h)
    rw [if_neg hmark, Item.ofTag, if_neg (not_or.mpr ⟨hcomment, hclosing⟩), hunmarked]
    rfl
  all_goals rfl

/-- A chunk contributes what it is read as. -/
theorem ofChunk_eq_readAs (number : Nat) (chunk : List Char) :
    ofChunk (number % 2 = 1) chunk = readAs number chunk := by
  rw [ofChunk, readAs, Item.ofChunk]
  by_cases htag : number % 2 = 1
  · rw [if_pos (by simpa using htag), if_pos htag, ofTag_eq]
    simp only [htag, true_and]
    rfl
  · rw [if_neg (by simpa using htag), if_neg htag, if_neg fun h => htag h.1]
    cases chunk <;> rfl

/-- Chunks contribute what they are read as, one after the other. The induction is on the chunks that are left, of which
the first has the number `number`. -/
theorem ofChunks_eq_filterMap (number : Nat) (cs : List (List Char)) :
    ofChunks (number % 2 = 1) cs = (cs.zipIdx number).filterMap fun c => readAs c.2 c.1 := by
  induction cs generalizing number with
  | nil => rfl
  | cons c cs ih =>
    have hparity : (!decide (number % 2 = 1)) = decide ((number + 1) % 2 = 1) := by
      rw [← decide_not, decide_eq_decide]
      omega
    rw [ofChunks, hparity, ih, List.zipIdx_cons, List.filterMap_cons, ofChunk_eq_readAs]
    cases readAs number c <;> rfl

end Piece

/-- **The pieces of source are what its chunks are read as.** -/
theorem pieces_eq_reading (source : List Char) : pieces source = reading source :=
  Piece.ofChunks_eq_filterMap 0 (chunks source)

namespace Template

/-- **Reading accepts exactly what nests, and reports the first fault.** It succeeds exactly if the pieces that the
chunks of the source are read as nest. Then the template has these pieces, its blocks are the matching pairs, and
there is only one way to pair the pieces up. Otherwise there is a first closing piece after which nothing makes the
pieces nest: no block is open there, or the innermost one has another name and is reported, also if a block further
out has the name on the closing piece. Or else nothing but closing pieces is missing, and the innermost open block is
reported. -/
theorem parse_nested_or_first_fault (s : String) :
    ((∃ t, parse s = .ok t) ↔ Nested (reading s.toList)) ∧
    (∀ t, parse s = .ok t → t.toPieces = reading s.toList ∧
      (∀ b, b ∈ t.spans 0 ↔ Matched (reading s.toList) b) ∧
      ∀ i, (∀ k n, (reading s.toList)[i]? = some (.opening k n) →
          ∃! b, Matched (reading s.toList) b ∧ b.first = i) ∧
        ∀ n, (reading s.toList)[i]? = some (.closing n) →
          ∃! b, Matched (reading s.toList) b ∧ b.last = i) ∧
    (∀ bad, bad <+: reading s.toList → ¬CanNest bad →
      ∃ before n rest m, reading s.toList = before ++ .closing n :: rest ∧
        CanNest before ∧ ¬CanNest (before ++ [.closing n]) ∧ parse s = .error m ∧
        (Nested before ∧ m.block = n ∧ m.reason = "unopened" ∧ m.closedBy? = none ∨
          ∃ outer k o inside, before = outer ++ .opening k o :: inside ∧ Nested inside ∧
            m.block = o ∧ m.reason = "unclosed" ∧ m.closedBy? = some (some n))) ∧
    (CanNest (reading s.toList) → ¬Nested (reading s.toList) →
      ∃ outer k o inside m, reading s.toList = outer ++ .opening k o :: inside ∧ Nested inside ∧
        parse s = .error m ∧ m.block = o ∧ m.reason = "unclosed" ∧ m.closedBy? = some none) := by
  rw [← pieces_eq_reading]
  refine ⟨exists_parse_eq_ok_iff, ?_, ?_, ?_⟩
  · intro t ht
    have hpieces := parse_eq_ok_iff.mp ht
    refine ⟨hpieces, ?_, ?_⟩
    · rw [← hpieces]
      exact fun b => mem_spans_iff
    · exact existsUnique_matched (exists_parse_eq_ok_iff.mp ⟨t, ht⟩)
  · intro bad hprefix hbad
    obtain ⟨before, p, rest, hps, hbefore, hp⟩ := exists_first_not_canNest hprefix hbad
    obtain ⟨n, rfl, hfault⟩ := hbefore.firstMisnesting_of_not_canNest hp
    rcases hfault with ⟨hnested, hwalk⟩ | ⟨outer, k, o, inside, houter, hinside, hwalk⟩
    · have herror := parse_eq_error (s := s) (by rw [hps]; exact hwalk rest)
      exact ⟨before, n, rest, _, hps, hbefore, hp, herror, Or.inl ⟨hnested, rfl, rfl, rfl⟩⟩
    · have herror := parse_eq_error (s := s) (by rw [hps]; exact hwalk rest)
      exact ⟨before, n, rest, _, hps, hbefore, hp, herror,
        Or.inr ⟨outer, k, o, inside, houter, hinside, rfl, rfl, rfl⟩⟩
  · intro hcan hnot
    obtain ⟨outer, k, o, inside, hps, hinside, hwalk⟩ := hcan.firstMisnesting_of_not_nested hnot
    exact ⟨outer, k, o, inside, _, hps, hinside, parse_eq_error hwalk, rfl, rfl, rfl⟩

/-- The block `b` is open where `a` is closed, and is reported, although `a` is open further out. -/
example :
    parse "\x7b\x7b#a\x7d\x7d\x7b\x7b^b\x7d\x7d\x7b\x7b/ a\x7d\x7d\x7b\x7b/b\x7d\x7d" =
      .error (.mismatched "b" "a") := by
  decide

end Template

end Stencil
