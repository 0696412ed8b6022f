import Stencil.Markup
import Stencil.Proofs.Ensuring
import Stencil.Proofs.Escaping

/-!
# Data brings no markup into the output of templates without raw tags

What a template renders consists of the texts in it, of those in the templates that stand behind its partials, and of
values that have been escaped. That a text is free of the characters that delimit markup, and that every ampersand in it
begins an entity, are properties that texts keep when they are put together. Escaped texts have both, since escaping
leaves no other ampersand than those that it writes. So the whole has them if the texts of the templates have, and no
value is shown as it is (`Stencil.Setting.isFreeOfMarkup_of_render`).

Which templates stand behind partials is not decided beforehand: partials are read while a template is rendered. But
what is read is always an entry of the partials (`Stencil.Setting.ensures_source?`), and a condition on all entries
covers them.
-/

namespace Stencil

open Run

/-! ### Partials come from entries -/

namespace Graph

variable {g : Graph} {m : Memory}

/-- What layers answer is nothing, a value that one of them holds, or its default. -/
theorem ensures_answer (key : Value) {ls : List Layer} (h : ∀ l ∈ ls, l.Fits g) :
    Ensures g m (fun v => v = .null ∨ v ∈ (MapView.layered ls).values) (g.answer key ls) := by
  induction ls with
  | nil => exact ensures_pure (.inl rfl)
  | cons l ls ih =>
    rw [answer]
    split
    · next v hfound =>
      refine ensures_pure ?_
      have hmem := g.getD_find?_mem key l.entries
      rw [hfound] at hmem
      rcases hmem with hnull | ⟨e, he, hv⟩
      · exact .inl hnull
      · refine .inr (List.mem_flatMap.mpr ⟨l, List.mem_cons_self, List.mem_append_left _ ?_⟩)
        exact List.mem_map.mpr ⟨e, he, hv.symm⟩
    · next place fresh _ hfallback =>
      obtain ⟨factory, es, hnode⟩ := h l List.mem_cons_self place fresh hfallback
      refine (isQuiet_modify fun m => .gain key hnode .refl).ensures.bind fun _ _ => ensures_pure (.inr ?_)
      refine List.mem_flatMap.mpr ⟨l, List.mem_cons_self, List.mem_append_right _ ?_⟩
      rw [hfallback]
      exact List.mem_singleton_self fresh
    · refine (ih fun l' hl' => h l' (List.mem_cons_of_mem _ hl')).mono fun v hv => hv.imp_right fun hmem => ?_
      exact List.mem_append_right _ hmem

/-- What is found under a key is nothing, or one of the values of the map. -/
theorem ensures_get (key : Value) {view : MapView} (h : view.Fits g) :
    Ensures g m (fun v => v = .null ∨ v ∈ view.values) (g.get key view) := by
  cases view with
  | single es =>
    refine ensures_pure ((g.getD_find?_mem key es).imp_right ?_)
    rintro ⟨e, he, hv⟩
    exact List.mem_map.mpr ⟨e, he, hv.symm⟩
  | layered ls =>
    rw [get]
    split
    · exact ensures_answer key h
    · exact ensures_pure (.inl rfl)

end Graph

namespace Setting

variable {s : Setting} {m : Memory} {P : String → Prop}

/-- The source of a partial is an entry. -/
theorem ensures_source? (name : String) :
    Ensures s.graph m (fun source? => ∀ source, source? = some source → s.Offers m source) (s.source? name) := by
  refine ensures_memory.bind fun m' hm' => ?_
  split
  · exact ensures_pure nofun
  · next view hview =>
    refine (Graph.ensures_get _ (Graph.fits_of_partialsView? hview)).bind fun v hv => ?_
    refine ensures_memory.bind fun m'' _ => (isQuiet_ofExcept _).ensures.bind fun b _ => ?_
    split
    · split
      · next source =>
        refine ensures_pure ?_
        rintro _ ⟨⟩
        exact ⟨m', view, hm', hview, hv.resolve_left nofun⟩
      · exact ensures_pure nofun
    · exact ensures_pure nofun

theorem ensures_debug (e : Event) : Ensures s.graph m (fun _ => True) (s.debug e) := by
  rw [debug]
  split
  · exact ensures_report e
  · exact ensures_pure trivial

/-- What is shown for the source of a partial has a property if what its template renders has. -/
theorem ensures_expand (hP : IsKept P) {source : String} {body : Template → Run String}
    (hbody : ∀ t, Template.parse source = .ok t → Ensures s.graph m P (body t)) (name : String) (depth : Nat) :
    Ensures s.graph m P (s.expand name source depth body) := by
  rw [expand]
  split
  · exact (ensures_report _).bind fun _ _ => ensures_pure hP.empty
  · next t hparse =>
    exact (ensures_debug _).bind fun _ _ => (ensures_debug _).bind fun _ _ => hbody t hparse

end Setting

theorem ensures_containOverflow {g : Graph} {m : Memory} {P : String → Prop} (hP : IsKept P) {r : Run String}
    (hr : Ensures g m P r) (name : String) : Ensures g m P (containOverflow name r) := by
  intro σ hσ
  obtain ⟨hevolved, hvalue⟩ := hr σ hσ
  rw [containOverflow, runFrom_tryCatch]
  rcases hrun : r.runFrom σ with ⟨f | x, σ'⟩
  · rw [hrun] at hevolved
    dsimp only
    split
    · exact ((ensures_report _).bind fun _ _ => ensures_pure hP.empty) σ' hevolved
    · exact ⟨hevolved, fun x hx => by cases hx⟩
  · rw [hrun] at hevolved hvalue
    exact ⟨hevolved, hvalue⟩

namespace Setting

variable {s : Setting} {m : Memory} {P : String → Prop} {t : Template}

/-- **What a template renders has a property if what all leaves show has**, those of the template and those of the
templates behind its partials. -/
theorem ensures_renderWithin (hP : IsKept P)
    (hleaf : ∀ body, s.Involves m t body → ∀ l, .leaf l ∈ body.items → l.Shows P) (left : Nat) {body : Template}
    (hbody : s.Involves m t body) (scope : Scope) (stack : Stack) :
    Ensures s.graph m P (s.renderWithin left body scope stack) := by
  induction left generalizing body scope stack with
  | zero =>
    refine ensures_renderParts hP (fun name scope stack => ?_) (hleaf body hbody) scope stack
    refine (ensures_source? name).bind fun source? _ => ?_
    cases source? with
    | none => exact ensures_pure hP.empty
    | some source => exact (ensures_report _).bind fun _ _ => ensures_pure hP.empty
  | succ left ih =>
    refine ensures_renderParts hP (fun name scope stack => ?_) (hleaf body hbody) scope stack
    refine (ensures_source? name).bind fun source? hsource => ?_
    cases source? with
    | none => exact ensures_pure hP.empty
    | some source =>
      refine ensures_expand hP (fun inner hinner => ?_) name _
      exact (ensures_enter stack _).bind fun stack' _ => ih (.entry (hsource source rfl) hinner) scope stack'

theorem ensures_render (hP : IsKept P)
    (hleaf : ∀ body, s.Involves m t body → ∀ l, .leaf l ∈ body.items → l.Shows P) (scope : Scope) (stack : Stack) :
    Ensures s.graph m P (s.render t scope stack) := by
  refine ensures_renderParts hP (fun name scope stack => ?_) (hleaf t .itself) scope stack
  refine (ensures_source? name).bind fun source? hsource => ?_
  cases source? with
  | none => exact ensures_pure hP.empty
  | some source =>
    refine ensures_expand hP (fun inner hinner => ensures_containOverflow hP ?_ name) name 1
    exact (ensures_enter stack _).bind fun stack' _ =>
      ensures_renderWithin hP hleaf _ (.entry (hsource source rfl) hinner) scope stack'

end Setting

/-! ### Escaped texts -/

namespace Text

theorem IsFreeOfMarkup.append {cs ds : List Char} (hcs : IsFreeOfMarkup cs) (hds : IsFreeOfMarkup ds) :
    IsFreeOfMarkup (cs ++ ds) := by
  intro c hc
  rcases List.mem_append.mp hc with hc | hc
  · exact hcs c hc
  · exact hds c hc

theorem ampersandsBeginEntities_of_notMem {cs : List Char} (h : '&' ∉ cs) : AmpersandsBeginEntities cs := by
  rintro before after rfl
  exact absurd (List.mem_append_right _ List.mem_cons_self) h

theorem AmpersandsBeginEntities.append {cs ds : List Char} (hcs : AmpersandsBeginEntities cs)
    (hds : AmpersandsBeginEntities ds) : AmpersandsBeginEntities (cs ++ ds) := by
  intro before after h
  rcases List.append_eq_append_iff.mp h with ⟨middle, -, hds'⟩ | ⟨middle, hcs', hmiddle⟩
  · exact hds middle after hds'
  · cases middle with
    | nil => exact hds [] after hmiddle.symm
    | cons c middle =>
      obtain ⟨rfl, rfl⟩ := List.cons_eq_cons.mp hmiddle
      obtain ⟨e, he, hprefix⟩ := hcs before middle hcs'
      exact ⟨e, he, hprefix.trans (List.prefix_append _ ds)⟩

/-- An entity begins with its only ampersand. -/
theorem exists_eq_cons_of_mem_entities {e : String} (he : e ∈ entities) :
    ∃ cs, e.toList = '&' :: cs ∧ '&' ∉ cs := by
  simp only [entities, List.mem_cons, List.not_mem_nil, or_false] at he
  rcases he with rfl | rfl | rfl | rfl | rfl <;> exact ⟨_, rfl, by decide⟩

theorem ampersandsBeginEntities_of_mem_entities {e : String} (he : e ∈ entities) :
    AmpersandsBeginEntities e.toList := by
  obtain ⟨cs, hcs, hnone⟩ := exists_eq_cons_of_mem_entities he
  intro before after h
  cases before with
  | nil => exact ⟨e, he, h ▸ List.prefix_refl _⟩
  | cons c before =>
    rw [hcs, List.cons_append] at h
    rw [(List.cons_eq_cons.mp h).2] at hnone
    exact absurd (List.mem_append_right _ List.mem_cons_self) hnone

theorem isFreeOfMarkup_of_mem_entities {e : String} (he : e ∈ entities) : IsFreeOfMarkup e.toList := by
  simp only [entities, List.mem_cons, List.not_mem_nil, or_false] at he
  rcases he with rfl | rfl | rfl | rfl | rfl <;> decide

/-- A character is escaped by an entity, or it needs none. -/
theorem escapeChar_eq_entity_or_self (c : Char) :
    (∃ e ∈ entities, escapeChar c = e.toList) ∨ escapeChar c = [c] ∧ c ≠ '&' ∧ c ∉ markupDelimiters := by
  by_cases hc : c ∈ '&' :: markupDelimiters
  · refine .inl ?_
    simp only [markupDelimiters, List.mem_cons, List.not_mem_nil, or_false] at hc
    rcases hc with rfl | rfl | rfl | rfl | rfl <;> decide
  · exact .inr ⟨escapeChar_of_notMem hc, not_or.mp (mt List.mem_cons.mpr hc)⟩

/-- **Escaped text has no delimiter of markup.** -/
theorem isFreeOfMarkup_escapeChars (cs : List Char) : IsFreeOfMarkup (escapeChars cs) := by
  intro d hd
  obtain ⟨c, -, hd⟩ := List.mem_flatMap.mp hd
  rcases escapeChar_eq_entity_or_self c with ⟨e, he, hc⟩ | ⟨hc, -, hnone⟩
  · rw [hc] at hd
    exact isFreeOfMarkup_of_mem_entities he d hd
  · rw [hc, List.mem_singleton] at hd
    exact hd ▸ hnone

/-- **In escaped text every ampersand begins an entity.** -/
theorem ampersandsBeginEntities_escapeChars (cs : List Char) : AmpersandsBeginEntities (escapeChars cs) := by
  induction cs with
  | nil => exact ampersandsBeginEntities_of_notMem List.not_mem_nil
  | cons c cs ih =>
    refine AmpersandsBeginEntities.append ?_ ih
    rcases escapeChar_eq_entity_or_self c with ⟨e, he, hc⟩ | ⟨hc, hne, -⟩
    · exact hc ▸ ampersandsBeginEntities_of_mem_entities he
    · exact hc ▸ ampersandsBeginEntities_of_notMem fun hmem => hne (List.mem_singleton.mp hmem).symm

end Text

theorem isKept_isFreeOfMarkup : IsKept fun s => Text.IsFreeOfMarkup s.toList where
  empty := nofun
  append hs ht := by
    rw [String.toList_append]
    exact hs.append ht

theorem isKept_ampersandsBeginEntities : IsKept fun s => Text.AmpersandsBeginEntities s.toList where
  empty := Text.ampersandsBeginEntities_of_notMem List.not_mem_nil
  append hs ht := by
    rw [String.toList_append]
    exact hs.append ht

namespace Setting

/-! ### What templates without raw tags render -/

/-- A leaf that is not a raw tag shows what its text and all escaped texts have. -/
theorem shows_of_not_raw {P : String → Prop} {body : Template} (hraw : ∀ n, .leaf (.raw n) ∉ body.items)
    (htext : ∀ text, .leaf (.text text) ∈ body.items → P text) (hescape : ∀ text, P (Text.escape text)) {l : Leaf}
    (hl : .leaf l ∈ body.items) : l.Shows P := by
  cases l with
  | text text => exact htext text hl
  | name n => exact hescape
  | raw n => exact absurd hl (hraw n)
  | inclusion n => trivial

/-- **Without raw tags data brings no markup into the output.** If no template that matters has a raw tag, nor a
delimiter of markup in a text, then the output has none, whatever the data is. If besides no text has an ampersand,
then every ampersand of the output begins an entity. -/
theorem isFreeOfMarkup_of_render (s : Setting) (t : Template) (scope : Scope) (stack : Stack) (σ : RunState)
    (hraw : ∀ body, s.Involves σ.memory t body → ∀ n, .leaf (.raw n) ∉ body.items)
    (htext : ∀ body, s.Involves σ.memory t body → ∀ text, .leaf (.text text) ∈ body.items →
      Text.IsFreeOfMarkup text.toList)
    (output : String) (hout : ((s.render t scope stack).runFrom σ).1 = .ok output) :
    Text.IsFreeOfMarkup output.toList ∧
      ((∀ body, s.Involves σ.memory t body → ∀ text, .leaf (.text text) ∈ body.items → '&' ∉ text.toList) →
        Text.AmpersandsBeginEntities output.toList) := by
  have hescape (text : String) : (Text.escape text).toList = Text.escapeChars text.toList := String.toList_ofList
  refine ⟨?_, fun hampersand => ?_⟩
  · have hleaf : ∀ body, s.Involves σ.memory t body → ∀ l, .leaf l ∈ body.items →
        l.Shows fun text => Text.IsFreeOfMarkup text.toList := fun body hbody l hl =>
      shows_of_not_raw (hraw body hbody) (htext body hbody)
        (fun text => hescape text ▸ Text.isFreeOfMarkup_escapeChars _) hl
    exact (ensures_render isKept_isFreeOfMarkup hleaf scope stack σ .refl).2 output hout
  · have hleaf : ∀ body, s.Involves σ.memory t body → ∀ l, .leaf l ∈ body.items →
        l.Shows fun text => Text.AmpersandsBeginEntities text.toList := fun body hbody l hl =>
      shows_of_not_raw (hraw body hbody)
        (fun text htext => Text.ampersandsBeginEntities_of_notMem (hampersand body hbody text htext))
        (fun text => hescape text ▸ Text.ampersandsBeginEntities_escapeChars _) hl
    exact (ensures_render isKept_ampersandsBeginEntities hleaf scope stack σ .refl).2 output hout

/-- The source of a partial that shows an item. -/
def itemSource : String := "- {{.}}"

/-- A title and two items that are full of markup, and a partial for the items. -/
def hostile : Setting where
  graph := ⟨#[.table .plain [(.text "title", .text "<b a=\"1\">"), (.text "items", .ref 1)],
    .sequence .list [.text "'&lt;'", .text "</p>"], .table .plain [(.text "item", .text itemSource)]], by decide⟩
  settings := .initial
  partials := .value (.ref 2)

/-- The template behind the partial. -/
def itemTemplate : Template := .leaf (.text "- ") (.leaf (.name ".") .nil)

/-- The title, and the partial for each item. -/
def hostileTemplate : Template :=
  .leaf (.text "= ") (.leaf (.name "title") (.block .plain "items" (.leaf (.inclusion "item") .nil) .nil))

/-- The only templates that matter are the template and that of the partial. -/
theorem hostile_involves {body : Template} (h : hostile.Involves .fresh hostileTemplate body) :
    body = hostileTemplate ∨ body = itemTemplate := by
  cases h with
  | itself => exact .inl rfl
  | @entry source _ hoffers hparse =>
    have hnode : hostile.graph.node? (.ref 2) = some (.table .plain [(.text "item", .text itemSource)]) := rfl
    obtain ⟨m, view, -, hview, hmem⟩ := hoffers
    have htable : hostile.graph.partialsView? m hostile.partials = some (.single [(.text "item", .text itemSource)]) :=
      Graph.mapping?_of_table hnode nofun m
    obtain rfl := Option.some.inj (htable.symm.trans hview)
    obtain rfl : source = itemSource := Value.text.inj (List.mem_singleton.mp hmem)
    have hitem : Template.parse itemSource = .ok itemTemplate := rfl
    exact .inr (Except.ok.inj (hparse.symm.trans hitem))

/-- All that is markup in the data comes out as entities. -/
theorem isFreeOfMarkup_of_render_hostile :
    let rendered := (hostile.render hostileTemplate (.value (.ref 0)) Stack.ordinary).runFrom ⟨.fresh, #[]⟩
    let output := "= &lt;b a=&quot;1&quot;&gt;- &apos;&amp;lt;&apos;- &lt;/p&gt;"
    (∀ body, hostile.Involves .fresh hostileTemplate body → ∀ n, .leaf (.raw n) ∉ body.items) ∧
      (∀ body, hostile.Involves .fresh hostileTemplate body → ∀ text, .leaf (.text text) ∈ body.items →
        Text.IsFreeOfMarkup text.toList ∧ '&' ∉ text.toList) ∧
      rendered.1 = .ok output ∧ Text.IsFreeOfMarkup output.toList ∧ Text.AmpersandsBeginEntities output.toList := by
  have hraw : ∀ body, hostile.Involves .fresh hostileTemplate body → ∀ n, .leaf (.raw n) ∉ body.items := by
    intro body hbody n
    rcases hostile_involves hbody with rfl | rfl <;> simp [hostileTemplate, itemTemplate, Template.items]
  have htext : ∀ body, hostile.Involves .fresh hostileTemplate body → ∀ text, .leaf (.text text) ∈ body.items →
      Text.IsFreeOfMarkup text.toList ∧ '&' ∉ text.toList := by
    intro body hbody text hmem
    have htext : text = "= " ∨ text = "- " := by
      rcases hostile_involves hbody with rfl | rfl
      · exact .inl (by simpa [hostileTemplate, Template.items] using hmem)
      · exact .inr (by simpa [itemTemplate, Template.items] using hmem)
    rcases htext with rfl | rfl <;> decide
  have hrendered : ((hostile.render hostileTemplate (.value (.ref 0)) Stack.ordinary).runFrom ⟨.fresh, #[]⟩).1 =
      .ok "= &lt;b a=&quot;1&quot;&gt;- &apos;&amp;lt;&apos;- &lt;/p&gt;" :=
    rfl
  obtain ⟨hfree, hentities⟩ := isFreeOfMarkup_of_render hostile hostileTemplate (.value (.ref 0)) Stack.ordinary
    ⟨.fresh, #[]⟩ hraw (fun body hbody text hmem => (htext body hbody text hmem).1) _ hrendered
  exact ⟨hraw, htext, hrendered, hfree, hentities fun body hbody text hmem => (htext body hbody text hmem).2⟩

end Setting

end Stencil
