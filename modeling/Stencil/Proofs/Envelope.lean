import Stencil.Proofs.Attributes
import Stencil.Proofs.Documents
import Stencil.Proofs.Lines
import Stencil.Proofs.Paths

/-!
# Extra attributes do not touch the envelope

The line of a record encodes what the record was given (`Stencil.JsonLayout.runFrom_document_eq_ok_iff_encodes`): the
scope and what the record says are looked up among the attributes that were set last, and the fields are those that are
gathered. As only the fifth field depends on the extra attributes, the four others stay as they are
(`Stencil.JsonLayout.line_enveloped`).

There is one exception. A record is asked for its message by a function, and an attribute of the name of that function
takes its place (`Stencil.JsonLayout.exists_line_not_enveloped`).
-/

namespace Stencil

open Run

/-! ### The scope -/

namespace Record

/-- A name without dots is its only component. -/
theorem inferScope_of_notMem {logger : String} (hnamed : logger ≠ "") (honly : '.' ∉ logger.toList) :
    inferScope logger = logger := by
  rw [inferScope, if_neg hnamed, Text.cutAt_of_notMem honly]
  exact String.ofList_toList

/-- What follows the last dot is the last component. -/
theorem inferScope_append {front last : String} (hlast : '.' ∉ last.toList) :
    inferScope (front ++ "." ++ last) = last := by
  have hnamed : front ++ "." ++ last ≠ "" := by
    intro h
    have hempty := toList_dot front last
    rw [h] at hempty
    exact List.append_ne_nil_of_right_ne_nil _ (List.cons_ne_nil _ _) hempty.symm
  rw [inferScope, if_neg hnamed, toList_dot, Text.cutAt_append, Text.cutAt_of_notMem hlast, List.getLastD_concat]
  exact String.ofList_toList

section

variable {g : Graph} {r : Record} {extras : List (String × Value)}

/-- Some component of a name is the last one. -/
theorem givesScope_inferScope {m : Memory} (htruth : g.truth m (ownScope extras) = .ok false) :
    r.GivesScope g extras m (.text (inferScope r.logger)) := by
  by_cases hnamed : r.logger = ""
  · rw [hnamed]
    exact .library htruth hnamed
  · by_cases hdots : '.' ∈ r.logger.toList
    · obtain ⟨last, front, hreverse, hlast⟩ := List.eq_append_cons_of_mem (List.mem_reverse.mpr hdots)
      have hcs : r.logger.toList = front.reverse ++ '.' :: last.reverse := by
        rw [← List.reverse_reverse r.logger.toList, hreverse, List.reverse_append, List.reverse_cons, List.append_assoc]
        rfl
      have hlogger : r.logger = String.ofList front.reverse ++ "." ++ String.ofList last.reverse := by
        rw [← String.toList_inj, hcs, toList_dot, String.toList_ofList, String.toList_ofList]
      have hlast' : '.' ∉ (String.ofList last.reverse).toList := by
        rwa [String.toList_ofList, List.mem_reverse]
      rw [hlogger, inferScope_append hlast']
      exact .lastComponent htruth hlogger hlast'
    · rw [inferScope_of_notMem hnamed hdots]
      exact .onlyComponent htruth hnamed hdots

/-- What the record has in the end are the attributes that were set last. -/
theorem attributeOf_setAll (name : String) :
    Record.attributeOf { r with attributes := setAll [] extras } name = (lastSet? extras name).getD .null := by
  rw [attributeOf, lookup_setAll_nil]

/-- **The scope is the one that is set, or the last component of the name of the logger.** -/
theorem scope_eq_ok_iff {m : Memory} {scope : Value} :
    Record.scope g m { r with attributes := setAll [] extras } = .ok scope ↔ r.GivesScope g extras m scope := by
  rw [Record.scope, attributeOf_setAll]
  change (do
    if ← g.truth m (ownScope extras) then return ownScope extras else return .text (inferScope r.logger)) = _ ↔ _
  rw [except_bind_eq_ok_iff]
  constructor
  · rintro ⟨b, htruth, h⟩
    cases b with
    | true =>
      obtain rfl := Except.ok.inj h
      exact .own htruth
    | false =>
      obtain rfl := Except.ok.inj h
      exact givesScope_inferScope htruth
  · intro h
    cases h with
    | own htruth => exact ⟨true, htruth, rfl⟩
    | lastComponent htruth hlogger hlast =>
      refine ⟨false, htruth, ?_⟩
      rw [hlogger, inferScope_append hlast]
      rfl
    | onlyComponent htruth hnamed honly =>
      refine ⟨false, htruth, ?_⟩
      rw [inferScope_of_notMem hnamed honly]
      rfl
    | library htruth hunnamed =>
      refine ⟨false, htruth, ?_⟩
      rw [hunnamed]
      rfl

/-- **A record says its message, or what the attribute in the place of the message function returns.** -/
theorem runFrom_said_eq_ok_iff {σ τ : RunState} {said : Value} :
    (Record.said g { r with attributes := setAll [] extras }).runFrom σ = (.ok said, τ) ↔ r.Says g extras σ said τ := by
  rw [Record.said, lookup_setAll_nil]
  rcases hown : lastSet? extras messageFunction with _ | own
  · dsimp only
    rw [runFrom_bind_eq_ok_iff]
    constructor
    · rintro ⟨text, ρ, hbody, h⟩
      obtain ⟨hsaid, rfl⟩ := Prod.mk.inj h
      obtain rfl := Except.ok.inj hsaid
      exact .message hown hbody
    · intro h
      cases h with
      | message _ hbody => exact ⟨_, τ, hbody, rfl⟩
      | own hsome => exact nomatch hown.symm.trans hsome
  · constructor
    · intro h
      exact .own hown h
    · intro h
      cases h with
      | message hnone => exact nomatch hnone.symm.trans hown
      | own hsome hcall =>
        obtain rfl := Option.some.inj (hown.symm.trans hsome)
        exact hcall

theorem mem_of_lastSet?_eq_some {name : String} {v : Value} (h : lastSet? extras name = some v) :
    name ∈ extras.map Prod.fst :=
  List.mem_map_of_mem (List.mem_reverse.mp (mem_of_lookup h))

/-- A record says its message, unless an attribute stands in the place of the function that gives it. -/
theorem Says.exists_text {σ τ : RunState} {said : Value} (h : r.Says g extras σ said τ)
    (hextras : messageFunction ∉ extras.map Prod.fst) :
    ∃ text, (r.body g).runFrom σ = (.ok text, τ) ∧ said = .text text := by
  cases h with
  | message _ hbody => exact ⟨_, hbody, rfl⟩
  | own hown => exact absurd (mem_of_lastSet?_eq_some hown) hextras

end

end Record

/-! ### The fields -/

namespace JsonLayout

variable {g : Graph} {version : String} {r : Record} {extras : List (String × Value)} {σ τ : RunState} {m : Memory}

theorem field_eq_ok_iff {a : String × Value} {f : String × JsonTree} :
    (do return (a.1, ← g.json m a.2) : Except Fault (String × JsonTree)) = .ok f ↔
      f.1 = a.1 ∧ g.json m a.2 = .ok f.2 := by
  rw [except_bind_eq_ok_iff]
  constructor
  · rintro ⟨j, hj, h⟩
    obtain rfl := Except.ok.inj h
    exact ⟨rfl, hj⟩
  · rintro ⟨hname, hj⟩
    exact ⟨f.2, hj, by rw [← hname]; rfl⟩

/-- Fields come from attributes if they have the names, and the documents of the values under the names. -/
theorem mapM_field_eq_ok_iff {valueOf : String → Option Value} {attributes : List (String × Value)}
    (hvalueOf : ∀ a ∈ attributes, valueOf a.1 = some a.2) {fields : List (String × JsonTree)} :
    attributes.mapM (fun a => do return (a.1, ← g.json m a.2)) = .ok fields ↔
      fields.map Prod.fst = attributes.map Prod.fst ∧
        ∀ f ∈ fields, ∃ v, valueOf f.1 = some v ∧ g.json m v = .ok f.2 := by
  rw [mapM_eq_ok_iff]
  simp only [field_eq_ok_iff]
  induction attributes generalizing fields with
  | nil =>
    rw [List.forall₂_nil_left_iff, List.map_nil, List.map_eq_nil_iff]
    constructor
    · rintro rfl
      exact ⟨rfl, nofun⟩
    · exact And.left
  | cons a attributes ih =>
    obtain ⟨ha, hvalueOf⟩ := List.forall_mem_cons.mp hvalueOf
    rw [List.forall₂_cons_left_iff]
    constructor
    · rintro ⟨f, fs, ⟨hname, hj⟩, hfs, rfl⟩
      obtain ⟨hnames, hvalues⟩ := (ih hvalueOf).mp hfs
      refine ⟨?_, List.forall_mem_cons.mpr ⟨⟨a.2, hname ▸ ha, hj⟩, hvalues⟩⟩
      rw [List.map_cons, List.map_cons, hname, hnames]
    · rintro ⟨hnames, hvalues⟩
      obtain ⟨f, fs, rfl, hname, hnames⟩ := List.map_eq_cons_iff.mp hnames
      obtain ⟨⟨v, hv, hj⟩, hvalues⟩ := List.forall_mem_cons.mp hvalues
      rw [hname, ha] at hv
      obtain rfl := Option.some.inj hv
      exact ⟨f, fs, ⟨hname, hj⟩, (ih hvalueOf).mpr ⟨hnames, hvalues⟩, rfl⟩

/-- The fields of a line have the names that are gathered, and the documents of the values gathered last. -/
theorem mapM_attributes_eq_ok_iff {scope : Value} {fields : List (String × JsonTree)} :
    (attributes { r with attributes := Record.setAll [] extras } scope).mapM
        (fun a => do return (a.1, ← g.json m a.2)) = .ok fields ↔
      fields.map Prod.fst = ((gathered r extras scope).map Prod.fst).eraseDups ∧
        ∀ f ∈ fields, ∃ v, Record.lastSet? (gathered r extras scope) f.1 = some v ∧ g.json m v = .ok f.2 := by
  rw [attributes_eq, ← Record.map_fst_setAll_nil]
  refine mapM_field_eq_ok_iff fun a ha => ?_
  rw [← Record.lookup_setAll_nil]
  exact Record.lookup_of_mem Record.nodup_map_fst_setAll_nil ha

/-- All fields are there, if the values gathered last have documents. -/
theorem exists_mapM_attributes_iff {scope : Value} :
    (∃ fields, (attributes { r with attributes := Record.setAll [] extras } scope).mapM
        (fun a => do return (a.1, ← g.json m a.2)) = .ok fields) ↔
      ∀ name v, Record.lastSet? (gathered r extras scope) name = some v → ∃ j, g.json m v = .ok j := by
  rw [exists_mapM_eq_ok_iff, attributes_eq]
  constructor
  · intro h name v hv
    rw [← Record.lookup_setAll_nil] at hv
    obtain ⟨f, hf⟩ := h _ (Record.mem_of_lookup hv)
    exact ⟨f.2, (field_eq_ok_iff.mp hf).2⟩
  · intro h a ha
    have hv := Record.lookup_of_mem Record.nodup_map_fst_setAll_nil ha
    rw [Record.lookup_setAll_nil] at hv
    obtain ⟨j, hj⟩ := h _ _ hv
    exact ⟨(a.1, j), field_eq_ok_iff.mpr ⟨rfl, hj⟩⟩

/-- **The document of a record encodes it.** -/
theorem runFrom_document_eq_ok_iff_encodes {doc : JsonTree} :
    (document g version { r with attributes := Record.setAll [] extras }).runFrom σ = (.ok doc, τ) ↔
      Encodes g version r extras σ τ doc := by
  rw [runFrom_document_eq_ok_iff]
  constructor
  · rintro ⟨time, htime, scope, hscope, said, hsaid, body, hbody, fields, hfields, rfl⟩
    obtain ⟨hnames, hvalues⟩ := mapM_attributes_eq_ok_iff.mp hfields
    exact .intro (r := r) htime (Record.scope_eq_ok_iff.mp hscope) (Record.runFrom_said_eq_ok_iff.mp hsaid) hbody hnames
      hvalues
  · rintro ⟨htime, hscope, hsaid, hbody, hnames, hvalues⟩
    exact ⟨_, htime, _, Record.scope_eq_ok_iff.mpr hscope, _, Record.runFrom_said_eq_ok_iff.mpr hsaid, _, hbody, _,
      mapM_attributes_eq_ok_iff.mpr ⟨hnames, hvalues⟩, rfl⟩

/-- There is a document if each part can be had. -/
theorem exists_document_iff :
    (∃ doc τ, (document g version { r with attributes := Record.setAll [] extras }).runFrom σ = (.ok doc, τ)) ↔
      IsEncodable g r extras σ := by
  simp only [runFrom_document_eq_ok_iff]
  constructor
  · rintro ⟨-, τ, time, htime, scope, hscope, said, hsaid, body, hbody, fields, hfields, -⟩
    exact .intro htime (Record.scope_eq_ok_iff.mp hscope) (Record.runFrom_said_eq_ok_iff.mp hsaid) hbody
      (exists_mapM_attributes_iff.mp ⟨fields, hfields⟩)
  · rintro ⟨htime, hscope, hsaid, hbody, hvalues⟩
    obtain ⟨fields, hfields⟩ := exists_mapM_attributes_iff.mpr hvalues
    exact ⟨_, _, _, htime, _, Record.scope_eq_ok_iff.mpr hscope, _, Record.runFrom_said_eq_ok_iff.mpr hsaid, _, hbody,
      _, hfields, rfl⟩

/-- **A line is printable ASCII**, and so a single line, whatever the record has. -/
theorem Encodes.isPrintableAscii {doc : JsonTree} (h : Encodes g version r extras σ τ doc) :
    Text.IsPrintableAscii doc.text.toList := by
  rw [JsonTree.text, String.toList_ofList]
  obtain ⟨-, -, -, hbody, -, hvalues⟩ := h
  refine JsonTree.isPrintableAscii_object ?_
  simp only [List.forall_mem_cons]
  refine ⟨JsonTree.isPrintableAscii_quoteChars _, JsonTree.isPrintableAscii_quoteChars _,
    Graph.isPrintableAscii_of_json hbody, JsonTree.isPrintableAscii_object ?_, JsonTree.isPrintableAscii_object ?_,
    nofun⟩
  · intro f hf
    obtain ⟨v, -, hj⟩ := hvalues f hf
    exact Graph.isPrintableAscii_of_json hj
  · simp only [List.forall_mem_cons]
    exact ⟨JsonTree.isPrintableAscii_quoteChars _, JsonTree.isPrintableAscii_quoteChars _, nofun⟩

/-- What a line encodes is the same for other extra attributes, but for the attributes. -/
theorem Encodes.field?_eq {others : List (String × Value)} {τ' : RunState} {doc doc' : JsonTree}
    (h : Encodes g version r extras σ τ doc) (h' : Encodes g version r others σ τ' doc') :
    ∀ name ∈ ["timestamp", "severityText", "resource"], doc.field? name = doc'.field? name := by
  obtain ⟨htime, -, -, -, -, -⟩ := h
  obtain ⟨htime', -, -, -, -, -⟩ := h'
  obtain rfl := Except.ok.inj (htime.symm.trans htime')
  simp only [List.forall_mem_cons]
  exact ⟨rfl, rfl, rfl, nofun⟩

theorem Encodes.exists_field?_body {doc : JsonTree} (h : Encodes g version r extras σ τ doc) :
    ∃ said body, r.Says g extras σ said τ ∧ g.json τ.memory said = .ok body ∧ doc.field? "body" = some body := by
  obtain ⟨-, -, hsaid, hbody, -, -⟩ := h
  exact ⟨_, _, hsaid, hbody, rfl⟩

/-- What the record says is the same too, if no attribute stands in the place of the function that gives the message. -/
theorem Encodes.field?_body_eq {others : List (String × Value)} {τ' : RunState} {doc doc' : JsonTree}
    (h : Encodes g version r extras σ τ doc) (h' : Encodes g version r others σ τ' doc')
    (hextras : Record.messageFunction ∉ extras.map Prod.fst) (hothers : Record.messageFunction ∉ others.map Prod.fst) :
    doc.field? "body" = doc'.field? "body" := by
  obtain ⟨_, body, hsaid, hbody, hfield⟩ := h.exists_field?_body
  obtain ⟨_, body', hsaid', hbody', hfield'⟩ := h'.exists_field?_body
  obtain ⟨text, htext, rfl⟩ := hsaid.exists_text hextras
  obtain ⟨text', htext', rfl⟩ := hsaid'.exists_text hothers
  obtain ⟨hsame, rfl⟩ := Prod.mk.inj (htext.symm.trans htext')
  obtain rfl := Except.ok.inj hsame
  obtain rfl := Except.ok.inj (hbody.symm.trans hbody')
  rw [hfield, hfield']

/-- **Extra attributes do not touch the envelope of a line.** A line comes about if each of its parts can be had, and
then it is printable ASCII and encodes the record. Other extra attributes leave the time, the severity and the library
as they are, and what the record says too, unless one of them stands in the place of the function that gives the
message. -/
theorem line_enveloped (g : Graph) (version : String) (r : Record) (extras : List (String × Value)) (σ : RunState) :
    let logged := { r with attributes := Record.setAll [] extras }
    ((∃ text τ, (line g version logged).runFrom σ = (.ok text, τ)) ↔ IsEncodable g r extras σ) ∧
      (∀ text τ, (line g version logged).runFrom σ = (.ok text, τ) ↔
        ∃ doc, Encodes g version r extras σ τ doc ∧ text = doc.text) ∧
      (∀ doc τ, Encodes g version r extras σ τ doc → Text.IsPrintableAscii doc.text.toList) ∧
      ∀ others doc doc' τ τ', Encodes g version r extras σ τ doc → Encodes g version r others σ τ' doc' →
        (∀ name ∈ ["timestamp", "severityText", "resource"], doc.field? name = doc'.field? name) ∧
          (Record.messageFunction ∉ extras.map Prod.fst → Record.messageFunction ∉ others.map Prod.fst →
            doc.field? "body" = doc'.field? "body") := by
  intro logged
  have hline (text : String) (τ : RunState) : (line g version logged).runFrom σ = (.ok text, τ) ↔
      ∃ doc, Encodes g version r extras σ τ doc ∧ text = doc.text := by
    rw [runFrom_line_eq_ok_iff]
    simp only [logged, runFrom_document_eq_ok_iff_encodes]
  refine ⟨?_, hline, fun _ _ h => h.isPrintableAscii, fun _ _ _ _ _ h h' => ⟨h.field?_eq h', h.field?_body_eq h'⟩⟩
  rw [← exists_document_iff]
  simp only [hline, runFrom_document_eq_ok_iff_encodes]
  constructor
  · rintro ⟨-, τ, doc, h, -⟩
    exact ⟨doc, τ, h⟩
  · rintro ⟨doc, τ, h⟩
    exact ⟨doc.text, τ, doc, h, rfl⟩

/-- A record that says "hi". -/
def greeting : Record :=
  { logger := "whisker.renderer", level := 40, path := "/src/whisker/template/renderer.py", line := .int 42
    message := .text "hi", arguments := .positional [], created := .finite false 6291456002097152 (-22)
    attributes := [] }

/-- Attributes of which two have the same name, one has a name that the place in the program has too, and one is not
shown. -/
def overlapping : List (String × Value) :=
  [("code.lineno", .text "x"), ("user", .int 1), ("_hidden", .int 2), ("user", .int 3)]

/-- What the line of that record with these attributes encodes. -/
def overlapped : JsonTree :=
  .object
    [("timestamp", .string "2017-07-14T02:40:00.500000000Z"), ("severityText", .string "ERROR"), ("body", .string "hi"),
      ("attributes", .object
        [("scope", .string "renderer"), ("code.lineno", .number "42"), ("user", .number "3"),
          ("code.filepath", .string "template/renderer.py")]),
      ("resource", .object [("service.name", .string "whisker"), ("service.version", .string "0.2.0")])]

theorem encodes_overlapped (σ : RunState) : Encodes .empty "0.2.0" greeting overlapping σ σ overlapped := by
  have htime : Clock.dateTime greeting.created = .ok (Clock.dateTimeAt 1500000000500000) := rfl
  exact runFrom_document_eq_ok_iff_encodes.mp (runFrom_document_eq_ok_iff.mpr
    ⟨_, htime, .text "renderer", rfl, .text "hi", rfl, .string "hi", rfl, _, rfl, rfl⟩)

/-- The line of that record is printable ASCII, as any other. -/
theorem line_enveloped_overlapped :
    let σ : RunState := ⟨.fresh, #[]⟩
    Encodes .empty "0.2.0" greeting overlapping σ σ overlapped ∧ Text.IsPrintableAscii overlapped.text.toList ∧
      (line .empty "0.2.0" { greeting with attributes := Record.setAll [] overlapping }).runFrom σ =
        (.ok overlapped.text, σ) := by
  intro σ
  have hencodes := encodes_overlapped σ
  obtain ⟨-, hline, hascii, -⟩ := line_enveloped .empty "0.2.0" greeting overlapping σ
  exact ⟨hencodes, hascii overlapped σ hencodes, (hline overlapped.text σ).mpr ⟨overlapped, hencodes, rfl⟩⟩

/-- **There need not be a line, and it need not show the message**: an attribute can stand in the place of the function
that gives the message, a scope need not have a truth value, and a time need not have a date. In each case the message
can be given its arguments, and the extra attributes have documents. -/
theorem exists_line_not_enveloped :
    let σ : RunState := ⟨.fresh, #[]⟩
    (∃ (g : Graph) (extras : List (String × Value)), (greeting.body g).runFrom σ = (.ok "hi", σ) ∧
      (∀ a ∈ extras, ∃ j, g.json σ.memory a.2 = .ok j) ∧
        ∃ doc τ, (document g "0.2.0" { greeting with attributes := extras }).runFrom σ = (.ok doc, τ) ∧
          doc.field? "body" = some (.string "forged")) ∧
    (∃ (g : Graph) (extras : List (String × Value)), (greeting.body g).runFrom σ = (.ok "hi", σ) ∧
      (∀ a ∈ extras, ∃ j, g.json σ.memory a.2 = .ok j) ∧
        ∃ f τ, (line g "0.2.0" { greeting with attributes := extras }).runFrom σ = (.error f, τ)) ∧
    ∃ f τ, (line .empty "0.2.0" { greeting with created := .infinity false }).runFrom σ = (.error f, τ) := by
  intro σ
  refine ⟨?_, ?_, _, _, rfl⟩
  · refine ⟨⟨#[.callable none (.replies (.text "forged") [])], by decide⟩, [("getMessage", .ref 0)], rfl, ?_, _, _, rfl,
      rfl⟩
    rw [List.forall_mem_singleton]
    exact ⟨_, rfl⟩
  · refine ⟨⟨#[.object "scope" (.fails .value "ambiguous")], by decide⟩, [("scope", .ref 0)], rfl, ?_, _, _, rfl⟩
    rw [List.forall_mem_singleton]
    exact ⟨_, rfl⟩

end JsonLayout

end Stencil
