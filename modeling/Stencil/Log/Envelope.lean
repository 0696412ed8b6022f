import Stencil.Log.Layout

/-!
# What a line for programs says of a record

A line for programs is an object of five fields. Four of them are the envelope, and say when, how severe, what and from
which library; the fifth one has the attributes: the scope, the extra attributes that are shown, and the place in the
program where the level shows it. `Stencil.JsonLayout.Encodes` says so of the extra attributes in the order in which
they were set, however often, and not of the attributes that the record has in the end. None of them is a field of the
record, since a logging call that gives one the name of a field is refused.

The line exists if each of its parts can be had (`Stencil.JsonLayout.IsEncodable`).
-/

namespace Stencil

/-- **Whether characters are all printable and of ASCII.** No end of a line is among them. -/
def Text.IsPrintableAscii (cs : List Char) : Prop := ∀ c ∈ cs, 32 ≤ c.toNat ∧ c.toNat < 127

instance (cs : List Char) : Decidable (Text.IsPrintableAscii cs) :=
  List.decidableBAll (fun c : Char => 32 ≤ c.toNat ∧ c.toNat < 127) cs

namespace Record

/-- The value that was set last under a name. -/
def lastSet? (attributes : List (String × Value)) (name : String) : Option Value := attributes.reverse.lookup name

/-- Whether attributes of a name are shown under it: no field of a record has the name, and it does not begin with an
underscore. -/
def IsShown (name : String) : Prop := name ∉ hiddenNames ∧ name.toList.head? ≠ some '_'

instance (name : String) : Decidable (IsShown name) := inferInstanceAs (Decidable (_ ∧ _))

section

variable (g : Graph) (r : Record) (extras : List (String × Value))

/-- The scope that is set, or null. -/
def ownScope : Value := (lastSet? extras "scope").getD .null

/-- **The scope of a record**: the one that is set, if it counts as true, and else the last component of the name of the
logger, or the library for a logger without a name. -/
inductive GivesScope (m : Memory) : Value → Prop
  | own (htruth : g.truth m (ownScope extras) = .ok true) : GivesScope m (ownScope extras)
  | lastComponent (htruth : g.truth m (ownScope extras) = .ok false) {front last : String}
      (hlogger : r.logger = front ++ "." ++ last) (hlast : '.' ∉ last.toList) : GivesScope m (.text last)
  | onlyComponent (htruth : g.truth m (ownScope extras) = .ok false) (hnamed : r.logger ≠ "")
      (honly : '.' ∉ r.logger.toList) : GivesScope m (.text r.logger)
  | library (htruth : g.truth m (ownScope extras) = .ok false) (hunnamed : r.logger = "") :
      GivesScope m (.text "whisker")

/-- **What a record says**: the message with its arguments, unless an attribute has been set in the place of the
function that gives the message. -/
inductive Says (σ : RunState) : Value → RunState → Prop
  | message (hnone : lastSet? extras messageFunction = none) {text : String} {τ : RunState}
      (hbody : (r.body g).runFrom σ = (.ok text, τ)) : Says σ (.text text) τ
  | own {own : Value} (hown : lastSet? extras messageFunction = some own) {said : Value} {τ : RunState}
      (hcall : (g.callBare own).runFrom σ = (.ok said, τ)) : Says σ said τ

end

end Record

namespace JsonLayout

section

variable (g : Graph) (version : String) (r : Record) (extras : List (String × Value)) (σ : RunState)

/-- All that is gathered under a name for a line, one after the other. -/
def gathered (scope : Value) : List (String × Value) :=
  ("scope", scope) :: (extras.filter (fun a => Record.IsShown a.1) ++ placeAttributes r)

/-- **What a line encodes**: an object of five fields, one of which has the attributes. Their names are those that are
gathered, in the order of their first occurrences, and each has the value that is gathered last. -/
inductive Encodes (τ : RunState) : JsonTree → Prop
  | intro {time : DateTime} (htime : Clock.dateTime r.created = .ok time)
      {scope : Value} (hscope : r.GivesScope g extras σ.memory scope)
      {said : Value} (hsaid : r.Says g extras σ said τ)
      {body : JsonTree} (hbody : g.json τ.memory said = .ok body)
      {fields : List (String × JsonTree)}
      (hnames : fields.map Prod.fst = ((gathered r extras scope).map Prod.fst).eraseDups)
      (hvalues : ∀ f ∈ fields, ∃ v,
        Record.lastSet? (gathered r extras scope) f.1 = some v ∧ g.json τ.memory v = .ok f.2) :
      Encodes τ (.object
        [("timestamp", .string (Clock.timestamp time)), ("severityText", .string (severity r.level)), ("body", body),
          ("attributes", .object fields),
          ("resource", .object [("service.name", .string serviceName), ("service.version", .string version)])])

/-- **Whether each part of a line can be had**: the time has a date, there is a scope, the record says something, and
that and the attributes have documents. -/
inductive IsEncodable : Prop
  | intro {time : DateTime} (htime : Clock.dateTime r.created = .ok time)
      {scope : Value} (hscope : r.GivesScope g extras σ.memory scope)
      {said : Value} {τ : RunState} (hsaid : r.Says g extras σ said τ)
      {body : JsonTree} (hbody : g.json τ.memory said = .ok body)
      (hvalues : ∀ name v, Record.lastSet? (gathered r extras scope) name = some v → ∃ j, g.json τ.memory v = .ok j)

end

end JsonLayout

end Stencil
