import Stencil.Data.View
import Stencil.Template.Description

/-!
# Values as text

Every value has two texts. `Graph.quote` is the text of a value inside another one: texts are quoted,
decimals are marked as such, and containers show what they contain. `Graph.display` is the text of a
value on its own, where texts and decimals show as they are.

An object that contains itself is shown by an ellipsis at the place where it would begin again. Integers
whose numerals would be too long have no text, nor does anything that contains one.
-/

namespace Stencil

namespace Graph

/-- The number of levels to which values are shown. -/
def displayDepth : Nat := 1000

/-- The texts joined by commas. -/
def commaText (ss : List String) : String := ", ".intercalate ss

/-- An integer as text. -/
def integerText (n : Int) : Except Fault String :=
  match Number.integerText? n with
  | some s => .ok s
  | none => .error .tooManyDigits

/-- A truth value as text. -/
def boolText (b : Bool) : String := if b then "True" else "False"

/-- The name of a factory as text. -/
def factoryText : Factory → String
  | .int => "<class 'int'>"
  | .text => "<class 'str'>"
  | .list => "<class 'list'>"
  | .table => "<class 'dict'>"

/-- What stands for an object inside itself, if the object takes notice of that. Named tuples and
views of a table do not, but the objects inside them do. -/
def ellipsis? : Node → Option String
  | .sequence .list _ => some "[...]"
  | .sequence .tuple _ => some "(...)"
  | .sequence .deque _ => some "[...]"
  | .sequence (.named ..) _ => none
  | .table .plain _ => some "\x7b...\x7d"
  | .table .ordered _ => some "..."
  | .table .wrapped _ => some "\x7b...\x7d"
  | .table .readOnly _ => some "mappingproxy(\x7b...\x7d)"
  | .table (.defaulting f _) _ => some ("defaultdict(" ++ factoryText f ++ ", \x7b...\x7d)")
  | .chain _ => some "..."
  | .struct .. => some "..."
  | .set false _ => some "set(...)"
  | .set true _ => some "frozenset(...)"
  | _ => none

/-- Items between brackets. -/
def bracketText (ss : List String) : String := "[" ++ commaText ss ++ "]"

/-- Pairs of key and value between braces. -/
def braceText (ss : List (String × String)) : String :=
  "\x7b" ++ commaText (ss.map fun e => e.1 ++ ": " ++ e.2) ++ "\x7d"

/-- Named parts between parentheses. -/
def fieldText (type : String) (ss : List (String × String)) : String :=
  type ++ "(" ++ commaText (ss.map fun f => f.1 ++ "=" ++ f.2) ++ ")"

/-- The text of a scalar inside another value. -/
def quoteScalar : Value → Except Fault String
  | .null => .ok "None"
  | .bool b => .ok (boolText b)
  | .int n => integerText n
  | .float x => .ok x.text
  | .decimal d => .ok ("Decimal('" ++ d.text ++ "')")
  | .text s => .ok (Text.quoted s)
  | .bytes bs => .ok (Text.quotedBytes bs)
  | .ref _ => .ok "None"

/-- The text of a node, given how the values in it are shown. -/
def quoteNode (gained : Entries) (show' : Value → Except Fault String) :
    Node → Except Fault String
  | .sequence .list xs => return bracketText (← xs.mapM show')
  | .sequence .tuple xs => return tupleText (← xs.mapM show')
  | .sequence .deque xs => return "deque(" ++ bracketText (← xs.mapM show') ++ ")"
  | .sequence (.named type fields) xs => return fieldText type (fields.zip (← xs.mapM show'))
  | .range a b 1 => return "range(" ++ commaText (← [a, b].mapM integerText) ++ ")"
  | .range a b c => return "range(" ++ commaText (← [a, b, c].mapM integerText) ++ ")"
  | .table .plain es => return braceText (← entryTexts es)
  | .table .ordered [] => return "OrderedDict()"
  | .table .ordered es =>
    return "OrderedDict(" ++ bracketText ((← entryTexts es).map fun e => tupleText [e.1, e.2]) ++ ")"
  | .table .wrapped es => return braceText (← entryTexts es)
  | .table .readOnly es => return "mappingproxy(" ++ braceText (← entryTexts es) ++ ")"
  | .table (.defaulting f _) es =>
    return "defaultdict(" ++ factoryText f ++ ", " ++ braceText (← entryTexts (es ++ gained)) ++ ")"
  | .chain vs => return "ChainMap(" ++ commaText (← vs.mapM show') ++ ")"
  | .struct type fields => do
    return fieldText type ((fields.map Prod.fst).zip (← fields.mapM fun f => show' f.2))
  | .structType type .. => return "<class 'types." ++ type ++ "'>"
  | .model type .. => return "<" ++ type ++ ">"
  | .set false [] => return "set()"
  | .set false xs => return "\x7b" ++ commaText (← xs.mapM show') ++ "\x7d"
  | .set true [] => return "frozenset()"
  | .set true xs => return "frozenset(\x7b" ++ commaText (← xs.mapM show') ++ "\x7d)"
  | .buffer bs => return "bytearray(" ++ Text.quotedBuffer bs ++ ")"
  | .object text _ => return text
  | .callable .. => return "<fn>"
where
  /-- The texts of keys and values. -/
  entryTexts (es : Entries) : Except Fault (List (String × String)) :=
    es.mapM fun e => do return (← show' e.1, ← show' e.2)

/-- The text of a value inside another one, where the places in `around` are those of the objects that
contain it. -/
def quoteTo (g : Graph) (m : Memory) : (depth : Nat) → (around : List Nat) → Value → Except Fault String
  | 0, _, _ => .error .stackExhausted
  | depth + 1, around, .ref i =>
    match g.nodes[i]? with
    | none => .ok "None"
    | some n =>
      match ellipsis? n with
      | some dots =>
        if around.contains i then .ok dots
        else quoteNode (m.gained i) (g.quoteTo m depth (i :: around)) n
      | none => quoteNode (m.gained i) (g.quoteTo m depth around) n
  | _ + 1, _, v => quoteScalar v

/-- The text of a value inside another one. -/
def quote (g : Graph) (m : Memory) (v : Value) : Except Fault String := g.quoteTo m displayDepth [] v

/-- The text of a value on its own. -/
def display (g : Graph) (m : Memory) (v : Value) : Except Fault String :=
  match v, g.node? v with
  | .text s, _ => .ok s
  | .decimal d, _ => .ok d.text
  | .ref i, some (.table .readOnly es) =>
    quoteNode [] (g.quoteTo m displayDepth [i]) (.table .plain es)
  | _, _ => g.quote m v

end Graph

end Stencil
