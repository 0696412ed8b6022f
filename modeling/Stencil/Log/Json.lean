import Stencil.Data.Display

/-!
# JSON documents

A JSON document is a tree, and its text is printed without spaces and in ASCII alone: characters beyond
are written by the number of each of their UTF-16 units.

Data becomes a document where it can. Lists, tuples and tables become arrays and objects, of which
the keys have to be text, numbers, truth values or null; whatever JSON has no counterpart for becomes
its text. A value that contains itself has no document.
-/

namespace Stencil

/-- A JSON document. Numbers are kept as their text. -/
inductive JsonTree
  | null
  | bool (b : Bool)
  | number (text : String)
  | string (s : String)
  | array (items : List JsonTree)
  | object (fields : List (String × JsonTree))

namespace JsonTree

/-! ### Text -/

/-- A UTF-16 unit by its number. -/
def unitEscape (n : Nat) : List Char := '\\' :: 'u' :: Text.hexDigits 4 n

/-- How a character is written between the quotes. -/
def escapeChar (c : Char) : List Char :=
  if c = '"' || c = '\\' then ['\\', c]
  else if c = '\n' then ['\\', 'n']
  else if c = '\r' then ['\\', 'r']
  else if c = '\t' then ['\\', 't']
  else if c = '\x0c' then ['\\', 'f']
  else if c = '\x08' then ['\\', 'b']
  else if 32 ≤ c.toNat && c.toNat < 127 then [c]
  else if c.toNat < 0x10000 then unitEscape c.toNat
  else
    let n := c.toNat - 0x10000
    unitEscape (0xD800 + n / 0x400) ++ unitEscape (0xDC00 + n % 0x400)

/-- A text between quotes. -/
def quoteChars (s : String) : List Char := '"' :: (s.toList.flatMap escapeChar ++ ['"'])

mutual

/-- The text of a document. -/
def print : JsonTree → List Char
  | .null => ['n', 'u', 'l', 'l']
  | .bool true => ['t', 'r', 'u', 'e']
  | .bool false => ['f', 'a', 'l', 's', 'e']
  | .number t => t.toList
  | .string s => quoteChars s
  | .array xs => '[' :: (printItems true xs ++ [']'])
  | .object fs => '{' :: (printFields true fs ++ ['}'])
termination_by structural x => x

/-- The items of an array, each but the first after a comma. -/
def printItems (isFirst : Bool) : List JsonTree → List Char
  | [] => []
  | x :: xs => (if isFirst then [] else [',']) ++ (x.print ++ printItems false xs)
termination_by structural x => x

/-- The fields of an object, each but the first after a comma. -/
def printFields (isFirst : Bool) : List (String × JsonTree) → List Char
  | [] => []
  | f :: fs => (if isFirst then [] else [',']) ++ (printField f ++ printFields false fs)
termination_by structural x => x

/-- A field of an object. -/
def printField : String × JsonTree → List Char
  | (k, v) => quoteChars k ++ (':' :: v.print)
termination_by structural x => x

end

/-- The text of a document. -/
def text (j : JsonTree) : String := String.ofList j.print

/-- The value of a field, if the document is an object that has it. -/
def field? (j : JsonTree) (name : String) : Option JsonTree :=
  match j with
  | .object fields => fields.lookup name
  | _ => none

end JsonTree

/-! ### Documents of data -/

namespace Graph

/-- A floating point number in JSON. -/
def jsonFloat (x : Number.Binary64) : String :=
  match x with
  | .nan => "NaN"
  | .infinity false => "Infinity"
  | .infinity true => "-Infinity"
  | _ => x.text

/-- The key of an object that a key of a table becomes. -/
def jsonKey (g : Graph) (key : Value) : Except Fault String :=
  match key with
  | .text s => .ok s
  | .float x => .ok (jsonFloat x)
  | .bool b => .ok (if b then "true" else "false")
  | .null => .ok "null"
  | .int n => integerText n
  | _ => .error (.badJsonKey (g.qualifiedTypeName key))

/-- The entries of the tables that become objects; other mappings become text. -/
def jsonEntries? (m : Memory) (place : Nat) : Node → Option Entries
  | .table .plain es => some es
  | .table .ordered es => some es
  | .table (.defaulting ..) es => some (es ++ m.gained place)
  | _ => none

/-- The items of the sequences that become arrays; other sequences become text. -/
def jsonItems? : Node → Option (List Value)
  | .sequence .list xs => some xs
  | .sequence .tuple xs => some xs
  | .sequence (.named ..) xs => some xs
  | _ => none

/-- The document of a value, where the places in `around` are those of the objects that contain it. -/
def jsonTo (g : Graph) (m : Memory) : (depth : Nat) → (around : List Nat) → Value → Except Fault JsonTree
  | 0, _, _ => .error .stackExhausted
  | _ + 1, _, .null => .ok .null
  | _ + 1, _, .bool b => .ok (.bool b)
  | _ + 1, _, .int n => (integerText n).map .number
  | _ + 1, _, .float x => .ok (.number (jsonFloat x))
  | _ + 1, _, .text s => .ok (.string s)
  | depth + 1, around, v =>
    match v, g.node? v with
    | .ref i, some n =>
      match jsonItems? n, jsonEntries? m i n with
      | some xs, _ => do
        if around.contains i then throw .circular
        return .array (← xs.mapM (g.jsonTo m depth (i :: around)))
      | none, some es => do
        if around.contains i then throw .circular
        return .object (← es.mapM fun e => do
          let k ← g.jsonKey e.1
          return (k, ← g.jsonTo m depth (i :: around) e.2))
      | none, none => (g.display m v).map .string
    | _, _ => (g.display m v).map .string

/-- The document of a value. -/
def json (g : Graph) (m : Memory) (v : Value) : Except Fault JsonTree := g.jsonTo m displayDepth [] v

end Graph

end Stencil
