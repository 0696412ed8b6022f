import Stencil.Data.Value

/-!
# Keys

When two values are the same key of a table. Numbers of all kinds are compared by their exact size, so
that `1`, `1.0` and `True` are one key; tuples and frozen sets by what they contain; ranges by the
integers they stand for; all other objects by their place.

Entries keep the order in which their keys first came. Putting a value under a key that is there
replaces the value and keeps the key.
-/

namespace Stencil

open Number

/-- The size of a number that is neither infinite nor undefined: its sign and a quotient. -/
def Value.quotient? : Value → Option (Bool × Nat × Nat)
  | .bool b => some (false, b.toNat, 1)
  | .int n => some (n < 0, n.natAbs, 1)
  | .float (.finite negative m e) => some (negative, Binary64.magnitude m e)
  | .decimal (.finite n) => some (n.negative, scaleBy 10 n.exponent (n.coefficient, 1))
  | _ => none

/-- The sign of an infinity, where minus is `true`. -/
def Value.infinite? : Value → Option Bool
  | .float (.infinity negative) => some negative
  | .decimal (.infinity negative) => some negative
  | _ => none

/-- Whether two numbers, given by sign and quotient, are equal. -/
def equalQuotients (a b : Bool × Nat × Nat) : Bool :=
  a.2.1 * b.2.2 == b.2.1 * a.2.2 && (a.1 == b.1 || a.2.1 == 0)

/-- Whether two scalars are equal. -/
def Value.sameScalar (a b : Value) : Bool :=
  match a.quotient?, b.quotient? with
  | some p, some q => equalQuotients p q
  | some _, none => false
  | none, some _ => false
  | none, none =>
    match a.infinite?, b.infinite? with
    | some p, some q => p == q
    | _, _ =>
      match a with
      | .float .nan => false
      | .decimal (.undefined ..) => false
      | _ => a == b

namespace Graph

/-- The number of integers in a range; there are none if the step is zero. -/
def rangeSize (start stop step : Int) : Nat :=
  if 0 < step then ((stop - start + (step - 1)) / step).toNat
  else if step < 0 then ((start - stop + (-step - 1)) / -step).toNat
  else 0

/-- Whether two ranges stand for the same integers. -/
def sameRange (start stop step start' stop' step' : Int) : Bool :=
  let n := rangeSize start stop step
  n == rangeSize start' stop' step' && (n == 0 || (start == start' && (n == 1 || step == step')))

/-- The number of levels to which keys are compared. -/
def keyDepth : Nat := 1000

/-- Whether two values are the same key, looking into tuples and frozen sets for `depth` levels. -/
def sameKeyTo (g : Graph) : (depth : Nat) → Value → Value → Bool
  | 0, a, b => a == b
  | depth + 1, .ref i, .ref j =>
    i == j ||
      match g.nodes[i]?, g.nodes[j]? with
      | some (.sequence k xs), some (.sequence l ys) =>
        isTuple k && isTuple l && xs.length == ys.length &&
          (xs.zip ys).all fun p => g.sameKeyTo depth p.1 p.2
      | some (.set true xs), some (.set true ys) =>
        xs.length == ys.length && xs.all fun x => ys.any fun y => g.sameKeyTo depth x y
      | some (.range a b c), some (.range a' b' c') => sameRange a b c a' b' c'
      | _, _ => false
  | _ + 1, a, b => a.sameScalar b
where
  /-- Whether sequences of the kind can be keys. -/
  isTuple : SequenceKind → Bool
    | .tuple => true
    | .named .. => true
    | _ => false

/-- Whether two values are the same key. -/
def sameKey (g : Graph) (a b : Value) : Bool := g.sameKeyTo keyDepth a b

/-- The value under a key. -/
def find? (g : Graph) (key : Value) : Entries → Option Value
  | [] => none
  | (k, v) :: es => if g.sameKey k key then some v else g.find? key es

/-- The entries with a value put under a key. -/
def put (g : Graph) (es : Entries) (key value : Value) : Entries :=
  match es with
  | [] => [(key, value)]
  | (k, v) :: es => if g.sameKey k key then (k, value) :: es else (k, v) :: g.put es key value

/-- The entries `es` with those of `more` put over them. -/
def putAll (g : Graph) (es more : Entries) : Entries := more.foldl (fun es e => g.put es e.1 e.2) es

/-- The entries without a key. -/
def erase (g : Graph) (es : Entries) (key : Value) : Entries :=
  es.filter fun e => !g.sameKey e.1 key

/-- The part of a value that cannot be a key, if there is one. -/
def unhashablePart? (g : Graph) : (depth : Nat) → Value → Option Value
  | 0, _ => none
  | depth + 1, .ref i =>
    match g.nodes[i]? with
    | some (.sequence .tuple xs) => xs.findSome? (g.unhashablePart? depth)
    | some (.sequence (.named ..) xs) => xs.findSome? (g.unhashablePart? depth)
    | some (.sequence ..) => some (.ref i)
    | some (.table ..) => some (.ref i)
    | some (.chain _) => some (.ref i)
    | some (.struct ..) => some (.ref i)
    | some (.set false _) => some (.ref i)
    | some (.buffer _) => some (.ref i)
    | _ => none
  | _ + 1, _ => none

end Graph

end Stencil
