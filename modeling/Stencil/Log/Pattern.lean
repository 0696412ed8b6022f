import Stencil.Data.Lookup
import Stencil.Data.Display
import Stencil.Number.Fixed

/-!
# Format patterns

The message of a log record is a pattern with its arguments. Two percent signs stand for one. Otherwise a
percent sign begins a directive: an optional key in parentheses, flags, a width, a precision, and the
conversion, a letter that says how the argument is shown. `Pattern.parse` reads a pattern into literal text
and directives, and never fails: what is wrong with a directive is found out when it is its turn to be
filled, since the faults of a pattern come in the order of the text and the arguments.

The arguments are positional, or a single mapping, whose entries directives with a key refer to.
-/

namespace Stencil

/-- A width or a precision. -/
inductive Amount
  | absent
  /-- Given by the next argument. -/
  | fromArgument
  | given (n : Nat)
  deriving DecidableEq, Repr

/-- The key of a directive. -/
inductive DirectiveKey
  | absent
  | named (key : String)
  /-- A parenthesis that is never closed. -/
  | unfinished
  deriving DecidableEq, Repr

/-- The flags of a directive. -/
structure Flags where
  leftAligned : Bool
  signed : Bool
  spaced : Bool
  alternate : Bool
  zeroFilled : Bool
  deriving DecidableEq, Repr

/-- A directive. -/
structure Directive where
  key : DirectiveKey
  flags : Flags
  width : Amount
  precision : Amount
  /-- The letter of the conversion, unless the pattern ends before it. -/
  conversion : Option Char
  /-- The place of the conversion in the pattern. -/
  place : Nat
  deriving DecidableEq, Repr

/-- A part of a pattern. -/
inductive PatternPart
  | literal (c : Char)
  | directive (d : Directive)
  deriving DecidableEq, Repr

namespace Pattern

/-! ### Reading patterns -/

/-- The text up to the parenthesis that closes as many as are open, and the rest after it. -/
def spanKey : (deeper : Nat) → List Char → Option (List Char × List Char)
  | _, [] => none
  | n, c :: cs =>
    if c = ')' then
      match n with
      | 0 => some ([], cs)
      | n + 1 => (spanKey n cs).map fun r => (c :: r.1, r.2)
    else (spanKey (if c = '(' then n + 1 else n) cs).map fun r => (c :: r.1, r.2)

/-- The flags that a text begins with, added to those before. -/
def spanFlags (f : Flags) : List Char → Flags × List Char
  | '-' :: cs => spanFlags { f with leftAligned := true } cs
  | '+' :: cs => spanFlags { f with signed := true } cs
  | ' ' :: cs => spanFlags { f with spaced := true } cs
  | '#' :: cs => spanFlags { f with alternate := true } cs
  | '0' :: cs => spanFlags { f with zeroFilled := true } cs
  | cs => (f, cs)

/-- The number that a text begins with; without digits it is zero. -/
def spanNumber (cs : List Char) : Nat × List Char :=
  (Number.ofDigits ((cs.takeWhile Char.isDigit).map fun c => c.toNat - 48), cs.dropWhile Char.isDigit)

/-- The width that a text begins with. -/
def spanWidth : List Char → Amount × List Char
  | '*' :: cs => (.fromArgument, cs)
  | c :: cs =>
    if c.isDigit then
      let (n, rest) := spanNumber (c :: cs)
      (.given n, rest)
    else (.absent, c :: cs)
  | [] => (.absent, [])

/-- The precision that a text begins with, after a point. -/
def spanPrecision : List Char → Amount × List Char
  | '.' :: '*' :: cs => (.fromArgument, cs)
  | '.' :: cs =>
    let (n, rest) := spanNumber cs
    (.given n, rest)
  | cs => (.absent, cs)

/-- The text without a letter for the size of the argument, which has no meaning. -/
def skipSize : List Char → List Char
  | 'h' :: cs => cs
  | 'l' :: cs => cs
  | 'L' :: cs => cs
  | cs => cs

/-- The key that a text begins with, and the rest. -/
def spanDirectiveKey : List Char → DirectiveKey × List Char
  | '(' :: cs =>
    match spanKey 0 cs with
    | some (key, rest) => (.named (String.ofList key), rest)
    | none => (.unfinished, [])
  | cs => (.absent, cs)

/-- The directive that stands after a percent sign, and the rest of a pattern of the given length. -/
def spanDirective (length : Nat) (cs : List Char) : Directive × List Char :=
  let (key, cs) := spanDirectiveKey cs
  let (flags, cs) := spanFlags ⟨false, false, false, false, false⟩ cs
  let (width, cs) := spanWidth cs
  let (precision, cs) := spanPrecision cs
  match skipSize cs with
  | [] => (⟨key, flags, width, precision, none, length⟩, [])
  | c :: rest => (⟨key, flags, width, precision, some c, length - (rest.length + 1)⟩, rest)

/-- The parts of a pattern of the given length, of which `fuel` are read at most. -/
def parseTo (length : Nat) : (fuel : Nat) → List Char → List PatternPart
  | 0, _ => []
  | _ + 1, [] => []
  | fuel + 1, c :: cs =>
    if c = '%' then
      match cs with
      | '%' :: cs => .literal '%' :: parseTo length fuel cs
      | cs =>
        let (d, rest) := spanDirective length cs
        .directive d :: parseTo length fuel rest
    else .literal c :: parseTo length fuel cs

/-- The parts of a pattern. -/
def parse (pattern : String) : List PatternPart :=
  let cs := pattern.toList
  parseTo cs.length cs.length cs

/-! ### Showing arguments -/

/-- A fault about types. -/
def typeFault (s : String) : Fault := .pattern .type s

/-- A fault about values. -/
def valueFault (s : String) : Fault := .pattern .value s

/-- A fault about sizes. -/
def sizeFault (s : String) : Fault := .pattern .overflow s

/-- The text in which all characters beyond ASCII are shown by their number. -/
def asciiOnly (s : String) : String :=
  String.ofList (s.toList.flatMap fun c => if c.toNat < 128 then [c] else Text.numericEscape c.toNat)

/-- A float without its fraction. -/
def truncate : Number.Binary64 → Except Fault Int
  | .nan => .error (valueFault "cannot convert float NaN to integer")
  | .infinity _ => .error (sizeFault "cannot convert float infinity to integer")
  | .finite negative m e =>
    let q := Number.Binary64.magnitude m e
    .ok (if negative then -(q.1 / q.2 : Nat) else (q.1 / q.2 : Nat))

/-- A decimal without its fraction. -/
def truncateDecimal : Number.Decimal → Except Fault Int
  | .undefined .. => .error (valueFault "cannot convert NaN to integer")
  | .infinity _ => .error (sizeFault "cannot convert Infinity to integer")
  | .finite n =>
    let q := Number.scaleBy 10 n.exponent (n.coefficient, 1)
    .ok (if n.negative then -(q.1 / q.2 : Nat) else (q.1 / q.2 : Nat))

/-- The integer that an integer conversion shows. Other numbers lose their fraction, unless the
conversion asks for an integer. -/
def integerOf (g : Graph) (conversion : Char) (v : Value) : Except Fault Int :=
  let exact := conversion = 'o' || conversion = 'x' || conversion = 'X'
  let wrong := typeFault ("%" ++ String.singleton conversion ++ " format: " ++
    (if exact then "an integer" else "a real number") ++ " is required, not " ++ g.qualifiedTypeName v)
  match v with
  | .int n => .ok n
  | .bool b => .ok b.toNat
  | .float x => if exact then .error wrong else truncate x
  | .decimal d => if exact then .error wrong else truncateDecimal d
  | _ => .error wrong

/-- The float that a float conversion shows. -/
def floatOf (g : Graph) (v : Value) : Except Fault Number.Binary64 :=
  match v with
  | .float x => .ok x
  | .bool b => .ok (.ofInt b.toNat)
  | .int n =>
    match Number.Binary64.ofInt n with
    | .infinity _ => .error (sizeFault "int too large to convert to float")
    | x => .ok x
  | .decimal (.finite n) => .ok (.ofNumeral n)
  | .decimal (.infinity negative) => .ok (.infinity negative)
  | .decimal (.undefined _ false _) => .ok .nan
  | .decimal (.undefined _ true _) => .error (valueFault "cannot convert signaling NaN to float")
  | _ => .error (typeFault ("must be real number, not " ++ g.qualifiedTypeName v))

/-- A converted argument before it is aligned: a sign, what stands between the sign and the zeros that
fill up the width, and the rest. -/
structure Converted where
  numeric : Bool
  sign : String
  radix : String
  body : String
  deriving DecidableEq, Repr

/-- The sign of a number by the flags. -/
def signText (f : Flags) (negative : Bool) : String :=
  if negative then "-" else if f.signed then "+" else if f.spaced then " " else ""

/-- The digits of a number to the bases 8, 10 and 16. -/
def digitsOf (conversion : Char) (n : Nat) : Except Fault String :=
  match conversion with
  | 'o' => .ok (String.ofList (Nat.toDigits 8 n))
  | 'x' => .ok (String.ofList (Nat.toDigits 16 n))
  | 'X' => .ok (String.ofList ((Nat.toDigits 16 n).map Char.toUpper))
  | _ => Graph.integerText n

/-- An integer by an integer conversion. -/
def convertInteger (d : Directive) (conversion : Char) (precision : Option Nat) (n : Int) :
    Except Fault Converted := do
  let digits ← digitsOf conversion n.natAbs
  let radix := if d.flags.alternate && (conversion = 'o' || conversion = 'x' || conversion = 'X') then
    "0" ++ String.singleton conversion else ""
  let filled := Number.Binary64.zeros (precision.getD 0 - digits.length) ++ digits
  return ⟨true, signText d.flags (n < 0), radix, filled⟩

/-- A float by a float conversion. -/
def convertFloat (d : Directive) (conversion : Char) (precision : Option Nat) (x : Number.Binary64) :
    Converted :=
  let p := precision.getD 6
  let alternate := d.flags.alternate
  let (negative, body) := match x with
    | .nan => (false, "nan")
    | .infinity negative => (negative, "inf")
    | .finite negative m e =>
      let q := Number.Binary64.magnitude m e
      let body :=
        if conversion = 'f' || conversion = 'F' then Number.Binary64.fixed alternate q p
        else if conversion = 'e' || conversion = 'E' then Number.Binary64.exponential alternate q p
        else Number.Binary64.general alternate q p
      (negative, body)
  let body := if conversion.isUpper then String.ofList (body.toList.map Char.toUpper) else body
  ⟨true, signText d.flags negative, "", body⟩

/-- A character, given as a text of one character or by its code point. -/
def convertCharacter (v : Value) : Except Fault Converted :=
  match v with
  | .text s =>
    if s.length = 1 then .ok ⟨false, "", "", s⟩ else .error (typeFault "%c requires int or char")
  | .int n => ofCodePoint n
  | .bool b => ofCodePoint b.toNat
  | _ => .error (typeFault "%c requires int or char")
where
  /-- The character with a code point. -/
  ofCodePoint (n : Int) : Except Fault Converted :=
    if 0 ≤ n && n < 0x110000 then .ok ⟨false, "", "", String.singleton (Char.ofNat n.toNat)⟩
    else .error (sizeFault "%c arg not in range(0x110000)")

/-- Text cut off after as many characters as the precision says. -/
def convertText (precision : Option Nat) (s : String) : Converted :=
  ⟨false, "", "", match precision with
    | some p => (s.take p).toString
    | none => s⟩

/-- The message about a letter that is no conversion. -/
def unsupported (conversion : Char) (place : Nat) : Fault :=
  let shown := if 32 ≤ conversion.toNat && conversion.toNat < 127 then conversion else '?'
  valueFault ("unsupported format character '" ++ String.singleton shown ++ "' (0x" ++
    String.ofList (Nat.toDigits 16 conversion.toNat) ++ ") at index " ++ toString place)

/-- An argument by the conversion of a directive. -/
def convert (g : Graph) (m : Memory) (d : Directive) (conversion : Char) (precision : Option Nat)
    (v : Value) : Except Fault Converted :=
  if conversion = 's' then (g.display m v).map (convertText precision)
  else if conversion = 'r' then (g.quote m v).map (convertText precision)
  else if conversion = 'a' then (g.quote m v).map fun s => convertText precision (asciiOnly s)
  else if conversion = 'c' then convertCharacter v
  else if ['d', 'i', 'u', 'o', 'x', 'X'].contains conversion then do
    convertInteger d conversion precision (← integerOf g conversion v)
  else if ['e', 'E', 'f', 'F', 'g', 'G'].contains conversion then do
    return convertFloat d conversion precision (← floatOf g v)
  else .error (unsupported conversion d.place)

/-- A converted argument aligned to a width. -/
def align (f : Flags) (width : Nat) (c : Converted) : String :=
  let head := c.sign ++ c.radix
  let missing := width - (head.length + c.body.length)
  let blanks := String.ofList (List.replicate missing ' ')
  if f.leftAligned then head ++ c.body ++ blanks
  else if f.zeroFilled && c.numeric then head ++ Number.Binary64.zeros missing ++ c.body
  else blanks ++ head ++ c.body

/-! ### Filling patterns -/

/-- The arguments of a pattern. -/
inductive Arguments
  | positional (values : List Value)
  /-- A mapping, and whether it was not yet taken as an argument itself. -/
  | mapping (v : Value) (fresh : Bool)
  deriving DecidableEq, Repr

/-- The next argument, and the arguments after it. -/
def next : Arguments → Except Fault (Value × Arguments)
  | .positional (v :: vs) => .ok (v, .positional vs)
  | .mapping v true => .ok (v, .mapping v false)
  | _ => .error (typeFault "not enough arguments for format string")

/-- What is known of an amount by its role: its name, the bits that it may have with its sign, and how
such numbers are called. -/
structure AmountRole where
  name : String
  bits : Nat
  numbers : String
  deriving DecidableEq, Repr

/-- The role of widths. -/
def widthRole : AmountRole := ⟨"width", 64, "C ssize_t"⟩

/-- The role of precisions. -/
def precisionRole : AmountRole := ⟨"precision", 32, "C int"⟩

namespace AmountRole

/-- Whether a number is small enough for the role. -/
def fits (r : AmountRole) (n : Int) : Bool :=
  let limit : Int := Nat.pow 2 (r.bits - 1)
  0 ≤ n + limit && n < limit

end AmountRole

/-- The value of a width or precision, and the arguments after it. -/
def amount (r : AmountRole) (a : Amount) (args : Arguments) : Except Fault (Option Int × Arguments) :=
  match a with
  | .absent => .ok (none, args)
  | .given n => if r.fits n then .ok (some n, args) else .error (valueFault (r.name ++ " too big"))
  | .fromArgument => do
    let (v, args) ← next args
    let n ← number v
    if r.fits n then return (some n, args)
    else throw (sizeFault ("Python int too large to convert to " ++ r.numbers))
where
  /-- The integer that an amount is given by. -/
  number : Value → Except Fault Int
    | .int n => .ok n
    | .bool b => .ok b.toNat
    | _ => .error (typeFault "* wants int")

/-- The value under the key of a directive. -/
def keyed (g : Graph) (mapping : Value) (key : String) : Run Value := do
  match g.mapping? (← Run.memory) mapping with
  | some (.layered ls) =>
    match ls.any fun l => (g.find? (.text key) l.entries).isSome || l.fallback.isSome with
    | true => g.answer (.text key) ls
    | false => Run.fail (.noKey (Text.quoted key))
  | some (.single es) =>
    match g.find? (.text key) es, g.layers (← Run.memory) 1 mapping with
    | some v, _ => return v
    | none, ls@(⟨_, some _⟩ :: _) => g.answer (.text key) ls
    | none, _ => Run.fail (.noKey (Text.quoted key))
  | none => Run.fail (.noKey (Text.quoted key))

/-- The argument list that a directive takes its own arguments from: what is under its key, or all. -/
def selected (g : Graph) (d : Directive) (args : Arguments) : Run (Arguments × Option Value) := do
  match d.key, args with
  | .absent, .mapping v fresh => return (.mapping v fresh, some v)
  | .absent, _ => return (args, none)
  | _, .positional _ => Run.fail (typeFault "format requires a mapping")
  | .unfinished, _ => Run.fail (valueFault "incomplete format key")
  | .named key, .mapping v _ => return (.positional [← keyed g v key], some v)

/-- Fill a directive: its text, and the arguments after it. Once a key was used, nothing but keys can
refer to the mapping. -/
def fillDirective (g : Graph) (d : Directive) (args : Arguments) : Run (String × Arguments) := do
  let (own, mapping?) ← selected g d args
  let (width, own) ← Run.ofExcept (amount widthRole d.width own)
  let (precision, own) ← Run.ofExcept (amount precisionRole d.precision own)
  let after (own : Arguments) : Arguments := match d.key, mapping? with
    | .absent, _ => own
    | _, some v => .mapping v false
    | _, none => own
  match d.conversion with
  | none => Run.fail (valueFault "incomplete format")
  | some c =>
    let (v, own) ← Run.ofExcept (next own)
    let flags := if width.getD 0 < 0 then { d.flags with leftAligned := true } else d.flags
    let d := { d with flags := flags }
    let converted ← Run.ofExcept
      (convert g (← Run.memory) d c (precision.map fun p => if p < 0 then 0 else p.toNat) v)
    return (align flags (width.getD 0).natAbs converted, after own)

/-- Fill the parts of a pattern one after the other. -/
def fillParts (g : Graph) : List PatternPart → Arguments → Run String
  | [], .positional (_ :: _) =>
    Run.fail (typeFault "not all arguments converted during string formatting")
  | [], _ => return ""
  | .literal c :: ps, args => do
    let rest ← fillParts g ps args
    return String.singleton c ++ rest
  | .directive d :: ps, args => do
    let (s, args) ← fillDirective g d args
    let rest ← fillParts g ps args
    return s ++ rest

/-- Fill a pattern with arguments. -/
def fill (g : Graph) (pattern : String) (args : Arguments) : Run String := fillParts g (parse pattern) args

end Pattern

end Stencil
