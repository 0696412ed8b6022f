import Stencil.Data.Value
import Stencil.Text.Quoted

/-!
# Faults

What can go wrong while values are looked up, printed, called, or put into a table. A fault is its
cause; `Fault.kind` sorts the causes by the kinds that handlers tell apart, and `Fault.message` is the
one place where causes are put into words.
-/

namespace Stencil

/-- A failure, by its cause. -/
inductive Fault
  /-- Raised by the data itself: by a callable, or by a truth test. -/
  | raised (kind : FaultKind) (text : String)
  /-- A value of the type has no attribute of the name. -/
  | noAttribute (type name : String)
  /-- A type that is used as a value has no attribute of the name. -/
  | noTypeAttribute (type name : String)
  /-- An integer with more digits than a numeral may have. -/
  | tooManyDigits
  /-- A sequence with more elements than a size can count. -/
  | tooManyElements
  /-- More levels of nesting than the stack has room for. -/
  | stackExhausted
  | notIterable (type : String)
  | notCallable (type : String)
  | unhashable (type : String)
  /-- An element that should be a pair is not a sequence at all. -/
  | elementNotSequence (place : Nat)
  /-- An element that should be a pair has another length. -/
  | elementNotPair (place length : Nat)
  /-- A key, given by its text, that a table lacks. -/
  | noKey (key : String)
  /-- The end of an iteration, by what is raised inside it. -/
  | iterationStopped
  /-- A log level that is neither a number nor a name. -/
  | badLevel (text : String)
  /-- An extra attribute of a log record that has the name of a field of the record. -/
  | fieldOverwritten (name : String)
  /-- A time without a calendar year of four digits. -/
  | yearOutOfRange (year : Int)
  /-- A time too far away for the clock. -/
  | timeOverflow
  /-- A time whose year does not fit the calendar's own arithmetic. -/
  | calendarOverflow
  | timeUndefined
  /-- A key of a type that cannot be the key of a JSON object. -/
  | badJsonKey (type : String)
  /-- A value that contains itself where only finite values can be written. -/
  | circular
  /-- A format pattern and its arguments do not fit. -/
  | pattern (kind : FaultKind) (text : String)
  /-- The arguments of a call do not fit its parameters. -/
  | arguments (text : String)
  /-- A part of a line, by its place among the parts, that is no text but of the given type. -/
  | partNotText (place : Nat) (type : String)
  deriving DecidableEq, Repr, Inhabited

namespace Fault

/-- The kind of a fault. -/
def kind : Fault → FaultKind
  | raised k _ => k
  | noAttribute .. => .attribute
  | noTypeAttribute .. => .attribute
  | tooManyDigits => .value
  | tooManyElements => .overflow
  | stackExhausted => .recursion
  | notIterable _ => .type
  | notCallable _ => .type
  | unhashable _ => .type
  | elementNotSequence _ => .type
  | elementNotPair .. => .value
  | noKey _ => .key
  | iterationStopped => .runtime
  | badLevel _ => .type
  | fieldOverwritten _ => .key
  | yearOutOfRange _ => .value
  | timeOverflow => .overflow
  | calendarOverflow => .system
  | timeUndefined => .value
  | badJsonKey _ => .type
  | circular => .value
  | pattern k _ => k
  | arguments _ => .type
  | partNotText .. => .type

/-- The message of a fault. A fault of the kind `key` shows its text quoted. -/
def message : Fault → String
  | raised .key t => Text.quoted t
  | raised _ t => t
  | noAttribute type name => "'" ++ type ++ "' object has no attribute '" ++ name ++ "'"
  | noTypeAttribute type name => "type object '" ++ type ++ "' has no attribute '" ++ name ++ "'"
  | tooManyDigits => "Exceeds the limit (4300 digits) for integer string conversion; " ++
      "use sys.set_int_max_str_digits() to increase the limit"
  | tooManyElements => "Python int too large to convert to C ssize_t"
  | stackExhausted => "maximum recursion depth exceeded"
  | notIterable type => "'" ++ type ++ "' object is not iterable"
  | notCallable type => "'" ++ type ++ "' object is not callable"
  | unhashable type => "unhashable type: '" ++ type ++ "'"
  | elementNotSequence n =>
    "cannot convert dictionary update sequence element #" ++ toString n ++ " to a sequence"
  | elementNotPair n length =>
    "dictionary update sequence element #" ++ toString n ++ " has length " ++ toString length ++
      "; 2 is required"
  | noKey key => key
  | iterationStopped => "generator raised StopIteration"
  | badLevel text => "Level not an integer or a valid string: " ++ text
  | fieldOverwritten name =>
    Text.quoted ("Attempt to overwrite " ++ Text.quoted name ++ " in LogRecord")
  | yearOutOfRange year => "year " ++ toString year ++ " is out of range"
  | timeOverflow => "timestamp out of range for platform time_t"
  | calendarOverflow => "[Errno 75] Value too large for defined data type"
  | timeUndefined => "Invalid value NaN (not a number)"
  | badJsonKey type => "keys must be str, int, float, bool or None, not " ++ type
  | circular => "Circular reference detected"
  | pattern .key t => Text.quoted t
  | pattern _ t => t
  | arguments t => t
  | partNotText place type =>
    "sequence item " ++ toString place ++ ": expected str instance, " ++ type ++ " found"

/-- What becomes of a fault that leaves an iteration. One of the kind that ends iterations must not be taken for the end
of this one, so that another fault takes its place. -/
def outOfIteration (f : Fault) : Fault := if f.kind = .stop then .iterationStopped else f

theorem outOfIteration_of_kind_eq {f : Fault} (h : f.kind = .stop) : f.outOfIteration = .iterationStopped := if_pos h

theorem outOfIteration_of_kind_ne {f : Fault} (h : f.kind ≠ .stop) : f.outOfIteration = f := if_neg h

theorem kind_outOfIteration_ne (f : Fault) : f.outOfIteration.kind ≠ .stop := by
  by_cases h : f.kind = .stop
  · rw [outOfIteration_of_kind_eq h]
    exact nofun
  · rwa [outOfIteration_of_kind_ne h]

/-- Leaving one more iteration changes nothing. -/
@[simp] theorem outOfIteration_outOfIteration (f : Fault) : f.outOfIteration.outOfIteration = f.outOfIteration :=
  outOfIteration_of_kind_ne f.kind_outOfIteration_ne

/-- An iteration makes no overflow of the stack of another fault, nor another fault of one. -/
@[simp] theorem kind_outOfIteration_eq_recursion {f : Fault} :
    f.outOfIteration.kind = .recursion ↔ f.kind = .recursion := by
  by_cases h : f.kind = .stop
  · rw [outOfIteration_of_kind_eq h, h]
    exact ⟨nofun, nofun⟩
  · rw [outOfIteration_of_kind_ne h]

end Fault

end Stencil
