import Listing.Registry
import Listing.Text.Lower
import Listing.Value.Cast
import Listing.Value.Equal
import Listing.Value.Written

/-!
# Operations on values in memory

An operation tests the value of a field against the value of a condition.  A text in the condition
is first cast to the kind of the field.  The order comparisons are false on a missing field and on
values that are not made to be compared; other faults, such as ordering a decimal that is not a
number, are passed on.  A search looks at texts, which a whole number of too many digits has none of.
-/

namespace Listing.Memory

/-- An operation with its comparator and the name it is listed under. -/
structure Operation where
  name : String
  comparator : Comparator
  /-- Whether a field's value passes against the value of a condition. -/
  test : Value → Value → Outcome Bool

instance : Comparing Operation := ⟨Operation.comparator⟩

def equals (field v : Value) : Outcome Bool := field.equal (v.castLike field)

def ordered (accepted : Ordering → Bool) (field v : Value) : Outcome Bool :=
  if field.isNull then pure false
  else
    match field.order? (v.castLike field) with
    | .ok (some o) => pure (accepted o)
    | .ok none => pure false
    | .error .incompatible => pure false
    | .error fault => throw fault

/-- Whether a field equals one of some values, which are looked at up to the first equal one. -/
def equalsOne (field : Value) : List Value → Outcome Bool
  | [] => pure false
  | v :: vs => do
    if ← equals field v then pure true else equalsOne field vs

def isIn (field v : Value) : Outcome Bool :=
  match v.elements? with
  | some vs => equalsOne field vs
  | none => throw .incompatible

/-- The plain text of a value that can be written. -/
def spell (v : Value) : Outcome String :=
  if v.isWritable then pure v.shown else throw .tooManyDigits

/-- Whether the text of a condition's value occurs in the text of a field, in small letters. -/
def contains (field v : Value) : Outcome Bool := do
  if field.isNull then return false
  let term ← spell v
  let text ← spell field
  return Text.occursIn (Text.lower term.toList) (Text.lower text.toList)

/-- The operations that come with the library. -/
def builtins : List Operation := [
  ⟨"EqualOperator", .eq, equals⟩,
  ⟨"GreaterThanOperator", .gt, ordered (· == .gt)⟩,
  ⟨"GreaterEqualOperator", .ge, ordered (· != .lt)⟩,
  ⟨"LessThanOperator", .lt, ordered (· == .lt)⟩,
  ⟨"LessEqualOperator", .le, ordered (· != .gt)⟩,
  ⟨"InOperator", .isIn, isIn⟩,
  ⟨"IsNullOperator", .isNull, fun field _ => pure field.isNull⟩,
  ⟨"IContainsOperator", .contains, contains⟩]

/-- The registry with every operation that comes with the library. -/
def registry : Registry Operation := .ofList builtins

/-- Carry out the operation of a comparator. -/
def evaluate (r : Registry Operation) (c : Comparator) (field v : Value) : Outcome Bool :=
  match r.find? c with
  | some o => o.test field v
  | none => throw (.unregistered c)

end Listing.Memory
