import Listing.Fault
import Listing.Registry
import Listing.Sql.Clause
import Listing.Value.Written

/-!
# Operations of the database

An operation makes a test of a column from the value of a condition, which is first cast to the kind
of the column.  Equality with nothing tests for absence, and equality with true or false compares
with the constant; nothing, true and false have no order.
-/

namespace Listing.Sql

/-- An operation with its comparator and the name it is listed under. -/
structure Operation where
  name : String
  comparator : Comparator
  /-- The test of a column against the value of a condition. -/
  test : Column → Value → Outcome (Test Value)

instance : Comparing Operation := ⟨Operation.comparator⟩

def equals (c : Column) (v : Value) : Outcome (Test Value) :=
  match c.cast v with
  | .null => pure (.null c false)
  | .bool b => pure (.flag c false b)
  | v => pure (.compare c .eq v)

def ordered (r : Relation) (c : Column) (v : Value) : Outcome (Test Value) :=
  match c.cast v with
  | .null => throw .unorderedOperand
  | .bool _ => throw .unorderedOperand
  | v => pure (.compare c r v)

def isIn (c : Column) (v : Value) : Outcome (Test Value) :=
  match v.elements? with
  | some vs => pure (.oneOf c false (vs.map c.cast))
  | none => throw .incompatible

def contains (c : Column) (v : Value) : Outcome (Test Value) :=
  pure (.like c false ("%" ++ v.shown ++ "%"))

/-- The operations that come with the library. -/
def builtins : List Operation := [
  ⟨"EqualOperator", .eq, equals⟩,
  ⟨"GreaterThanOperator", .gt, ordered .gt⟩,
  ⟨"GreaterEqualOperator", .ge, ordered .ge⟩,
  ⟨"LessThanOperator", .lt, ordered .lt⟩,
  ⟨"LessEqualOperator", .le, ordered .le⟩,
  ⟨"InOperator", .isIn, isIn⟩,
  ⟨"IsNullOperator", .isNull, fun c _ => pure (.null c false)⟩,
  ⟨"IContainsOperator", .contains, contains⟩]

def registry : Registry Operation := .ofList builtins

end Listing.Sql
