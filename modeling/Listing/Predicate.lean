import Listing.Value.Written
import Listing.Fault

/-!
# Predicates

A predicate says which items are wanted.  It compares one column with a value, negates a predicate,
or groups predicates of which all or any must hold.  It is data only: executors interpret it through
its serialised form, which `Predicate.toValue` gives as a map.
-/

namespace Listing

/-- A condition on items, by column. -/
inductive Predicate where
  /-- One comparison of one column. -/
  | test (column : String) (comparator : Comparator) (value : Value)
  /-- The negation of a predicate. -/
  | negation (inner : Predicate)
  /-- A group of which all members must hold. -/
  | all (members : List Predicate)
  /-- A group of which one member must hold. -/
  | any (members : List Predicate)
  deriving Repr

namespace Predicate

/-- A test by the symbol of its comparator. -/
def ofSymbol (column symbol : String) (value : Value) : Outcome Predicate :=
  match Comparator.ofSymbol? symbol with
  | some c => pure (test column c value)
  | none => throw (.unknownComparator symbol)

def both (p q : Predicate) : Predicate := all [p, q]

def either (p q : Predicate) : Predicate := any [p, q]

/-- The column of a test; a negation has the column of what it negates, a group has none. -/
def column? : Predicate → Option String
  | test column _ _ => some column
  | negation inner => inner.column?
  | all _ => none
  | any _ => none

def kindName : Predicate → String
  | test .. => "ColumnPredicate"
  | negation _ => "NotPredicate"
  | all _ => "AndGroup"
  | any _ => "OrGroup"

/-- The entries of a serialised group. -/
def groupValue (c : Comparator) (members : List Value) : Value :=
  .map [(.text "op", .text c.symbol), (.text "conditions", .list members)]

mutual

/-- The serialised form of a predicate. -/
def toValue : Predicate → Value
  | test column c v =>
    .map [(.text "op", .text c.symbol), (.text "attr", .text column),
      (.text "val", v.tupleToList)]
  | negation inner => groupValue .not [inner.toValue]
  | all members => groupValue .and (toValues members)
  | any members => groupValue .or (toValues members)
termination_by structural p => p

def toValues : List Predicate → List Value
  | [] => []
  | p :: ps => p.toValue :: toValues ps
termination_by structural ps => ps

end

def written (p : Predicate) : String := p.kindName ++ "(" ++ p.toValue.written ++ ")"

/-- The text that equal fingerprints of predicates come from. -/
def fingerprint (p : Predicate) : String := p.toValue.written

end Predicate

end Listing
