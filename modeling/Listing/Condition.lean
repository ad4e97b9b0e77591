import Listing.Predicate
import Listing.Text.Lower

/-!
# Conditions: predicates in the form that executors read

A condition is a node with an operator text, an attribute, a value and members.  Nothing is promised
about it, as it may come from anywhere: the operator may be unknown, the attribute missing, a
comparison may have members, the members may be no sequence, and there may be no node at all.  What a
node does is decided by its operator text alone, written small.
-/

namespace Listing

/-- A node of a serialised predicate.  A missing operator is the empty text, a missing value is
nothing; a missing attribute is a fault once it is needed. -/
inductive Condition where
  | node (op : Value) (attr : Option Value) (value : Value) (members : List Condition)
  /-- A node whose members are no sequence, which only matters to a group. -/
  | unlisted (op : Value) (attr : Option Value) (value : Value)
  /-- What is no node. -/
  | foreign
  deriving Repr

namespace Condition

def leaf (c : Comparator) (column : String) (v : Value) : Condition :=
  .node (.text c.symbol) (some (.text column)) v []

def group (c : Comparator) (members : List Condition) : Condition :=
  .node (.text c.symbol) none .null members

/-- The operator text of a node, in small letters. -/
def name (op : Value) : Outcome String :=
  match op.asText? with
  | some s => pure (Text.lowerString s)
  | none => throw .notText

/-- The attribute of a node, which must be there and be a text. -/
def column (attr : Option Value) : Outcome String :=
  match attr with
  | none => throw .missingField
  | some v =>
    match v.asText? with
    | some s => pure s
    | none => throw .notText

end Condition

namespace Predicate

mutual

/-- The condition that a predicate is handed to executors as. -/
def toCondition : Predicate → Condition
  | test column c v => .leaf c column v.tupleToList
  | negation inner => .group .not [inner.toCondition]
  | all members => .group .and (toConditions members)
  | any members => .group .or (toConditions members)
termination_by structural p => p

def toConditions : List Predicate → List Condition
  | [] => []
  | p :: ps => p.toCondition :: toConditions ps
termination_by structural ps => ps

end

theorem toConditions_eq_map (ps : List Predicate) : toConditions ps = ps.map toCondition := by
  induction ps with
  | nil => rfl
  | cons p ps ih => rw [toConditions, ih, List.map_cons]

end Predicate

end Listing
