import Listing.Condition
import Listing.Memory.Operation
import Listing.Truth
import Listing.Value.Path

/-!
# The truth of a condition on an item

A condition is evaluated in three-valued logic: a comparison of a missing field is unknown, a test
for absence is always definite.  Every member of a group is evaluated, also when the group is
already decided, so a fault anywhere in a condition is a fault of the condition.
-/

namespace Listing.Condition

/-- The truth of a comparison of a field. -/
def leafTruth (r : Registry Memory.Operation) (item : Value) (c : Comparator)
    (attr : Option Value) (v : Value) : Outcome Truth := do
  let path ← column attr
  let field := item.field path
  if field.isNull && c != .isNull then return .unknown
  return .ofBool (← Memory.evaluate r c field v)

mutual

/-- The truth of a condition on an item. -/
def truth (r : Registry Memory.Operation) (item : Value) : Condition → Outcome Truth
  | .node op attr v members => do
    let s ← name op
    match Comparator.ofSymbol? s with
    | some .and => return .all (← truths r item members)
    | some .or => return .any (← truths r item members)
    | some .not => return (Truth.all (← truths r item members)).not
    | some c => leafTruth r item c attr v
    | none => throw (.unknownComparator s)
  | .unlisted op attr v => do
    let s ← name op
    match Comparator.ofSymbol? s with
    | some .and | some .or | some .not => throw .incompatible
    | some c => leafTruth r item c attr v
    | none => throw (.unknownComparator s)
  | .foreign => throw .notNode
termination_by structural c => c

def truths (r : Registry Memory.Operation) (item : Value) : List Condition → Outcome (List Truth)
  | [] => pure []
  | c :: cs => do
    let t ← truth r item c
    let ts ← truths r item cs
    return t :: ts
termination_by structural cs => cs

end

/-- Whether a condition definitely holds of an item. -/
def holds (r : Registry Memory.Operation) (c : Condition) (item : Value) : Outcome Bool :=
  return (← c.truth r item).holds

end Listing.Condition
