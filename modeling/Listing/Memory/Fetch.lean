import Listing.Memory.Sort
import Listing.Memory.Truth
import Listing.Plan.Basic

/-!
# Fetching a page from items in memory

The items that a plan's criteria definitely hold of are sorted and sliced; the count is taken before
slicing.  Items may be of any type that can be seen as values.
-/

namespace Listing

/-- A position in a list of some length: negative ones count from the end, and all are kept within
the list. -/
def slicePosition (length : Nat) (i : Int) : Nat :=
  if i < 0 then (i + length).toNat else min i.toNat length

/-- The part of a list from one position up to another, or to the end. -/
def sliceOf {α : Type} (start : Int) (stop : Option Int) (xs : List α) : List α :=
  let first := slicePosition xs.length start
  let last := match stop with
    | some i => slicePosition xs.length i
    | none => xs.length
  (xs.take last).drop first

namespace Selection

def slice {α : Type} (s : Selection) (xs : List α) : List α :=
  let start := s.offset.getD 0
  sliceOf start (s.limit.map (start + ·)) xs

end Selection

namespace Memory

variable {α : Type}

/-- The items that a condition definitely holds of. -/
def matching (r : Registry Operation) (view : α → Value) (c : Condition) :
    List α → Outcome (List α)
  | [] => pure []
  | x :: xs => do
    let holds ← c.holds r (view x)
    let rest ← matching r view c xs
    return if holds then x :: rest else rest

/-- Fetch a page of items, and count the items that meet the criteria. -/
def fetch (r : Registry Operation) (view : α → Value) (items : List α) (s : Selection) :
    Outcome (List α × Int) := do
  let found ← matching r view s.condition items
  let sorted ← sortByKeys view s.orderBy found
  return (s.slice sorted, (sorted.length : Int))

def executor (view : α → Value) (items : List α) (p : Plan) : Outcome (List α × Int) :=
  fetch registry view items p.toSelection

end Memory

end Listing
