import Listing.Request.Basic
import Listing.Value.Equal
import Listing.Value.Path

/-!
# Sorting items in memory

Items are sorted by one key after the other, from the last key to the first.  Each pass is stable,
so the first key decides and later ones break its ties.  A missing value comes before every value in
ascending order.  Descending order keeps equal items in the order they had.
-/

namespace Listing.Memory

variable {α : Type}

/-- Whether a value comes strictly before another in ascending order. -/
def precedes (a b : Value) : Outcome Bool :=
  match a.isNull, b.isNull with
  | true, nothing => pure !nothing
  | false, true => pure false
  | false, false => do
    if ← a.equal b then pure false else return (← a.order? b) == some .lt

/-- Put an item into a sorted list, behind the items it does not come before. -/
def insert (before : α → α → Outcome Bool) (x : α) : List α → Outcome (List α)
  | [] => pure [x]
  | y :: ys => do
    if ← before x y then pure (x :: y :: ys) else return y :: (← insert before x ys)

/-- Sort a list; items of which neither comes before the other keep their order. -/
def sortWith (before : α → α → Outcome Bool) (xs : List α) : Outcome (List α) :=
  xs.foldlM (fun sorted x => insert before x sorted) []

/-- Sort items by a key.  Only the direction `DESC` sorts downwards. -/
def sortByKey (view : α → Value) (key : SortKey) (xs : List α) : Outcome (List α) :=
  let before (x y : α) : Outcome Bool :=
    precedes ((view x).field key.column) ((view y).field key.column)
  if key.direction == "DESC" then return (← sortWith before xs.reverse).reverse
  else sortWith before xs

/-- Sort items by several keys, of which the first decides. -/
def sortByKeys (view : α → Value) : List SortKey → List α → Outcome (List α)
  | [], xs => pure xs
  | key :: keys, xs => do sortByKey view key (← sortByKeys view keys xs)

end Listing.Memory
