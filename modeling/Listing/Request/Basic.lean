import Listing.Filter.Basic

/-!
# Requests for a page

A request holds what a client asked for, as it was sent.  Columns, directions and operators are
checked later against what the listing allows.
-/

namespace Listing

/-- A column to sort by, and the direction as it was sent. -/
structure SortKey where
  column : String
  direction : String
  deriving DecidableEq, Repr

/-- What a client asks for. -/
structure Request where
  path : String
  page : Option Int
  limit : Option Int
  sortBy : Option (List SortKey)
  search : Option String
  searchBy : Option (List String)
  filter : Option Filter
  deriving Repr

/-- A list that is there only when it has members. -/
def nonempty? {α : Type} : List α → Option (List α)
  | [] => none
  | xs => some xs

end Listing
