import Listing.Filter.Basic
import Listing.Predicate
import Listing.Request.Basic

/-!
# What a listing allows

A configuration is made once for a listing: the columns that may be sorted by, searched and filtered
on, the page sizes, and base criteria that every answer is confined to.
-/

namespace Listing

/-- What a listing allows. -/
structure Config where
  /-- The columns that may be sorted by. -/
  sortable : List String
  /-- The columns that are searched. -/
  searchable : Option (List String)
  /-- The largest page size. -/
  maxLimit : Int
  /-- The order used when a request asks for none that is allowed. -/
  defaultSort : Option (List SortKey)
  /-- The page size used when a request asks for none. -/
  defaultLimit : Int
  /-- Base criteria that every item in an answer meets. -/
  criteria : Option Predicate
  /-- The columns that may be filtered on. -/
  filterable : Whitelist
  maxLimit_pos : 0 < maxLimit
  defaultLimit_pos : 0 < defaultLimit

namespace Config

def standardMaxLimit : Int := 100

theorem standardMaxLimit_pos : 0 < standardMaxLimit := by decide

def standardLimit : Int := 20

theorem standardLimit_pos : 0 < standardLimit := by decide

end Config

end Listing
