import Listing.Config
import Listing.Filter.Compile
import Listing.Plan.Basic

/-!
# From a request to a plan

A request is resolved against what a listing allows: page and page size, sort keys and search
columns.  What is not allowed is dropped.  The base criteria, the search and the filters then become
one group each, so that the alternatives of a search stay among themselves.
-/

namespace Listing

def SortKey.directions : List String := ["ASC", "DESC"]

def SortKey.isAllowed (sortable : List String) (k : SortKey) : Bool :=
  sortable.contains k.column && directions.contains k.direction

/-- The search of a term: it must occur in one of the columns. -/
def searchPredicate (term : String) (columns : List String) : Predicate :=
  .any (columns.map fun column => .test column .contains (.text term))

namespace Config

/-- The order used when no requested key is allowed. -/
def fallbackSort (c : Config) (first : String) : List SortKey :=
  match c.defaultSort.bind nonempty? with
  | some keys => keys
  | none => [⟨first, "ASC"⟩]

/-- The requested sort keys that are allowed, or the fallback when there are none. -/
def resolveSort (c : Config) (requested : Option (List SortKey)) : Outcome (List SortKey) :=
  match c.sortable with
  | [] => throw .noSortableColumns
  | first :: _ =>
    -- the keys to fall back to are not checked against the sortable columns
    match (requested.getD []).filter (·.isAllowed c.sortable) with
    | [] => pure (c.fallbackSort first)
    | keys => pure keys

def sortNotes (c : Config) (requested : Option (List SortKey)) : List Note :=
  ((requested.getD []).filter fun k => !k.isAllowed c.sortable).map fun k =>
    .sortNotAllowed k.column k.direction

/-- The requested search columns that are searched, or all of them when none were requested. -/
def resolveSearch (c : Config) (requested : Option (List String)) : List String :=
  let searchable := c.searchable.getD []
  match requested with
  | none => searchable
  | some columns => columns.filter searchable.contains

/-- The page size: what is asked for if it is positive, up to the largest. -/
def resolveLimit (c : Config) (requested : Option Int) : Int :=
  let wanted := match requested with
    | some n => if 0 < n then n else c.defaultLimit
    | none => c.defaultLimit
  -- the bound also holds for the page size of the configuration
  min wanted c.maxLimit

end Config

/-- The page number: what is asked for, at least one. -/
def resolvePage (requested : Option Int) : Int := max (requested.getD 1) 1

namespace Request

def baseGroup (c : Config) : List Predicate := (c.criteria.map fun p => .all [p]).toList

/-- The group of the search, if there is a term and a column to search. -/
def searchGroup (r : Request) (columns : List String) : List Predicate :=
  match r.search with
  | none => []
  | some term =>
    if term.isEmpty || columns.isEmpty then [] else [searchPredicate term columns]

/-- The group of the filters, there whenever the request has a filter. -/
def filterGroup (r : Request) (c : Config) : List Predicate :=
  (r.filter.map fun f => .all ((Filter.compile c.filterable f).map Prod.snd)).toList

/-- The plan of a request whose parts are resolved. -/
def planWith (r : Request) (c : Config) (page limit : Int) (sortBy : List SortKey)
    (searchBy : List String) : Plan :=
  let groups := baseGroup c ++ r.searchGroup searchBy ++ r.filterGroup c
  Plan.paged ⟨groups, sortBy, none, none⟩ page limit

def plan (r : Request) (c : Config) : Outcome Plan := do
  let sortBy ← c.resolveSort r.sortBy
  return r.planWith c (resolvePage r.page) (c.resolveLimit r.limit) sortBy
    (c.resolveSearch r.searchBy)

end Request

end Listing
