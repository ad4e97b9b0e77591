import Listing.Check.Request
import Listing.Page.Basic

/-!
# The envelope of a page

What is said about a page goes out under names with capitals inside words, such as `itemsPerPage`;
inside the program the same fields have names such as `items_per_page`.  Fields that come in may
have either name, and the outer one counts when both are given.
-/

namespace Listing

/-- The name of a field inside the program and the one it goes out under. -/
structure FieldName where
  inner : String
  outer : String

namespace PageInfo

def names : List FieldName := [
  ⟨"items_per_page", "itemsPerPage"⟩,
  ⟨"total_items", "totalItems"⟩,
  ⟨"current_page", "currentPage"⟩,
  ⟨"total_pages", "totalPages"⟩,
  ⟨"sort_by", "sortBy"⟩,
  ⟨"search_by", "searchBy"⟩,
  ⟨"search", "search"⟩,
  ⟨"filter", "filter"⟩]

def textsValue (ss : List String) : Value := .list (ss.map .text)

def sortKeyValue (k : SortKey) : Value := .list [.text k.column, .text k.direction]

def statementsValue : Statements → Value
  | .one raw => .text raw
  | .many raws => textsValue raws

def filterValue (f : Filter) : Value :=
  .map (f.entries.map fun e => (.text e.1, statementsValue e.2))

def values (i : PageInfo) : List Value := [
  .int i.itemsPerPage,
  .int i.totalItems,
  .int i.currentPage,
  .int i.totalPages,
  .list (i.sortBy.map sortKeyValue),
  (i.searchBy.map textsValue).getD .null,
  (i.search.map .text).getD .null,
  (i.filter.map filterValue).getD .null]

/-- The fields under the names that they go out under. -/
def outerFields (i : PageInfo) : List (String × Value) := (names.map FieldName.outer).zip i.values

/-- The fields under the names inside the program. -/
def innerFields (i : PageInfo) : List (String × Value) := (names.map FieldName.inner).zip i.values

end PageInfo

namespace Check

/-- The name that a field is given under. -/
def givenName (fields : Fields) (n : FieldName) : String :=
  if (fields.lookup n.outer).isSome then n.outer
  else if (fields.lookup n.inner).isSome then n.inner
  else n.outer

def pageInfo (fields : Fields) : Check PageInfo :=
  let must {α : Type} (inner outer : String) (f : Value → Check α) : Check α :=
    required fields (givenName fields ⟨inner, outer⟩) f
  let may {α : Type} (inner outer : String) (f : Value → Check α) : Check (Option α) :=
    field fields (givenName fields ⟨inner, outer⟩) none (optional f)
  PageInfo.mk <$>
    must "items_per_page" "itemsPerPage" integer <*>
    must "total_items" "totalItems" integer <*>
    must "current_page" "currentPage" integer <*>
    must "total_pages" "totalPages" integer <*>
    must "sort_by" "sortBy" (list sortKey) <*>
    may "search_by" "searchBy" (list text) <*>
    may "search" "search" text <*>
    may "filter" "filter" (table statements)

def links (fields : Fields) : Check Links :=
  Links.mk <$>
    field fields "first" none (optional text) <*>
    field fields "previous" none (optional text) <*>
    required fields "current" text <*>
    field fields "next" none (optional text) <*>
    field fields "last" none (optional text)

def pageItems (v : Value) : Check (List Value) :=
  Check.within (.name "data") (list .passed v)

end Check

/-- A page from its given parts, checked one part after the other: what is said about it, its links,
its items. -/
def Page.ofParts (items : Value) (info links : Check.Fields) : Outcome (Page Value) := do
  let info ← (Check.pageInfo info).outcome "PaginatedMeta"
  let links ← (Check.links links).outcome "PaginatedLinks"
  let items ← (Check.pageItems items).outcome "Paginated"
  return ⟨items, info, links⟩

end Listing
