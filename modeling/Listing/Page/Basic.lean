import Listing.Page.Links
import Listing.Plan.Resolve
import Listing.Request.Address

/-!
# Pages

A page is what a request is answered with: items, counts and links.  `Request.paginate` resolves a
request, has an executor fetch the items of its plan, and puts the page together.  `Page.walk`
follows links from page to page.
-/

namespace Listing

/-- What is said about a page. -/
structure PageInfo where
  itemsPerPage : Int
  totalItems : Int
  currentPage : Int
  totalPages : Int
  sortBy : List SortKey
  searchBy : Option (List String)
  search : Option String
  filter : Option Filter
  deriving Repr

/-- One page of an answer. -/
structure Page (α : Type) where
  items : List α
  info : PageInfo
  links : Links

/-- Fetches the items of a plan and counts all items that meet its criteria. -/
abbrev Executor (α : Type) := Plan → Outcome (List α × Int)

/-- The number of pages for a number of items: the quotient, rounded up. -/
def totalPages (items limit : Int) : Outcome Int :=
  if limit = 0 then throw .zeroLimit else pure (-((-items).fdiv limit))

namespace Request

/-- The parameters that the links of a page carry.  Search columns are carried only when the request
named some itself. -/
def linkPairs (r : Request) (limit : Int) (sortBy : List SortKey) (searchBy : List String) :
    Outcome (List (String × String)) :=
  Links.pairs limit sortBy r.search (r.searchBy.map fun _ => searchBy)
    ((r.filter.map Table.entries).getD [])

/-- The links of the page of a request whose parts are resolved. -/
def linksWith (r : Request) (page limit : Int) (sortBy : List SortKey) (searchBy : List String)
    (pages : Int) : Outcome Links := do
  let ps ← r.linkPairs limit sortBy searchBy
  Links.around r.path page pages (Links.suffix ps)

/-- The page of a request whose parts are resolved, from what an executor fetched. -/
def pageWith {α : Type} (r : Request) (page limit : Int) (sortBy : List SortKey)
    (searchBy : List String) (items : List α) (total pages : Int) (links : Links) : Page α where
  items := items
  info := {
    itemsPerPage := limit
    totalItems := total
    currentPage := page
    totalPages := pages
    sortBy := sortBy
    searchBy := if (r.search.getD "").isEmpty then none else some searchBy
    search := r.search
    filter := r.filter }
  links := links

/-- Answer a request with a page. -/
def paginate {α : Type} (r : Request) (executor : Executor α) (c : Config) :
    Outcome (Page α) := do
  let page := resolvePage r.page
  let limit := c.resolveLimit r.limit
  let sortBy ← c.resolveSort r.sortBy
  let searchBy := c.resolveSearch r.searchBy
  -- the executor is asked before any number is written, so its fault comes first
  let (items, total) ← executor (r.planWith c page limit sortBy searchBy)
  let pages ← totalPages total limit
  let links ← r.linksWith page limit sortBy searchBy pages
  return r.pageWith page limit sortBy searchBy items total pages links

end Request

namespace Page

variable {α : Type}

/-- Follow a link of a page: nothing if the page does not have it, otherwise the request read from
it and the page that answers it. -/
def follow (executor : Executor α) (c : Config) (p : Page α) (link : String) :
    Outcome (Option (Request × Page α)) :=
  match p.links.find? link with
  | none => pure none
  | some address => do
    let r ← Request.ofAddress address
    return some (r, ← r.paginate executor c)

/-- Follow links one after the other, staying on a page that does not have the link. -/
def walk (executor : Executor α) (c : Config) (p : Page α) :
    List String → Outcome (List (Option (Request × Page α)))
  | [] => pure []
  | link :: links => do
    let step ← p.follow executor c link
    -- a page without the link stays the page at hand
    let rest ← walk executor c ((step.map Prod.snd).getD p) links
    return step :: rest

end Page

end Listing
