import Listing.Check.Field

/-!
# Checking the fields of a request

A filter may be given for a column as one statement or as a list of statements.
-/

namespace Listing

/-- The statements of a column: a text, or a list of texts.  What is neither is reported as failing
at both. -/
def Check.statements (v : Value) : Check Statements :=
  match v.asText?, v.items? with
  | some s, _ => .passed (.one s)
  | none, some vs =>
    match members text 0 vs with
    | .passed raws => .passed (.many raws)
    | .failed is =>
      .failed (⟨[.name "str"], .wantsText⟩ :: is.map (Issue.within (.name "list[str]")))
  | none, none =>
    .failed [⟨[.name "str"], .wantsText⟩, ⟨[.name "list[str]"], .wantsList⟩]

/-- The request of some given fields.  Statements of a filter that are only one are that one. -/
def Check.request (fields : Check.Fields) : Check Request :=
  (fun path page limit sortBy search searchBy (filter : Option Filter) =>
    { path, page, limit, sortBy, search, searchBy
      filter := filter.map (Table.map Statements.collapse) : Request }) <$>
    required fields "path" text <*>
    field fields "page" none (optional integer) <*>
    field fields "limit" none (optional integer) <*>
    field fields "sort_by" none (optional (list sortKey)) <*>
    field fields "search" none (optional text) <*>
    field fields "search_by" none (optional (list text)) <*>
    field fields "filter" none (optional (table statements))

/-- The request of some given fields, or the fault that says what is wrong with them. -/
def Request.ofFields (fields : Check.Fields) : Outcome Request :=
  (Check.request fields).outcome "PaginateQuery"

end Listing
