import Listing.Condition
import Listing.Request.Basic

/-!
# Query plans

A plan says all that an executor needs to fetch a page: groups of criteria, of which every one must
hold, the order, and the slice.  A `Selection` is a plan in the form that executors read, with its
criteria as one condition.
-/

namespace Listing

/-- What to fetch: groups of criteria, an order and a slice. -/
structure Plan where
  groups : List Predicate
  orderBy : List SortKey
  limit : Option Int
  offset : Option Int
  deriving Repr

/-- A plan as executors read it. -/
structure Selection where
  condition : Condition
  orderBy : List SortKey
  limit : Option Int
  offset : Option Int
  deriving Repr

/-- The selection of some conditions that must all hold. -/
def Selection.ofConditions (conditions : List Condition) (orderBy : List SortKey)
    (limit offset : Option Int) : Selection :=
  ⟨.group .and conditions, orderBy, limit, offset⟩

namespace Plan

/-- The plan for everything in any order. -/
def everything : Plan := ⟨[], [], none, none⟩

def andWhere (p : Plan) (group : Predicate) : Plan := { p with groups := p.groups ++ [group] }

def sortedBy (p : Plan) (key : SortKey) : Plan := { p with orderBy := p.orderBy ++ [key] }

/-- The plan for one page; the first page has number one. -/
def paged (p : Plan) (page limit : Int) : Plan :=
  { p with limit := some limit, offset := some ((page - 1) * limit) }

def criteria (p : Plan) : Predicate := .all p.groups

def toSelection (p : Plan) : Selection := ⟨p.criteria.toCondition, p.orderBy, p.limit, p.offset⟩

def unsliced (p : Plan) : Plan := { p with limit := none, offset := none }

end Plan

end Listing
