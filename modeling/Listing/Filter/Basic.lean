import Listing.Operator
import Listing.Table

/-!
# Filters and whitelists

A request's filter holds, column by column, one statement or several.  A whitelist holds the columns
that may be filtered on, each with the operators allowed there.
-/

namespace Listing

/-- The statements of a column: one, or several in order. -/
inductive Statements where
  | one (raw : String)
  | many (raws : List String)
  deriving DecidableEq, Repr

namespace Statements

def toList : Statements → List String
  | one raw => [raw]
  | many raws => raws

/-- Statements in order, a single one by itself. -/
def ofList : List String → Statements
  | [raw] => one raw
  | raws => many raws

/-- Several statements that are only one are that one. -/
def collapse (s : Statements) : Statements := ofList s.toList

@[simp] theorem toList_ofList (raws : List String) : (ofList raws).toList = raws := by
  unfold ofList
  split <;> rfl

@[simp] theorem toList_collapse (s : Statements) : s.collapse.toList = s.toList :=
  toList_ofList s.toList

end Statements

/-- The statements of a request by column. -/
abbrev Filter := Table Statements

/-- The columns that may be filtered on, each with the operators allowed. -/
abbrev Whitelist := Table (List Operator)

end Listing
