/-!
# Operators of filter statements and comparators of conditions

A filter statement of a request names an `Operator` by a symbol such as `$gte`.  A condition handed
to an executor carries a `Comparator` such as `>=`.  Every operator but `$not` stands for one
comparator.
-/

namespace Listing

/-- The operators that a filter statement may name. -/
inductive Operator where
  | eq
  | gt
  | gte
  | isIn
  | null
  | lt
  | lte
  | not
  deriving DecidableEq, Repr

namespace Operator

/-- Every operator. -/
def values : List Operator := [eq, gt, gte, isIn, null, lt, lte, not]

/-- The symbol of an operator in a statement. -/
def symbol : Operator → String
  | eq => "$eq"
  | gt => "$gt"
  | gte => "$gte"
  | isIn => "$in"
  | null => "$null"
  | lt => "$lt"
  | lte => "$lte"
  | not => "$not"

/-- The label of an operator in messages. -/
def label : Operator → String
  | eq => "EQ"
  | gt => "GT"
  | gte => "GTE"
  | isIn => "IN"
  | null => "NULL"
  | lt => "LT"
  | lte => "LTE"
  | not => "NOT"

/-- The operator with a symbol. -/
def ofSymbol? (s : String) : Option Operator := values.find? fun o => o.symbol == s

theorem mem_values (o : Operator) : o ∈ values := by cases o <;> decide

theorem ofSymbol?_symbol (o : Operator) : ofSymbol? o.symbol = some o := by cases o <;> decide

end Operator

/-- What a node of a condition does: compare a field, test it for absence, search in it, or combine
other conditions. -/
inductive Comparator where
  | eq
  | gt
  | lt
  | ge
  | le
  | isIn
  | isNull
  | contains
  | and
  | or
  | not
  deriving DecidableEq, Repr

namespace Comparator

/-- Every comparator. -/
def values : List Comparator := [eq, gt, lt, ge, le, isIn, isNull, contains, and, or, not]

/-- The symbol of a comparator in a condition. -/
def symbol : Comparator → String
  | eq => "="
  | gt => ">"
  | lt => "<"
  | ge => ">="
  | le => "<="
  | isIn => "in"
  | isNull => "is_null"
  | contains => "icontains"
  | and => "and"
  | or => "or"
  | not => "not"

/-- The label of a comparator in messages. -/
def label : Comparator → String
  | eq => "EQ"
  | gt => "GT"
  | lt => "LT"
  | ge => "GE"
  | le => "LE"
  | isIn => "IN"
  | isNull => "IS_NULL"
  | contains => "ICONTAINS"
  | and => "AND"
  | or => "OR"
  | not => "NOT"

/-- The comparator with a symbol. -/
def ofSymbol? (s : String) : Option Comparator := values.find? fun c => c.symbol == s

theorem mem_values (c : Comparator) : c ∈ values := by cases c <;> decide

theorem ofSymbol?_symbol (c : Comparator) : ofSymbol? c.symbol = some c := by cases c <;> decide

end Comparator

end Listing
