import Listing.Check.Field
import Listing.Config
import Listing.Criteria

/-!
# Checking the configuration of a listing
-/

namespace Listing.Check

def operator (v : Value) : Check Operator :=
  match v.asText?.bind Operator.ofSymbol? with
  | some o => .passed o
  | none => .fail .wantsOperator

def operators (v : Value) : Check (List Operator) :=
  match v.items? with
  | some vs => (members operator 0 vs).map List.eraseDups
  | none => .fail .wantsSet

/-- The largest page size and the page size that are used unless set. -/
def standardLimits : { n : Int // 0 < n } × { n : Int // 0 < n } :=
  (⟨Config.standardMaxLimit, Config.standardMaxLimit_pos⟩,
    ⟨Config.standardLimit, Config.standardLimit_pos⟩)

/-- The predicate of base criteria, where there are any. -/
def criteria : Option Criteria → Check (Option Predicate)
  | none => .passed none
  | some c =>
    match c.toPredicate? with
    | some p => .passed (some p)
    | none => .failed [⟨[.name "where"], .isCriteria⟩]

/-- The configuration of some given fields; base criteria are given apart from the others. -/
def config (fields : Fields) (base : Option Criteria) : Check Config :=
  (fun sortable searchable maxLimit defaultSort defaultLimit criteria filterable =>
    { sortable, searchable, defaultSort, criteria, filterable
      maxLimit := maxLimit.val
      defaultLimit := defaultLimit.val
      maxLimit_pos := maxLimit.property
      defaultLimit_pos := defaultLimit.property : Config }) <$>
    required fields "sortable_columns" (list text) <*>
    field fields "searchable_columns" none (optional (list text)) <*>
    field fields "max_limit" standardLimits.1 positive <*>
    field fields "default_sort_by" none (optional (list sortKey)) <*>
    field fields "default_limit" standardLimits.2 positive <*>
    criteria base <*>
    field fields "filterable_columns" .empty (table operators)

end Listing.Check

namespace Listing

/-- The configuration of some given fields, or the fault that says what is wrong with them. -/
def Config.ofFields (fields : Check.Fields) (base : Option Criteria) : Outcome Config :=
  (Check.config fields base).outcome "PaginateConfig"

end Listing
