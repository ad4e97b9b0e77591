import Listing.Condition
import Listing.Sql.Operation

/-!
# Conditions as clauses

A condition is compiled to a clause over the columns of a table.  A comparison must name a column of
the table and a comparator of the registry; the column is looked up first.
-/

namespace Listing.Sql

/-- The column that the attribute of a condition names. -/
def Schema.column (s : Schema) (name : String) : Outcome Column :=
  match s.find? name with
  | some c => pure c
  | none => throw (.noColumn s.model name)

def columnName (attr : Option Value) : Outcome String :=
  match attr with
  | none => throw .missingField
  | some v =>
    match v.asText? with
    | some name => pure name
    | none => throw .incompatible

/-- The test that a comparison becomes. -/
def leafTest (s : Schema) (r : Registry Operation) (op : String) (attr : Option Value)
    (v : Value) : Outcome (Test Value) := do
  let name ← columnName attr
  let column ← s.column name
  match Comparator.ofSymbol? op with
  | none => throw (.noComparator op name)
  | some c =>
    match r.find? c with
    | none => throw (.notCompiled c name)
    | some o => o.test column v

mutual

/-- The clause of a condition on a table. -/
def clause (s : Schema) (r : Registry Operation) : Condition → Outcome (Clause Value)
  | .node op attr v members => do
    let text ← Condition.name op
    match Comparator.ofSymbol? text with
    -- the constant in front keeps a group without members a clause
    | some .and => return .conjunction (.constant true :: (← clauses s r members))
    | some .or => return .disjunction (.constant false :: (← clauses s r members))
    | some .not => return (Clause.conjunction (← clauses s r members)).negate
    | _ => return .test (← leafTest s r text attr v)
  | .unlisted op attr v => do
    let text ← Condition.name op
    match Comparator.ofSymbol? text with
    | some .and | some .or | some .not => throw .incompatible
    | _ => return .test (← leafTest s r text attr v)
  | .foreign => throw .notNode
termination_by structural c => c

def clauses (s : Schema) (r : Registry Operation) :
    List Condition → Outcome (List (Clause Value))
  | [] => pure []
  | c :: cs => do
    let d ← clause s r c
    let ds ← clauses s r cs
    return d :: ds
termination_by structural cs => cs

end

end Listing.Sql
