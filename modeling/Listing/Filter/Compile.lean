import Listing.Filter.Basic
import Listing.Filter.Operand
import Listing.Filter.Statement
import Listing.Note
import Listing.Value.Equal

/-!
# From filter statements to predicates

`Filter.compile` turns the statements of a request into one predicate a column.  A statement counts
only if the whitelist allows its column and each of its operators, and only `$not` may stand outside
another operator.  Of several statements on one column the last accepted one counts.
-/

namespace Listing.Filter

/-- The value that an operator of a statement is applied to: alternatives are parted by commas. -/
def operandValue (o : Operator) : Option String → Value
  | none => .null
  | some v =>
    match o with
    | .isIn => .tuple ((Text.pieces ',' v).map .text)
    | _ => .text v

/-- The predicate of a statement on a column, or the reason why there is none. -/
def compileStatement (column : String) (allowed : List Operator) (raw : String) :
    Except Note Predicate :=
  match Statement.read? raw with
  | none => .error (.malformed raw column)
  | some s =>
    match Operator.ofSymbol? s.inner with
    | none => .error (.notAllowed s.inner column)
    | some inner =>
      if !allowed.contains inner then .error (.notAllowed s.inner column)
      else
        let p := inner.onValue column (operandValue inner s.value)
        match s.outer.bind Operator.ofSymbol? with
        | none => .ok p
        | some outer =>
          if !allowed.contains outer then .error (.notAllowed outer.symbol column)
          else if outer = .not then .ok (.negation p)
          else .error (.onlyNotWraps outer.symbol column)

/-- The predicates of the accepted statements of a column, and the notes on the others. -/
def compileAll (column : String) (allowed : List Operator) :
    List String → List Predicate × List Note
  | [] => ([], [])
  | raw :: raws =>
    let (ps, notes) := compileAll column allowed raws
    match compileStatement column allowed raw with
    | .ok p => (p :: ps, notes)
    | .error note => (ps, note :: notes)

/-- The predicate of a column, and the notes on its statements. -/
def compileColumn (whitelist : Whitelist) (column : String) (statements : Statements) :
    Option Predicate × List Note :=
  match whitelist.lookup column with
  | none => (none, [.columnNotFilterable column])
  | some allowed =>
    let (ps, notes) := compileAll column allowed statements.toList
    (ps.getLast?, notes)

/-- The predicates of a filter by column. -/
def compile (whitelist : Whitelist) (filter : Filter) : List (String × Predicate) :=
  filter.entries.filterMap fun e =>
    (compileColumn whitelist e.1 e.2).1.map fun p => (e.1, p)

/-- The notes on the statements of a filter that were dropped. -/
def notes (whitelist : Whitelist) (filter : Filter) : List Note :=
  filter.entries.flatMap fun e => (compileColumn whitelist e.1 e.2).2

/-- The texts among the members of a sequence, which must all be texts. -/
def texts (vs : List Value) : Outcome (List String) :=
  vs.mapM fun v =>
    match v.asText? with
    | some s => pure s
    | none => throw .incompatible

/-- The operators among the members of a value: those that are, or hold, a symbol. -/
def operators (v : Value) : Outcome (List Operator) := do
  let some members := v.elements? | throw .incompatible
  let held := members.map fun x => (Operand.value x).held
  if held.all Value.isKey then return held.filterMap fun x => x.asText?.bind Operator.ofSymbol?
  else throw .incompatible

/-- A whitelist from values.  Columns that are not asked for are not looked at. -/
def whitelistOf (asked : List String) (allowed : List (String × Value)) : Outcome Whitelist := do
  let es ← (allowed.filter fun e => asked.contains e.1).mapM fun (column, v) =>
    return (column, ← operators v)
  return .ofList es

/-- A filter from values: a list holds several statements, anything else is one.  Statements on a
column outside the whitelist are not looked at. -/
def ofValues (whitelist : Whitelist) (entries : List (String × Value)) : Outcome Filter := do
  let es ← entries.mapM fun (column, v) =>
    match whitelist.lookup column with
    | none => pure (column, Statements.many [])
    | some _ =>
      match v with
      | .list vs => return (column, .many (← texts vs))
      | v => return (column, .many (← texts [v]))
  return .ofList es

end Listing.Filter
