import Listing.Plan.Basic
import Listing.Sql.Compile
import Listing.Table

/-!
# Clauses and queries as text

Tests are written with named parameters.  A parameter is named for its column and numbered for each
column from one on, in the order of the text; the values of a list share one number and are numbered
again within it.
-/

namespace Listing.Sql

/-- The parameters of a text so far, and how many numbers each column has used. -/
structure Bindings where
  used : Table Nat
  values : List (String × Value)

namespace Bindings

def none : Bindings := ⟨.empty, []⟩

/-- A new name for a parameter of a column. -/
def fresh (ps : Bindings) (column : String) : String × Bindings :=
  let n := (ps.used.lookup column).getD 0 + 1
  (column ++ "_" ++ intText n, { ps with used := ps.used.put column n })

/-- The parameters with one more value. -/
def bind (ps : Bindings) (name : String) (v : Value) : Bindings :=
  { ps with values := ps.values ++ [(name, v)] }

/-- The parameters in the order of their names. -/
def sorted (ps : Bindings) : List (String × Value) :=
  ps.values.mergeSort fun a b => compare a.1 b.1 != .gt

end Bindings

/-- A value written with a new parameter. -/
def renderValue (column : String) (v : Value) (ps : Bindings) : String × Bindings :=
  let (name, ps) := ps.fresh column
  (":" ++ name, ps.bind name v)

/-- The values of a list written with parameters numbered under one name. -/
def renderNumbered (name : String) : Nat → List Value → Bindings → List String × Bindings
  | _, [], ps => ([], ps)
  | n, v :: vs, ps =>
    let own := name ++ "_" ++ intText n
    let (texts, ps) := renderNumbered name (n + 1) vs (ps.bind own v)
    ((":" ++ own) :: texts, ps)

def renderList (column : String) (vs : List Value) (ps : Bindings) : String × Bindings :=
  let (name, ps) := ps.fresh column
  let (texts, ps) := renderNumbered name 1 vs ps
  ("(" ++ Text.joinWith ", " (if texts.isEmpty then ["NULL"] else texts) ++ ")", ps)

def Test.render (table : String) (t : Test Value) (ps : Bindings) : String × Bindings :=
  match t with
  | compare c r v =>
    let (text, ps) := renderValue c.name v ps
    (table ++ "." ++ c.name ++ " " ++ r.sign ++ " " ++ text, ps)
  | flag c negated b =>
    (table ++ "." ++ c.name ++ (if negated then " != " else " = ") ++
      (if b then "true" else "false"), ps)
  | null c negated =>
    (table ++ "." ++ c.name ++ (if negated then " IS NOT NULL" else " IS NULL"), ps)
  | oneOf c negated vs =>
    let (values, ps) := renderList c.name vs ps
    let name := table ++ "." ++ c.name
    if negated then
      ("(" ++ name ++ " NOT IN " ++ values ++ (if vs.isEmpty then " OR (1 = 1))" else ")"), ps)
    else (name ++ " IN " ++ values ++ (if vs.isEmpty then " AND (1 != 1)" else ""), ps)
  | like c negated pattern =>
    let (text, ps) := renderValue c.name (.text pattern) ps
    ("lower(" ++ table ++ "." ++ c.name ++ ")" ++ (if negated then " NOT LIKE " else " LIKE ") ++
      "lower(" ++ text ++ ")", ps)

/-- Whether a clause stands in brackets inside a conjunction. -/
def Clause.needsBrackets {ν : Type} : Clause ν → Bool
  | any _ => true
  | _ => false

def truthText (b : Bool) : String := if b then "true" else "false"

mutual

def Clause.render (table : String) : Clause Value → Bindings → String × Bindings
  | .constant b, ps => (truthText b, ps)
  | .lone b, ps => (truthText b, ps)
  | .test t, ps => t.render table ps
  | .all members, ps =>
    let (texts, ps) := renderMembers table true members ps
    (Text.joinWith " AND " texts, ps)
  | .any members, ps =>
    let (texts, ps) := renderMembers table false members ps
    (Text.joinWith " OR " texts, ps)
  | .negation inner, ps =>
    let (text, ps) := Clause.render table inner ps
    ("NOT (" ++ text ++ ")", ps)
termination_by structural c => c

/-- The members of a group as texts, with brackets where a conjunction needs them. -/
def renderMembers (table : String) (brackets : Bool) :
    List (Clause Value) → Bindings → List String × Bindings
  | [], ps => ([], ps)
  | c :: cs, ps =>
    let (text, ps) := Clause.render table c ps
    let (texts, ps) := renderMembers table brackets cs ps
    ((if brackets && c.needsBrackets then "(" ++ text ++ ")" else text) :: texts, ps)
termination_by structural cs => cs

end

/-- A clause as text with its parameters by name. -/
def Clause.toText (table : String) (c : Clause Value) : String × List (String × Value) :=
  let (text, ps) := c.render table .none
  (text, ps.sorted)

/-- The end of a query that slices its rows. -/
def renderSlice (limit offset : Option Int) (ps : Bindings) : String × Bindings :=
  match limit, offset with
  | .none, .none => ("", ps)
  | some n, .none =>
    let (text, ps) := renderValue "param" (.int n) ps
    (" LIMIT " ++ text, ps)
  | .none, some k =>
    let (text, ps) := renderValue "param" (.int k) ps
    (" LIMIT -1 OFFSET " ++ text, ps)
  | some n, some k =>
    let (first, ps) := renderValue "param" (.int n) ps
    let (second, ps) := renderValue "param" (.int k) ps
    (" LIMIT " ++ first ++ " OFFSET " ++ second, ps)

/-- The columns that a selection sorts by, each with whether it sorts downwards. -/
def Schema.orderColumns (s : Schema) (keys : List SortKey) : Outcome (List (Column × Bool)) :=
  keys.mapM fun k => return (← s.column k.column, k.direction == "DESC")

/-- The query that selects the identifiers of a selection's rows, with its parameters by name. -/
def renderQuery (s : Schema) (filter : Option (Clause Value)) (order : List (Column × Bool))
    (limit offset : Option Int) : String × List (String × Value) :=
  let (condition, ps) := match filter with
    | some c =>
      let (text, ps) := c.render s.table .none
      (" WHERE " ++ text, ps)
    | .none => ("", .none)
  let keys := order.map fun k =>
    s.table ++ "." ++ k.1.name ++ (if k.2 then " DESC" else " ASC")
  let sorting := if keys.isEmpty then "" else " ORDER BY " ++ Text.joinWith ", " keys
  let (slice, ps) := renderSlice limit offset ps
  ("SELECT " ++ s.table ++ ".id FROM " ++ s.table ++ condition ++ sorting ++ slice, ps.sorted)

end Listing.Sql
