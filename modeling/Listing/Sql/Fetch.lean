import Listing.Memory.Fetch
import Listing.Sql.Bind
import Listing.Sql.Render
import Listing.Sql.Truth

/-!
# Fetching a page from a database

The rows that a selection's clause is definitely true of are counted, sorted and sliced.  A prepared
source may add conditions and keys to sort by, which come before those of the selection.
-/

namespace Listing.Sql

/-- A table with its rows. -/
structure Database where
  schema : Schema
  rows : List Row

/-- A prepared query of a table: clauses that every row meets, and columns to sort by first. -/
structure Source where
  clauses : List (Clause Value)
  order : List (Column × Bool)

def Source.everything : Source := ⟨[], []⟩

/-- The source of some conditions and keys. -/
def Schema.source (s : Schema) (condition : Option Condition) (keys : List SortKey) :
    Outcome Source := do
  let cs ← clauses s registry condition.toList
  return ⟨cs, ← s.orderColumns keys⟩

/-- The order of two rows by some columns, of which the first decides. -/
def rowOrder (columns : List (Column × Bool)) (a b : Row) : Ordering :=
  match columns with
  | [] => .eq
  | (c, down) :: rest =>
    let o := (a.cell c).order (b.cell c)
    (if down then o.swap else o).then (rowOrder rest a b)

/-- Rows sorted by some columns; rows that are equal there keep their order. -/
def sortRows (columns : List (Column × Bool)) (rows : List Row) : List Row :=
  rows.mergeSort fun a b => rowOrder columns a b != .gt

/-- A bound of a slice, which must fit into 64 bits. -/
def bound? (n : Option Int) : Outcome (Option Int) :=
  match n with
  | none => pure none
  | some n => if fitsWord n then pure (some n) else throw .outOfRange

/-- The slice of some rows: a negative limit is none, a negative offset is zero. -/
def sliceRows {α : Type} (limit offset : Option Int) (rows : List α) : List α :=
  let rest := rows.drop (offset.getD 0).toNat
  match limit with
  | none => rest
  | some n => if n < 0 then rest else rest.take n.toNat

/-- Fetch a page of rows, and count the rows that meet the criteria. -/
def fetch (db : Database) (source : Source) (r : Registry Operation) (s : Selection) :
    Outcome (List Row × Int) := do
  let filter ← clause db.schema r s.condition
  let criteria ← prepare (source.clauses ++ [filter])
  let rows := db.rows.filter fun row => (Truth.all (memberTruths row criteria)).holds
  let order ← db.schema.orderColumns s.orderBy
  -- bounds are parameters like others, so they are looked at when the query is run
  let limit ← bound? s.limit
  let offset ← bound? s.offset
  let sorted := sortRows (source.order ++ order) rows
  return (sliceRows limit offset sorted, (rows.length : Int))

def executor (db : Database) (source : Source) (p : Plan) : Outcome (List Row × Int) :=
  fetch db source registry p.toSelection

/-- The values of a row in the forms of their columns; a column without a value has nothing. -/
def Schema.convertRow (s : Schema) (fields : List (String × Value)) :
    Outcome (List (Column × Value)) :=
  s.columns.mapM fun c => return (c, ← c.manner.convert ((fields.lookup c.name).getD .null))

/-- The row that is stored for some values. -/
def storeRow (values : List (Column × Value)) : Outcome Row :=
  values.mapM fun e => return (e.1.name, (← Cell.ofValue e.2).stored e.1.affinity)

/-- The rows of a table in the order of their identifiers. -/
def Database.ofFields (s : Schema) (rows : List (List (String × Value))) : Outcome Database := do
  let converted ← rows.mapM s.convertRow
  let stored ← converted.mapM storeRow
  return ⟨s, sortRows [(⟨"id", some .int⟩, false)] stored⟩

end Listing.Sql
