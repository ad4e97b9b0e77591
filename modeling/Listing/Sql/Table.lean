import Listing.Sql.Cell
import Listing.Value.Cast

/-!
# Tables of a database

A table belongs to a model, by which faults name it, and has columns.  A column may have a kind, to
which values that it is compared with are cast; the kind also gives its affinity.
-/

namespace Listing.Sql

/-- A column and the kind of its values, where there is one. -/
structure Column where
  name : String
  kind : Option Kind
  deriving DecidableEq, Repr

/-- A table of the database and the model it belongs to. -/
structure Schema where
  model : String
  table : String
  columns : List Column
  deriving Repr

def Column.affinity (c : Column) : Affinity :=
  match c.kind with
  | some .text => .text
  | some .uuid => .text
  | some .int => .integer
  | some .float => .real
  | none => .none
  | some _ => .numeric

def Column.cast (c : Column) (v : Value) : Value := v.castTo c.kind

def Schema.find? (s : Schema) (name : String) : Option Column :=
  s.columns.find? fun c => c.name == name

end Listing.Sql
