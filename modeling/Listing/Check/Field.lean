import Listing.Check.WholeNumber
import Listing.Filter.Basic
import Listing.Request.Basic
import Listing.Number.Digits
import Listing.Value.Written

/-!
# Kinds of fields

What a field of a model may be given: a text, a whole number, a list, a table.  Whole numbers are
also read from numbers without a fraction, from truths, and from texts.  A binary floating point
number must lie strictly within 64 bits; other numbers may have any size.
-/

namespace Listing.Check

def text (v : Value) : Check String :=
  match v.asText? with
  | some s => .passed s
  | none => .fail .wantsText

/-- A number that must be whole. -/
def wholeNumber (isFinite : Bool) (n : Option Int) : Check Int :=
  if isFinite then
    match n with
    | some n => .passed n
    | none => .fail .hasNoFraction
  else .fail .isFinite

def integer (v : Value) : Check Int :=
  match v with
  | .int n => .passed n
  | .bool b => .passed (if b then 1 else 0)
  | .float x =>
    (wholeNumber (x matches .finite ..) x.whole?).andThen fun n =>
      if minWord < n ∧ n ≤ maxWord then .passed n else .fail .fitsIntegerSize
  | .decimal d => wholeNumber (d matches .finite ..) d.whole?
  | v =>
    match v.asText? with
    | some s => integerText s
    | none => .fail .wantsInteger

def positive (v : Value) : Check { n : Int // 0 < n } :=
  (integer v).andThen fun n => if h : 0 < n then .passed ⟨n, h⟩ else .fail .isPositive

/-- Nothing, or what a check takes. -/
def optional {α : Type} (f : Value → Check α) (v : Value) : Check (Option α) :=
  match v with
  | .null => .passed none
  | v => (f v).map some

/-- A list of what a check takes. -/
def list {α : Type} (f : Value → Check α) (v : Value) : Check (List α) :=
  match v.items? with
  | some vs => members f 0 vs
  | none => .fail .wantsList

/-- A sort key: a column and a direction. -/
def sortKey (v : Value) : Check SortKey :=
  let place (n : Nat) (c : Check String) : Check String := c.within (.position n)
  match v.items? with
  | none => .fail .wantsPair
  | some [] => SortKey.mk <$> place 0 (.fail .missing) <*> place 1 (.fail .missing)
  | some [column] => SortKey.mk <$> place 0 (text column) <*> place 1 (.fail .missing)
  | some [column, direction] => SortKey.mk <$> place 0 (text column) <*> place 1 (text direction)
  | some _ => .fail .pairIsShort

/-- The step to the value under a key. -/
def keyStep (k : Value) : Step :=
  match k with
  | .int n => if fitsWord n then .position n else .name k.written
  | .bool b => .position (if b then 1 else 0)
  | k =>
    match k.asText? with
    | some s => .name s
    | none => .name k.written

/-- The entries of a map with texts as keys, of what a check takes. -/
def tableEntries {α : Type} (f : Value → Check α) : List (Value × Value) → Check (List (String × α))
  | [] => .passed []
  | (k, v) :: es =>
    let entry := Prod.mk <$> (text k).within (.name "[key]") <*> f v
    List.cons <$> entry.within (keyStep k) <*> tableEntries f es

/-- A map with texts as keys, of what a check takes. -/
def table {α : Type} (f : Value → Check α) (v : Value) : Check (Table α) :=
  match v with
  | .map es => (tableEntries f es).map Table.ofList
  | _ => .fail .wantsMap

/-- The fields given to a model. -/
abbrev Fields := List (String × Value)

/-- A field that must be given. -/
def required {α : Type} (fields : Fields) (name : String) (f : Value → Check α) : Check α :=
  Check.within (.name name) (match fields.lookup name with
    | some v => f v
    | none => .fail .missing)

/-- A field with a value to use when it is not given. -/
def field {α : Type} (fields : Fields) (name : String) (standard : α) (f : Value → Check α) :
    Check α :=
  match fields.lookup name with
  | some v => (f v).within (.name name)
  | none => .passed standard

end Listing.Check
