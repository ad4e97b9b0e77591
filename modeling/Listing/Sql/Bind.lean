import Listing.Sql.Operation

/-!
# Parameters as cells

A parameter is handed over to the database in two steps.  First it takes the form of its manner,
which is the manner of its kind; the values of a list all take the manner of the first one.  A value
without a manner of its own takes that of the column it is compared with.  Only when every parameter
has taken its form do they become cells, for which the database has no room beyond integers of 64
bits, numbers, texts and dates.
-/

namespace Listing.Sql

/-- How values become cells. -/
inductive Manner where
  | plain
  | real
  | truth
  | date
  | moment
  | uuid
  deriving DecidableEq, Repr

def Column.manner (c : Column) : Manner :=
  match c.kind with
  | some .float => .real
  | some .decimal => .real
  | some .bool => .truth
  | some .date => .date
  | some .moment => .moment
  | some .uuid => .uuid
  | _ => .plain

/-- The manner of a value that is compared with a column. -/
def Column.mannerOf (c : Column) (v : Value) : Manner :=
  match v with
  | .bool _ => .truth
  | .float _ => .real
  | .decimal _ => .real
  | .date _ => .date
  | .moment _ => .moment
  | .uuid _ => .uuid
  | .int _ => .plain
  | .text _ => .plain
  | _ => c.manner

/-- The cell of a real number; not-a-number becomes nothing. -/
def realCell : Binary64 → Cell
  | .nan => .null
  | x => .real x

/-- A moment with all digits, a space between date and time, and no offset. -/
def momentText (m : Moment) : String :=
  String.ofList ({ m with micro := 0, offset := none : Moment }.digits ' ' ++
    '.' :: paddedDigits 6 m.micro)

/-- The integer that a truth, or a number equal to one, stands for. -/
def truthNumber? (v : Value) : Option Int :=
  let number := match v with
    | .bool b => some (if b then 1 else 0)
    | .int n => some n
    | .float x => x.whole?
    | .decimal d => d.whole?
    | _ => none
  number.filter fun n => n == 0 || n == 1

/-- A value in the form of a manner.  A number among identifiers takes the form of a thing that the
database does not know. -/
def Manner.convert (m : Manner) (v : Value) : Outcome Value :=
  match m, v with
  | _, .null => pure .null
  | .plain, v => pure v
  -- an integer too far out for a real number is a fault, though a text of it reads as infinite
  | .real, .int n =>
    match Binary64.nearest (n < 0) n.natAbs 1 with
    | .infinite _ => throw .unsuitedOperand
    | x => pure (.float x)
  | .real, .bool b => pure (.float (Binary64.nearest false (if b then 1 else 0) 1))
  | .real, .float x => pure (.float x)
  | .real, .decimal d =>
    if d.isSignalling then throw .unsuitedOperand else pure (.float d.toBinary)
  | .real, .text s =>
    match Numeral.binary? s.toList with
    | some x => pure (.float x)
    | none => throw .unsuitedOperand
  | .truth, v =>
    match truthNumber? v with
    | some n => pure (.int n)
    | none => throw .unsuitedOperand
  | .date, .date d => pure (.text d.toText)
  | .date, .moment m => pure (.text m.date.toText)
  | .moment, .moment m => pure (.text (momentText m))
  | .moment, .date d => pure (.text (momentText ⟨d, 0, 0, 0, 0, none⟩))
  | .uuid, .uuid u => pure (.text (String.ofList u.hexDigits))
  | .uuid, .float _ => pure (.record [])
  | _, _ => throw .unsuitedOperand

/-- The cell of a value, if the database has room for it. -/
def Cell.ofValue (v : Value) : Outcome Cell :=
  match v with
  | .null => pure .null
  | .int n => if fitsWord n then pure (.integer n) else throw .outOfRange
  | .bool b => pure (.integer (if b then 1 else 0))
  | .float x => pure (realCell x)
  | .text s => pure (.text s)
  | .symbol o => pure (.text o.symbol)
  | .date d => pure (.text d.toText)
  | .moment m => pure (.text m.spacedText)
  | _ => throw .foreignOperand

/-- A test with its parameters in the form of their manner. -/
def Test.convert (t : Test Value) : Outcome (Test Value) :=
  match t with
  | compare c _ v => t.traverse (c.mannerOf v).convert
  | oneOf c _ (v :: _) => t.traverse (c.mannerOf v).convert
  | t => pure t

def prepare (cs : List (Clause Value)) : Outcome (List (Clause Cell)) := do
  -- all parameters take their form before the first becomes a cell, so a misfit is reported first
  let converted ← Clause.traverseMembers Test.convert cs
  Clause.traverseMembers (Test.traverse Cell.ofValue) converted

end Listing.Sql
