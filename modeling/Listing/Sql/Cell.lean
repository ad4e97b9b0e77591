import Listing.Number.Digits
import Listing.Sql.Scaling

/-!
# Cells of a database

A cell is nothing, an integer of 64 bits, a real number or a text.  A column has an affinity, which
says how a value is converted before it is stored in the column or compared with it: with a numeric
column a text that reads as a number is that number, with a text column a number is its text.  Any
number comes before any text, and nothing comes before everything.
-/

namespace Listing.Sql

/-- A cell of a row. -/
inductive Cell where
  | null
  | integer (n : Int)
  | real (x : Binary64)
  | text (s : String)
  deriving DecidableEq, Repr

/-- How a column converts values. -/
inductive Affinity where
  | text
  | numeric
  | integer
  | real
  | none
  deriving DecidableEq, Repr

namespace Cell

/-- Real numbers as text: fifteen digits, positional from `1e-4` up to below `1e15`. -/
def realLayout : FloatLayout := ⟨-4, 15, true⟩

def realText : Binary64 → String
  | .nan => "NaN"
  | .infinite negative => if negative then "-Inf" else "Inf"
  | .finite negative m e =>
    if m = 0 then "0.0"
    else
      let (c, x) := Scaling.digits 15 m e
      String.ofList (Binary64.signed negative (realLayout.write c x))

def text? : Cell → Option String
  | null => Option.none
  | integer n => some (intText n)
  | real x => some (realText x)
  | text s => some s

/-- The number that a text reads as: an integer if it is written as one and can be stored. -/
def ofNumeral? (s : String) : Option Cell := do
  let (negative, body) := Numeral.splitSign (Text.trimBoth Text.isAsciiBlank s.toList)
  let n ← Numeral.Scientific.read? body
  let whole := Numeral.signed negative n.coefficient
  if areDigits body && fitsWord whole then some (integer whole)
  else some (real (Scaling.read negative n))

/-- A text that reads as a number, as that number. -/
def toNumber : Cell → Cell
  | text s => (ofNumeral? s).getD (text s)
  | c => c

def toText : Cell → Cell
  | integer n => text (intText n)
  | real x => text (realText x)
  | c => c

/-- A real number that is whole and strictly within 64 bits, as an integer. -/
def toInteger : Cell → Cell
  | real x =>
    match x.whole? with
    | some n => if minWord < n ∧ n < maxWord then integer n else real x
    | Option.none => real x
  | c => c

/-- An integer as a real number. -/
def toReal : Cell → Cell
  | integer n => real (Binary64.nearest (n < 0) n.natAbs 1)
  | c => c

/-- A cell as a column stores it. -/
def stored (c : Cell) : Affinity → Cell
  | .text => c.toText
  | .numeric => c.toNumber.toInteger
  | .integer => c.toNumber.toInteger
  | .real => c.toNumber.toReal
  | .none => c

/-- A cell as a column compares with it. -/
def compared (c : Cell) : Affinity → Cell
  | .text => c.toText
  | .none => c
  | _ => c.toNumber

/-- The exact value of a number. -/
def number? : Cell → Option Decimal
  | integer n => some (.ofInt n)
  | real x => some (.ofBinary x)
  | _ => Option.none

/-- The order of two cells: nothing, then numbers by value, then texts by character. -/
def order (a b : Cell) : Ordering :=
  match a, b with
  | null, null => .eq
  | null, _ => .lt
  | _, null => .gt
  | integer m, integer n => compare m n
  | text s, text t => compare s t
  | text _, _ => .gt
  | _, text _ => .lt
  | a, b =>
    match a.number?, b.number? with
    | some d, some e => (d.order e).getD .eq
    | _, _ => .eq

end Cell

end Listing.Sql
