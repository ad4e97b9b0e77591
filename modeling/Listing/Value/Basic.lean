import Listing.Identifier
import Listing.Number.Decimal
import Listing.Operator
import Listing.Time.Moment

/-!
# Values

A value is what a field of an item holds and what a condition compares it with.  Scalars come from
the modules for numbers, text and time.  A `map` is a list of entries in insertion order whose keys
differ; a `record` is an item with named fields that is equal to nothing else.
-/

namespace Listing

/-- A value of a field or a condition. -/
inductive Value where
  | null
  | bool (b : Bool)
  | int (n : Int)
  | float (x : Binary64)
  | decimal (d : Decimal)
  | text (s : String)
  | symbol (o : Operator)
  | uuid (u : Identifier)
  | date (d : Date)
  | moment (m : Moment)
  | list (items : List Value)
  | tuple (items : List Value)
  | map (entries : List (Value × Value))
  | record (fields : List (String × Value))
  deriving Repr

/-- The kinds of value that text is cast to. -/
inductive Kind where
  | int
  | float
  | decimal
  | uuid
  | bool
  | text
  | date
  | moment
  | list
  | map
  deriving DecidableEq, Repr

namespace Value

def isNull : Value → Bool
  | null => true
  | _ => false

theorem isNull_iff {v : Value} : v.isNull = true ↔ v = null := by cases v <;> simp [isNull]

/-- The text of a value that is a text; an operator's symbol is one. -/
def asText? : Value → Option String
  | text s => some s
  | symbol o => some o.symbol
  | _ => none

/-- The members of a list or a tuple. -/
def items? : Value → Option (List Value)
  | list xs => some xs
  | tuple xs => some xs
  | _ => none

/-- What a value gives one after the other: the characters of a text, the members of a sequence,
the keys of a map. -/
def elements? : Value → Option (List Value)
  | list xs => some xs
  | tuple xs => some xs
  | map entries => some (entries.map Prod.fst)
  | text s => some (s.toList.map fun c => text c.toString)
  | symbol o => some (o.symbol.toList.map fun c => text c.toString)
  | _ => none

/-- The value under a text key of a map's entries. -/
def find? (key : String) (entries : List (Value × Value)) : Option Value :=
  (entries.find? fun e => e.1.asText? == some key).map Prod.snd

/-- A sequence of characters read as a tuple is written as a list. -/
def tupleToList : Value → Value
  | tuple xs => list xs
  | v => v

end Value

end Listing
