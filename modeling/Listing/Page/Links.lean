import Listing.Fault
import Listing.Number.Numeral
import Listing.Request.Basic
import Listing.Value.Written

/-!
# Links to other pages

A link repeats a request for another page: the path, the page number, and then limit, sort keys,
search, search columns and filter statements in this order, just as they were received.  Numbers
with more digits than are read back are not written.
-/

namespace Listing

/-- Links around a page; the ones that lead nowhere are left out. -/
structure Links where
  first : Option String
  previous : Option String
  current : String
  next : Option String
  last : Option String
  deriving DecidableEq, Repr

namespace Links

/-- The names and texts of a filter's parameters. -/
def filterPairs (entries : List (String × Statements)) : List (String × String) :=
  entries.flatMap fun e => e.2.toList.map fun raw => ("filter." ++ e.1, raw)

/-- The text of a number, which may have as many digits as are read back. -/
def numberText (n : Int) : Outcome String :=
  if n.natAbs < Nat.pow 10 Numeral.maxDigits then pure (intText n) else throw .tooManyDigits

def pairs (limit : Int) (sortBy : List SortKey) (search : Option String)
    (searchBy : Option (List String)) (filter : List (String × Statements)) :
    Outcome (List (String × String)) := do
  -- the page size is the only number here, and it fails before any page number does
  let limitText ← numberText limit
  return [("limit", limitText)] ++
    (sortBy.map fun k => ("sortBy", k.column ++ ":" ++ k.direction)) ++
    ((search.toList.filter fun s => !s.isEmpty).map fun s => ("search", s)) ++
    ((searchBy.getD []).map fun column => ("searchBy", column)) ++
    filterPairs filter

/-- Parameters as text, each behind an ampersand. -/
def suffix (ps : List (String × String)) : String :=
  Text.joinWith "" (ps.map fun p => "&" ++ p.1 ++ "=" ++ p.2)

def address (path : String) (page : Int) (suffix : String) : Outcome String :=
  return path ++ "?page=" ++ (← numberText page) ++ suffix

/-- The address of a page, if it is to be linked to. -/
def address? (wanted : Bool) (path : String) (page : Int) (suffix : String) :
    Outcome (Option String) :=
  if wanted then some <$> address path page suffix else pure none

/-- The links around a page. -/
def around (path : String) (page pages : Int) (suffix : String) : Outcome Links := do
  let first ← address? (page != 1) path 1 suffix
  let previous ← address? (1 ≤ page - 1) path (page - 1) suffix
  let current ← address path page suffix
  let next ← address? (page + 1 ≤ pages) path (page + 1) suffix
  let last ← address? (page != pages) path pages suffix
  return { first, previous, current, next, last }

def toList (l : Links) : List (String × String) :=
  let named (name : String) (link : Option String) : List (String × String) :=
    (link.map fun s => (name, s)).toList
  named "first" l.first ++ named "previous" l.previous ++ [("current", l.current)] ++
    named "next" l.next ++ named "last" l.last

def find? (l : Links) (name : String) : Option String := l.toList.lookup name

end Links

end Listing
