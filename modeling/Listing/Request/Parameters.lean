import Listing.Fault
import Listing.Request.Basic
import Listing.Request.Percent
import Listing.Value.Written

/-!
# Requests from parameters

Parameters are names with texts, a repeated name with several.  They come from the text behind the
question mark of an address or from a map of values.  `Request.ofParameters` reads a request from
them: whatever cannot be read is left out, and nothing in the parameters is an error.
-/

namespace Listing

/-- Parameters by name, in order of first occurrence. -/
abbrev Parameters := Table (List String)

namespace Parameters

/-- A name and its text, taken from one piece between ampersands. -/
def readPair (piece : List Char) : String × String :=
  let (name, text) := Text.cut '=' piece
  (String.ofList (Percent.decode name), String.ofList (Percent.decode (text.getD [])))

/-- The names and texts between ampersands; empty pieces are skipped. -/
def readPairs (cs : List Char) : List (String × String) :=
  ((cs.splitOn '&').filter fun piece => !piece.isEmpty).map readPair

def add (ps : Parameters) (pair : String × String) : Parameters :=
  ps.alter pair.1 fun texts => texts.getD [] ++ [pair.2]

def ofPairs (pairs : List (String × String)) : Parameters := pairs.foldl add .empty

def ofText (s : String) : Parameters := ofPairs (readPairs s.toList)

/-- The texts of a value: of each member of a sequence, none of nothing. -/
def textsOf (v : Value) : List String :=
  match v with
  | .null => []
  | v =>
    match v.items? with
    | some vs => vs.map Value.shown
    | none => [v.shown]

/-- Parameters from a value: a text is read, a map must have texts as keys. -/
def ofValue (v : Value) : Outcome Parameters :=
  match v with
  | .map entries => do
    let es ← entries.mapM fun e =>
      match e.1.asText? with
      | some s => pure (s, textsOf e.2)
      | none => throw .notText
    return .ofList es
  | v =>
    match v.asText? with
    | some s => pure (ofText s)
    | none => throw .notText

def texts (ps : Parameters) (name : String) : List String := (ps.lookup name).getD []

end Parameters

/-- The names of the parameters of a request, and what stands in front of a column in the name of a
filter. -/
structure Keys where
  page : String := "page"
  limit : String := "limit"
  sortBy : String := "sortBy"
  search : String := "search"
  searchBy : String := "searchBy"
  filter : String := "filter."

namespace Request

/-- The number that the first of some texts reads as. -/
def readNumber? (texts : List String) : Option Int :=
  texts.head?.bind fun s => Numeral.whole? s.toList

/-- A column and a direction with a colon between them. -/
def readSortKey? (s : String) : Option SortKey :=
  match Text.cut ':' s.toList with
  | (_, none) => none
  | (column, some direction) => some ⟨String.ofList column, String.ofList direction⟩

/-- Columns between commas, without blanks around them; empty ones are left out. -/
def readColumns (s : String) : List String :=
  ((s.toList.splitOn ',').map Text.trim).filterMap fun column =>
    if column.isEmpty then none else some (String.ofList column)

/-- The column that the name of a parameter filters on. -/
def filterColumn? (start name : String) : Option String :=
  (Text.after? start.toList name.toList).map String.ofList

/-- The filter in some parameters. -/
def readFilter (start : String) (ps : Parameters) : Filter :=
  .ofList (ps.entries.filterMap fun e => do
    let column ← filterColumn? start e.1
    let statements ← nonempty? e.2
    return (column, .ofList statements))

/-- The request that some parameters make for a path. -/
def ofParameters (path : String) (ps : Parameters) (keys : Keys := {}) : Request :=
  let filter := readFilter keys.filter ps
  { path
    page := readNumber? (ps.texts keys.page)
    limit := readNumber? (ps.texts keys.limit)
    sortBy := nonempty? ((ps.texts keys.sortBy).filterMap readSortKey?)
    search := (ps.texts keys.search).head?
    searchBy := nonempty? ((ps.texts keys.searchBy).flatMap readColumns)
    filter := if filter.isEmpty then none else some filter }

end Request

end Listing
