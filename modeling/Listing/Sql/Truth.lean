import Listing.Sql.Clause
import Listing.Text.Search
import Listing.Truth

/-!
# The truth of a clause on a row

A clause is evaluated in three-valued logic.  A comparison with nothing is unknown.  In a pattern `%`
stands for any text and `_` for any character; small and capital letters of ASCII are alike.
-/

namespace Listing.Sql

/-- A row: cells by the name of their column. -/
abbrev Row := List (String × Cell)

def Row.cell (r : Row) (c : Column) : Cell := (r.lookup c.name).getD .null

/-- The comparison of a column's cell with a parameter. -/
def compareCells (c : Column) (r : Relation) (cell parameter : Cell) : Truth :=
  match cell, parameter.compared c.affinity with
  | .null, _ => .unknown
  | _, .null => .unknown
  | a, b => .ofBool (r.accepts (a.order b))

/-- The ends of a text, from all of it down to nothing. -/
def suffixes : List Char → List (List Char)
  | [] => [[]]
  | c :: cs => (c :: cs) :: suffixes cs

/-- What may be left of a text behind one more sign of a pattern, the longest rest first. -/
def restsAfter (rests : List (List Char)) (sign : Char) : List (List Char) :=
  if sign == '%' then (rests.head?.map suffixes).getD []
  else rests.filterMap fun
    | [] => none
    | c :: rest => if sign == '_' || sign == c then some rest else none

/-- Whether a text is like a pattern: nothing may be left of it behind the pattern. -/
def isLike (pattern text : List Char) : Bool := (pattern.foldl restsAfter [text]).any List.isEmpty

/-- A text as it is compared with a pattern, in small letters.  It ends where a character with the
code zero stands. -/
def likeText (s : String) : List Char := Text.asciiLower (s.toList.takeWhile (· != '\x00'))

/-- A truth turned around if asked for. -/
def negatedIf (negated : Bool) (t : Truth) : Truth := if negated then t.not else t

def Test.truth (row : Row) : Test Cell → Truth
  | compare c r v => compareCells c r (row.cell c) v
  | flag c negated b =>
    negatedIf negated (compareCells c .eq (row.cell c) (.integer (if b then 1 else 0)))
  | null c negated => negatedIf negated (.ofBool (row.cell c == .null))
  | oneOf c negated vs =>
    negatedIf negated (.any (vs.map fun v => compareCells c .eq (row.cell c) v))
  | like c negated pattern =>
    negatedIf negated (match (row.cell c).text? with
      | none => .unknown
      | some s => .ofBool (isLike (likeText pattern) (likeText s)))

mutual

def Clause.truth (row : Row) : Clause Cell → Truth
  | .constant b => .ofBool b
  | .lone b => .ofBool b
  | .test t => t.truth row
  | .all members => .all (memberTruths row members)
  | .any members => .any (memberTruths row members)
  | .negation inner => (Clause.truth row inner).not
termination_by structural c => c

def memberTruths (row : Row) : List (Clause Cell) → List Truth
  | [] => []
  | c :: cs => Clause.truth row c :: memberTruths row cs
termination_by structural cs => cs

end

end Listing.Sql
