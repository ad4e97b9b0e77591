import Listing.Operator
import Listing.Text.Search
import Listing.Text.Word

/-!
# Filter statements

A filter statement is written `[$outer:]$inner:value`, `value` alone, or `$null`.  A marker is a `$`,
one or more word characters and a `:`.  Since neither sign is a word character, markers cannot
overlap: every place where one starts counts.  A text with three or more markers is no statement.
-/

namespace Listing

/-- A filter statement as it was written: the outer marker if there is one, the operator, and the
value, which only a test for absence lacks. -/
structure Statement where
  outer : Option String
  inner : String
  value : Option String
  deriving DecidableEq, Repr

namespace Statement

/-- The marker at the start of a text, without its colon. -/
def markerAt? : List Char → Option (List Char)
  | '$' :: rest =>
    match rest.takeWhile Text.isWord, rest.dropWhile Text.isWord with
    | [], _ => none
    | word, ':' :: _ => some ('$' :: word)
    | _, _ => none
  | _ => none

/-- The markers of a text, from left to right, without their colons. -/
def markers : List Char → List (List Char)
  | [] => []
  | c :: rest => (markerAt? (c :: rest)).toList ++ markers rest

/-- Markers as they stand in a text, one behind the other. -/
def joined (ms : List (List Char)) : List Char := ms.flatMap (· ++ [':'])

/-- The text without its markers, if they stand together; all of the text if they do not. -/
def valueWithout (ms : List (List Char)) (cs : List Char) : List Char :=
  Text.eraseFirst (joined ms) cs

/-- The statement that a text makes. -/
def read? (raw : String) : Option Statement :=
  let cs := raw.toList
  let ms := markers cs
  let value := String.ofList (valueWithout ms cs)
  match ms.map String.ofList with
  | [] =>
    -- absence is the one operator that is written without a colon
    if raw = Operator.null.symbol then some ⟨none, Operator.null.symbol, none⟩
    else some ⟨none, Operator.eq.symbol, some raw⟩
  | [m] =>
    -- so in `$not:$null` the only marker is the outer one
    if value = Operator.null.symbol then some ⟨some m, Operator.null.symbol, none⟩
    else some ⟨none, m, some value⟩
  | [m, n] => some ⟨some m, n, some value⟩
  | _ => none

end Statement

end Listing
