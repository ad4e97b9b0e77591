/-!
# Finding, cutting and replacing parts of a text

The functions work on lists of characters, so that each is a short recursion on the list.
-/

namespace Listing.Text

/-- Whether the first text occurs in the second without a gap. -/
def occursIn (part : List Char) : List Char → Bool
  | [] => part.isEmpty
  | c :: rest => part.isPrefixOf (c :: rest) || occursIn part rest

/-- The text with the first occurrence of a part taken out; all of it if there is none. -/
def eraseFirst (part : List Char) : List Char → List Char
  | [] => []
  | c :: rest =>
    if part.isPrefixOf (c :: rest) then (c :: rest).drop part.length
    else c :: eraseFirst part rest

/-- The text with every occurrence of a part taken out, looked for from left to right.  The number
bounds how many characters are still to be dropped as part of an occurrence. -/
def eraseAllFrom (part : List Char) : Nat → List Char → List Char
  | _, [] => []
  | skip + 1, _ :: rest => eraseAllFrom part skip rest
  | 0, c :: rest =>
    if part.isPrefixOf (c :: rest) then eraseAllFrom part (part.length - 1) rest
    else c :: eraseAllFrom part 0 rest

/-- The text with every occurrence of a part taken out. -/
def eraseAll (part cs : List Char) : List Char := eraseAllFrom part 0 cs

/-- Capital letters of ASCII written small; every other character stays. -/
def asciiLower (cs : List Char) : List Char := cs.map Char.toLower

/-- Cut at the first occurrence of a character: what stands before it and, if it occurs, what
stands after it. -/
def cut (sep : Char) (cs : List Char) : List Char × Option (List Char) :=
  match cs.dropWhile (· != sep) with
  | [] => (cs, none)
  | _ :: rest => (cs.takeWhile (· != sep), some rest)

/-- The text after an opening part, if it opens with that part. -/
def after? (start cs : List Char) : Option (List Char) :=
  if start.isPrefixOf cs then some (cs.drop start.length) else none

/-- The pieces of a text between the occurrences of a character, as strings. -/
def pieces (sep : Char) (s : String) : List String :=
  (s.toList.splitOn sep).map String.ofList

/-- Strings joined with a separator between neighbours. -/
def joinWith (sep : String) (parts : List String) : String :=
  String.ofList (sep.toList.intercalate (parts.map String.toList))

end Listing.Text
