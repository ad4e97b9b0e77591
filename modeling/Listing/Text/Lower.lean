import Listing.Text.LowerTable

/-!
# Small letters

`lower` writes a text in small letters.  Each capital goes to its small form, with two rules beyond
the table: the dotted capital I becomes two characters, and a capital sigma that ends a word (a
letter before it, none after it, characters without case skipped) takes its final form.  Because of
the second rule the result depends on the surroundings of a letter.
-/

namespace Listing.Text

/-- The small form of one capital by the table; every other character stays. -/
def lowerChar (c : Char) : Char :=
  let n := c.toNat
  match lowerRuns.find? fun r => r.1 ≤ n && n ≤ r.2.1 && (n - r.1) % r.2.2.1 == 0 with
  | some r => Char.ofNat ((n : Int) + r.2.2.2).toNat
  | none => c

/-- Whether the first character that is not skipped is a letter with case. -/
def startsCased (cs : List Char) : Bool :=
  match cs.dropWhile (inRanges caseIgnorableRanges) with
  | c :: _ => inRanges casedRanges c
  | [] => false

/-- The small form of a character between the text before it, read backwards, and the text after
it. -/
def lowerBetween (before : List Char) (c : Char) (after : List Char) : List Char :=
  if c == 'Σ' then
    [if startsCased before && !startsCased after then 'ς' else 'σ']
  else if c == 'İ' then ['i', '\u0307']
  else [lowerChar c]

/-- The small form of a text that follows some other text, which is given backwards. -/
def lowerFrom (before : List Char) : List Char → List Char
  | [] => []
  | c :: rest => lowerBetween before c rest ++ lowerFrom (c :: before) rest

def lower (cs : List Char) : List Char := lowerFrom [] cs

def lowerString (s : String) : String := String.ofList (lower s.toList)

end Listing.Text
