import Listing.Check.Basic
import Listing.Number.Numeral

/-!
# Whole numbers as text

A text is first read as it stands: a minus if there is one, and digits that do not start with a
zero, unless zero is all there is.  What does not read is tidied and read again.  Tidying drops
blanks around the text, a plus in front, zeros in front together with the underscores among them, a
fraction of zeros, and underscores that stand alone between other signs.

A text that is too long is only told apart from other texts that do not read when it is too long as
it stands.
-/

namespace Listing.Check

/-- What a text says as a whole number. -/
inductive NumberReading where
  | number (n : Int)
  | tooLong
  | unreadable
  deriving DecidableEq, Repr

/-- The reading of a text as it stands.  What follows the digits does not matter once they are too
many. -/
def readPlain (cs : List Char) : NumberReading :=
  let (negative, body) := match cs with
    | '-' :: rest => (true, rest)
    | cs => (false, cs)
  let digits := body.takeWhile Char.isDigit
  -- a zero may stand alone, with a minus too, but not in front of other digits
  if body = ['0'] then .number 0
  else if digits.isEmpty || digits.head? == some '0' then .unreadable
  -- digits are counted before what follows them is looked at
  else if Numeral.maxDigits < digits.length then .tooLong
  else if digits.length < body.length then .unreadable
  else .number (Numeral.signed negative (ofDigits digits))

/-- Drop zeros, and underscores behind them, up to the first other sign.  A zero is kept in front of
a point, and the last sign is kept when nothing else is left. -/
def dropZerosFrom (last : Char) : List Char → Option (List Char)
  | [] => some [last]
  | c :: rest =>
    if c == '0' || c == '_' then dropZerosFrom c rest
    else if c.isDigit || c == '-' then some (c :: rest)
    else if c == '.' then some (last :: c :: rest)
    else none

/-- Drop the zeros in front of a number; what starts with no digit is no number. -/
def dropZeros : List Char → Option (List Char)
  | [] => none
  | c :: rest =>
    if c == '0' then dropZerosFrom c rest else if c.isDigit then some (c :: rest) else none

/-- Drop a point and zeros behind it at the end of a number. -/
def dropZeroFraction (cs : List Char) : List Char :=
  match Text.cut '.' cs with
  | (whole, some zeros) => if !zeros.isEmpty && zeros.all (· == '0') then whole else cs
  | (_, none) => cs

/-- Drop underscores, if each stands alone between other signs. -/
def dropUnderscores (cs : List Char) : List Char :=
  let groups := cs.splitOn '_'
  if groups.any List.isEmpty then cs else groups.flatten

/-- Whether a character may stand around a number. -/
def isMargin (c : Char) : Bool := Text.isAsciiBlank c || Text.isWideBlank c

/-- A text without what may be left out of a number; nothing if it is no number in any case. -/
def tidied (cs : List Char) : Option (List Char) :=
  match Text.trimBoth isMargin cs with
  -- the minus stays, as it is read with the number; a plus is not read
  | '+' :: rest => (dropZeros rest).map (dropUnderscores ∘ dropZeroFraction)
  | '-' :: rest => (dropZeros rest).map (dropUnderscores ∘ dropZeroFraction ∘ ('-' :: ·))
  | cs => (dropZeros cs).map (dropUnderscores ∘ dropZeroFraction)

/-- A whole number as text. -/
def integerText (s : String) : Check Int :=
  match readPlain s.toList with
  | .number n => .passed n
  | .tooLong => .fail .fitsIntegerSize
  | .unreadable =>
    match (tidied s.toList).map readPlain with
    | some (.number n) => .passed n
    | _ => .fail .readsAsInteger

end Listing.Check
