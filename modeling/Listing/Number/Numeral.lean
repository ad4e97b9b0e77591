import Listing.Number.Decimal
import Listing.Text.Character
import Listing.Text.Search

/-!
# Reading numbers

Four kinds of numeral: whole numbers, binary floating point numbers, decimals, and the whole
numbers of sixteen digits base.  All take decimal digits of any script and blanks around.  Whole
numbers and binary numbers take a single underscore between digits, decimals ignore every
underscore.
-/

namespace Listing.Numeral

/-- More digits than this are not read as a whole number. -/
def maxDigits : Nat := 4300

/-- Digits and blanks beyond ASCII replaced by their ASCII forms; other characters beyond ASCII
become a character that no numeral has. -/
def plain (cs : List Char) : List Char :=
  cs.map fun c =>
    if c.toNat < 127 then c
    else if Text.isWideBlank c then ' '
    else match Text.wideDigit? c with
      | some n => Nat.digitChar n
      | none => '?'

/-- A leading sign: whether it is a minus, and the rest. -/
def splitSign : List Char → Bool × List Char
  | '-' :: rest => (true, rest)
  | '+' :: rest => (false, rest)
  | cs => (false, cs)

/-- Characters of a class in groups that are joined by single underscores. -/
def grouped? (p : Char → Bool) (cs : List Char) : Option (List Char) :=
  let groups := cs.splitOn '_'
  if groups.all fun g => !g.isEmpty && g.all p then some groups.flatten else none

def signed (negative : Bool) (n : Nat) : Int := if negative then -(n : Int) else n

/-- A whole number. -/
def whole? (cs : List Char) : Option Int :=
  let (negative, body) := splitSign (Text.trimBoth Text.isAsciiBlank (plain cs))
  match grouped? Char.isDigit body with
  | some ds => if ds.length ≤ maxDigits then some (signed negative (ofDigits ds)) else none
  | none => none

def isHexDigit (c : Char) : Bool :=
  c.isDigit || ('a' ≤ c && c ≤ 'f') || ('A' ≤ c && c ≤ 'F')

def hexValue (c : Char) : Nat :=
  if c.isDigit then c.toNat - 48 else if c.toNat < 97 then c.toNat - 55 else c.toNat - 87

def ofHexDigits (cs : List Char) : Nat := cs.foldl (fun n c => 16 * n + hexValue c) 0

/-- The part of a hexadecimal numeral after an optional `0x` and one underscore behind it. -/
def afterHexMark : List Char → List Char
  | '0' :: 'x' :: '_' :: rest => rest
  | '0' :: 'X' :: '_' :: rest => rest
  | '0' :: 'x' :: rest => rest
  | '0' :: 'X' :: rest => rest
  | cs => cs

/-- A whole number in hexadecimal digits. -/
def hex? (cs : List Char) : Option Int :=
  let (negative, body) := splitSign (Text.trimBoth Text.isAsciiBlank (plain cs))
  (grouped? isHexDigit (afterHexMark body)).map fun ds => signed negative (ofHexDigits ds)

/-- A number that is written with an optional fraction and an optional exponent, by its digits. -/
structure Scientific where
  whole : List Char
  fraction : List Char
  /-- Whether a minus stands before the digits of the exponent. -/
  lowers : Bool
  exponent : List Char
  deriving DecidableEq, Repr

namespace Scientific

/-- The number without its point and its exponent. -/
def coefficient (n : Scientific) : Nat := ofDigits (n.whole ++ n.fraction)

/-- The power of ten that the coefficient is to be multiplied by. -/
def power (n : Scientific) : Int := signed n.lowers (ofDigits n.exponent) - n.fraction.length

/-- Digits with an optional point and an optional exponent. -/
def read? (cs : List Char) : Option Scientific :=
  let whole := cs.takeWhile Char.isDigit
  let (fraction, rest) := match cs.dropWhile Char.isDigit with
    | '.' :: r => (r.takeWhile Char.isDigit, r.dropWhile Char.isDigit)
    | r => ([], r)
  if whole.isEmpty && fraction.isEmpty then none
  else
    match rest with
    | [] => some ⟨whole, fraction, false, []⟩
    | c :: r =>
      let (lowers, exponent) := splitSign r
      if (c == 'e' || c == 'E') && areDigits exponent then
        some ⟨whole, fraction, lowers, exponent⟩
      else none

end Scientific

/-- Underscores taken out where each stands between two digits. -/
def withoutUnderscores? (previous : Char) : List Char → Option (List Char)
  | [] => if previous == '_' then none else some []
  | c :: cs =>
    if c == '_' then
      if previous.isDigit then withoutUnderscores? '_' cs else none
    else if previous == '_' && !c.isDigit then none
    else (withoutUnderscores? c cs).map (c :: ·)

/-- A binary floating point number. -/
def binary? (cs : List Char) : Option Binary64 := do
  let body ← withoutUnderscores? ' ' (Text.trimBoth Text.isAsciiBlank (plain cs))
  let (negative, magnitude) := splitSign body
  let word := String.ofList (Text.asciiLower magnitude)
  if word = "inf" ∨ word = "infinity" then some (.infinite negative)
  else if word = "nan" then some .nan
  else
    let n ← Scientific.read? magnitude
    some (Binary64.ofDecimal negative n.coefficient n.power)

/-- The greatest place of a leading digit in a decimal. -/
def maxPlace : Int := 999999999999999999

/-- The least exponent of a decimal. -/
def minExponent : Int := -1999999999999999997

/-- A decimal within the limits of exponents. -/
def withinLimits? (negative : Bool) (coefficient : Nat) (exponent : Int) : Option Decimal :=
  if exponent + digitCount coefficient - 1 ≤ maxPlace ∧ minExponent ≤ exponent then
    some (.finite negative coefficient exponent)
  else none

/-- The digits behind a not-a-number. -/
def payload? (cs : List Char) : Option Nat :=
  if cs.all Char.isDigit then some (ofDigits cs) else none

/-- A decimal, without rounding. -/
def decimal? (cs : List Char) : Option Decimal := do
  let body := plain ((Text.trim cs).filter (· != '_'))
  let (negative, magnitude) := splitSign body
  let small := Text.asciiLower magnitude
  let word := String.ofList small
  if word = "inf" ∨ word = "infinity" then some (.infinite negative)
  else match Text.after? "nan".toList small with
    | some rest => (payload? rest).map (.nan negative false)
    | none => match Text.after? "snan".toList small with
      | some rest => (payload? rest).map (.nan negative true)
      | none => do
        let n ← Scientific.read? magnitude
        withinLimits? negative n.coefficient n.power

end Listing.Numeral
