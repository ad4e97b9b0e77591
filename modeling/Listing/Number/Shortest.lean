import Listing.Number.Binary64

/-!
# Decimal texts of binary floating point numbers

`Binary64.shortest` finds the fewest digits that read back as the number, and of those the nearest
to it.  For one digit, two digits, … up to seventeen it looks at the two neighbours of the value on
that decimal grid; the first grid with a neighbour that reads back wins.

`FloatLayout` holds what a format decides beyond the digits: where positional writing ends, and
whether a lone digit before an exponent is followed by `.0`.
-/

namespace Listing

def atLeastPower (num den : Nat) (power : Int) : Bool :=
  let (n, d) := scaleBy 10 num den (-power)
  d ≤ n

/-- The place of the decimal point: the `k` with `10 ^ (k - 1) ≤ num / den < 10 ^ k`. -/
def pointPlace (num den : Nat) : Int :=
  -- the digits of both parts tell the place up to one
  let k : Int := (digitCount num : Int) - digitCount den
  if atLeastPower num den k then k + 1 else k

/-- Trailing zeros moved from a coefficient into the exponent; the number bounds the steps. -/
def stripZeros : Nat → Nat → Int → Nat × Int
  | 0, c, x => (c, x)
  | fuel + 1, c, x => if c ≠ 0 && c % 10 = 0 then stripZeros fuel (c / 10) (x + 1) else (c, x)

namespace Binary64

/-- Whether a decimal reads back as `significand · 2 ^ exponent`. -/
def readsBack (significand : Nat) (exponent : Int) (coefficient : Nat) (power : Int) : Bool :=
  ofDecimal false coefficient power == .finite false significand exponent

/-- The neighbour of the value on the grid of multiples of a power of ten that reads back, the
nearer one if both do. -/
def onGrid? (significand : Nat) (exponent : Int) (num den : Nat) (power : Int) :
    Option (Nat × Int) :=
  let (n, d) := scaleBy 10 num den (-power)
  let q := n / d
  let r := n % d
  let low := readsBack significand exponent q power
  let high := readsBack significand exponent (q + 1) power
  if low && (!high || 2 * r < d || (2 * r = d && q % 2 = 0)) then some (q, power)
  else if high then some (q + 1, power)
  else none

/-- The shortest decimal `coefficient · 10 ^ power` that reads back as a positive number. -/
def shortest (significand : Nat) (exponent : Int) : Nat × Int :=
  let (num, den) := quotient significand exponent
  let k := pointPlace num den
  match (List.range 17).findSome? fun (i : Nat) =>
      onGrid? significand exponent num den (k - ((i : Int) + 1)) with
  | some (c, x) => stripZeros 20 c x
  -- seventeen digits always read back, so this is not reached
  | none => (significand, exponent)

end Binary64

/-- How a format writes a floating point number once its digits are known. -/
structure FloatLayout where
  /-- The least decimal exponent that is written positionally. -/
  plainFrom : Int
  /-- The decimal exponent from which on an exponent is written. -/
  plainBelow : Int
  /-- Whether a lone digit before an exponent is followed by a point and a zero. -/
  pointBeforeExponent : Bool

/-- The digits `coefficient · 10 ^ power` as a text. -/
def FloatLayout.write (layout : FloatLayout) (coefficient : Nat) (power : Int) : List Char :=
  let digits := natDigits coefficient
  let place := power + digits.length
  let top := place - 1
  if layout.plainFrom ≤ top && top < layout.plainBelow then
    if place ≤ 0 then '0' :: '.' :: (List.replicate (-place).toNat '0' ++ digits)
    else if 0 ≤ power then digits ++ List.replicate power.toNat '0' ++ ['.', '0']
    else digits.take place.toNat ++ '.' :: digits.drop place.toNat
  else
    let fraction := digits.drop 1
    let mantissa := digits.take 1 ++
      (if fraction.isEmpty then (if layout.pointBeforeExponent then ['.', '0'] else [])
       else '.' :: fraction)
    mantissa ++ 'e' :: (if top < 0 then '-' else '+') :: paddedDigits 2 top.natAbs

namespace Binary64

/-- The sign that stands before a number. -/
def signed (negative : Bool) (cs : List Char) : List Char := if negative then '-' :: cs else cs

/-- Numbers in answers: positional from `1e-4` up to below `1e16`. -/
def layout : FloatLayout := ⟨-4, 16, false⟩

def digits : Binary64 → List Char
  | .nan => ['n', 'a', 'n']
  | .infinite negative => signed negative ['i', 'n', 'f']
  | .finite negative m e =>
    if m = 0 then signed negative ['0', '.', '0']
    else
      let (c, x) := shortest m e
      signed negative (layout.write c x)

def toText (x : Binary64) : String := String.ofList x.digits

end Binary64

end Listing
