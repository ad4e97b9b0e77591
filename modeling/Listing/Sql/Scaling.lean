import Listing.Number.Extended
import Listing.Number.Numeral
import Listing.Number.Shortest

/-!
# Decimal texts of real numbers in a database

A database does not look for the real number nearest to a text, nor for the nearest fifteen digits
of a number.  It reads the leading digits of a text, as many as 64 bits hold, and scales them in
extended precision; to write a number it scales it until it has eighteen or nineteen digits before
the point, and rounds those.  So `8614.99999999999909` reads as `8615`, and a text of many digits
may miss the nearest number by the last bit.
-/

namespace Listing.Sql.Scaling

/-! ## Reading -/

/-- A significand from which on no further digit is taken. -/
def fullFrom : Nat := 1844674407370955160

/-- A significand with further digits, while it is not full, and how many digits are left out. -/
def takeDigits (significand : Nat) : List Char → Nat × Nat
  | [] => (significand, 0)
  | c :: cs =>
    if significand < fullFrom then takeDigits (10 * significand + Text.digitValue c) cs
    else (significand, cs.length + 1)

/-- The exponent that some digits stand for; one that has passed ten thousand is cut to that by each
further digit. -/
def exponentOf (cs : List Char) : Nat :=
  cs.foldl (fun e c => if e < 10000 then 10 * e + Text.digitValue c else 10000) 0

/-- Powers of ten moved into a significand as long as there is room; their number comes first. -/
def fill : Nat → Nat → Nat × Int
  | 0, significand => (significand, 0)
  | k + 1, significand =>
    if significand ≤ fullFrom then fill k (10 * significand) else (significand, (k + 1 : Nat))

/-- A significand and a power of ten with the power as close to zero as it can be made. -/
def balance (significand : Nat) : Int → Nat × Int
  | .ofNat k => fill k significand
  | .negSucc k => stripZeros (k + 1) significand (.negSucc k)

/-- The real number that a number in digits is read as. -/
def read (negative : Bool) (n : Numeral.Scientific) : Binary64 :=
  let (whole, beyond) := takeDigits 0 n.whole
  let (significand, skipped) := takeDigits whole n.fraction
  if significand = 0 then .zero negative
  else
    -- digits before the point that were left out raise the power, those taken behind it lower it
    let shift : Int := (beyond : Int) - (n.fraction.length - skipped : Nat)
    let (significand, power) :=
      balance significand (Numeral.signed n.lowers (exponentOf n.exponent) + shift)
    -- without a power nothing is scaled, and the significand is rounded only once
    if power = 0 then .nearest negative significand 1
    else ((Extended.nearest significand 1).scale power).toBinary64 negative

/-! ## Writing -/

/-- How many steps of one size a number of 64 bits needs at most. -/
def maxSteps : Nat := 12

/-- A number scaled to eighteen or nineteen digits before the point, and the power of ten that makes
up for it. -/
def leading (x : Extended) : Extended × Int :=
  let below (power : Int) (x : Extended) : Bool := x.lt (.powerOfTen power)
  -- the steps shrink, so that a number ends up between the bounds from whichever side it comes
  if below 19 x then
    [(-97, 100), (7, 10), (17, 1)].foldl
      (fun s (bound, k) => Extended.scaleWhile (below bound) k maxSteps s) (x, 0)
  else
    [(119, -100), (29, -10), (19, -1)].foldl
      (fun s (bound, k) => Extended.scaleWhile (fun x => !below bound x) k maxSteps s) (x, 0)

/-- The digits that a positive number is written with, at most so many, a half going up. -/
def digits (atMost significand : Nat) (exponent : Int) : Nat × Int :=
  let (num, den) := Binary64.quotient significand exponent
  let (x, power) := leading (.nearest num den)
  let n := x.floor
  let dropped := digitCount n - atMost
  let unit := Nat.pow 10 dropped
  -- unlike everywhere else, a half goes up whatever the digit in front of it
  stripZeros 20 ((2 * n + unit) / (2 * unit)) (power + dropped)

end Listing.Sql.Scaling
