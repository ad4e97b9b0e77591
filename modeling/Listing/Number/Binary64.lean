import Listing.Number.Digits

/-!
# Binary floating point numbers of 64 bits

A finite number is `± significand · 2 ^ exponent` in its one canonical form: the significand is
below `2 ^ 53`, the exponent is at least `-1074`, and the significand is at least `2 ^ 52` unless
the exponent is `-1074`.  `Binary64.nearest` rounds an exact quotient of natural numbers to such a
number, a tie going to the even significand; every text that is read and every conversion goes
through it, so nothing rests on machine arithmetic.
-/

namespace Listing

/-- A binary floating point number of 64 bits. -/
inductive Binary64 where
  | nan
  | infinite (negative : Bool)
  | finite (negative : Bool) (significand : Nat) (exponent : Int)
  deriving DecidableEq, Repr

/-- A quotient rounded to the nearest natural number, a half going to the even one. -/
def roundHalfEven (num den : Nat) : Nat :=
  let q := num / den
  let r := num % den
  if 2 * r < den then q else if den < 2 * r then q + 1 else if q % 2 = 0 then q else q + 1

/-- A quotient times a power of a base, as numerator and denominator. -/
def scaleBy (base : Nat) (num den : Nat) : Int → Nat × Nat
  | .ofNat k => (num * Nat.pow base k, den)
  | .negSucc k => (num, den * Nat.pow base (k + 1))

/-- The exponent at which a positive quotient has a significand of so many bits. -/
def fullExponent (bits num den : Nat) : Int :=
  let e : Int := (num.log2 : Int) - den.log2 - (bits - 1 : Nat)
  let (n, d) := scaleBy 2 num den (-e)
  if n < d * Nat.pow 2 (bits - 1) then e - 1 else e

/-- A quotient rounded to a significand of at most so many bits at an exponent, or at the next one
if rounding adds a bit. -/
def roundAt (bits num den : Nat) (e : Int) : Nat × Int :=
  let (n, d) := scaleBy 2 num den (-e)
  let m := roundHalfEven n d
  if m = Nat.pow 2 bits then (Nat.pow 2 (bits - 1), e + 1) else (m, e)

namespace Binary64

def zero (negative : Bool) : Binary64 := .finite negative 0 (-1074)

/-- The number nearest to a quotient. -/
def nearest (negative : Bool) (num den : Nat) : Binary64 :=
  if num = 0 then zero negative
  else
    let (m, e) := roundAt 53 num den (max (fullExponent 53 num den) (-1074))
    if 971 < e then .infinite negative else .finite negative m e

/-- The number nearest to `coefficient · 10 ^ exponent`.  Exponents far outside the range of finite
numbers are decided without raising the power. -/
def ofDecimal (negative : Bool) (coefficient : Nat) (exponent : Int) : Binary64 :=
  let adjusted := exponent + digitCount coefficient
  if coefficient = 0 || adjusted < -330 then zero negative
  else if 310 < adjusted then .infinite negative
  else
    let (n, d) := scaleBy 10 coefficient 1 exponent
    nearest negative n d

/-- The value of `significand · 2 ^ exponent` as a quotient. -/
def quotient (significand : Nat) (exponent : Int) : Nat × Nat := scaleBy 2 significand 1 exponent

def whole? : Binary64 → Option Int
  | .finite negative m e =>
    let (n, d) := quotient m e
    if n % d = 0 then some (if negative then -((n / d : Nat) : Int) else ((n / d : Nat) : Int))
    else none
  | _ => none

end Binary64

end Listing
