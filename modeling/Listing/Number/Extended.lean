import Listing.Number.Binary64

/-!
# Floating point numbers of extended precision

Positive numbers `significand · 2 ^ exponent` with a significand of 64 bits.  Exponents have no
bounds, so that only the significand is ever rounded.  Scaling such a number by powers of ten rounds
at every step: the outcome is close to the exact product, but need not be nearest to it.
-/

namespace Listing

/-- A positive floating point number with a significand of 64 bits. -/
structure Extended where
  significand : Nat
  exponent : Int
  deriving DecidableEq, Repr

namespace Extended

/-- The number nearest to a positive quotient, a tie going to the even significand. -/
def nearest (num den : Nat) : Extended :=
  let (m, e) := roundAt 64 num den (fullExponent 64 num den)
  ⟨m, e⟩

/-- The number nearest to a power of ten. -/
def powerOfTen (k : Int) : Extended :=
  let (num, den) := scaleBy 10 1 1 k
  nearest num den

def mul (x y : Extended) : Extended :=
  -- the exponents are added behind the rounding, as they do not change what is nearest
  let z := nearest (x.significand * y.significand) 1
  ⟨z.significand, z.exponent + x.exponent + y.exponent⟩

def lt (x y : Extended) : Bool :=
  x.exponent < y.exponent || (x.exponent == y.exponent && x.significand < y.significand)

/-- The number multiplied by `10 ^ k`: first by hundreds of powers, then by tens, then by single
ones, and rounded each time. -/
def scale (x : Extended) (k : Int) : Extended :=
  let steps (size count : Nat) (x : Extended) : Extended :=
    let factor := powerOfTen (if k < 0 then -(size : Int) else size)
    Nat.repeat (fun x => x.mul factor) count x
  let n := k.natAbs
  steps 1 (n % 10) (steps 10 (n % 100 / 10) (steps 100 (n / 100) x))

/-- The number multiplied by `10 ^ k` for as long as it meets a condition, together with a power of
ten that makes up for it.  The bound on the steps comes first. -/
def scaleWhile (p : Extended → Bool) (k : Int) : Nat → Extended × Int → Extended × Int
  | 0, s => s
  | fuel + 1, (x, power) =>
    if p x then scaleWhile p k fuel (x.mul (powerOfTen k), power - k) else (x, power)

def floor (x : Extended) : Nat :=
  let (num, den) := scaleBy 2 x.significand 1 x.exponent
  num / den

/-- The greatest finite number of 64 bits. -/
def greatestBinary64 : Extended := ⟨18446744073709549568, 960⟩

/-- The number rounded to 64 bits.  What lies beyond the finite numbers is infinite. -/
def toBinary64 (negative : Bool) (x : Extended) : Binary64 :=
  if greatestBinary64.lt x then .infinite negative
  else
    let (num, den) := scaleBy 2 x.significand 1 x.exponent
    Binary64.nearest negative num den

end Extended

end Listing
