import Listing.Number.Shortest

/-!
# Decimal floating point numbers

A finite decimal keeps its sign, its coefficient and its exponent, so `2.50` and `2.5` are equal
numbers with different texts.  Not-a-number comes quiet or signalling and may carry digits.
-/

namespace Listing

/-- A decimal floating point number. -/
inductive Decimal where
  | finite (negative : Bool) (coefficient : Nat) (exponent : Int)
  | infinite (negative : Bool)
  | nan (negative signalling : Bool) (payload : Nat)
  deriving DecidableEq, Repr

/-- Compare `a · 10 ^ x` with `b · 10 ^ y`.  The places of the leading digits are compared first, so
that coefficients are aligned only when the exponents are close. -/
def compareScaled (a : Nat) (x : Int) (b : Nat) (y : Int) : Ordering :=
  if a = 0 ∨ b = 0 then compare a b
  else
    let p := x + digitCount a
    let q := y + digitCount b
    if p ≠ q then compare p q
    else if y ≤ x then compare (a * Nat.pow 10 (x - y).toNat) b
    else compare a (b * Nat.pow 10 (y - x).toNat)

/-- Compare two numbers given by sign and scaled magnitude; zeros of either sign are equal. -/
def compareSigned (m : Bool) (a : Nat) (x : Int) (n : Bool) (b : Nat) (y : Int) : Ordering :=
  match m && a != 0, n && b != 0 with
  | false, false => compareScaled a x b y
  | true, true => compareScaled b y a x
  | true, false => .lt
  | false, true => .gt

namespace Decimal

def ofInt (n : Int) : Decimal := .finite (n < 0) n.natAbs 0

/-- A binary number as the decimal of the same value; the sign of zero is kept. -/
def ofBinary : Binary64 → Decimal
  | .nan => .nan false false 0
  | .infinite negative => .infinite negative
  | .finite negative m (.ofNat k) => .finite negative (m * Nat.pow 2 k) 0
  | .finite negative m (.negSucc k) => .finite negative (m * Nat.pow 5 (k + 1)) (.negSucc k)

/-- The binary number nearest to a decimal. -/
def toBinary : Decimal → Binary64
  | .nan .. => .nan
  | .infinite negative => .infinite negative
  | .finite negative c x => Binary64.ofDecimal negative c x

def isNan : Decimal → Bool
  | .nan .. => true
  | _ => false

def isSignalling : Decimal → Bool
  | .nan _ signalling _ => signalling
  | _ => false

/-- The order of two decimals by value; `none` when one is not-a-number. -/
def order : Decimal → Decimal → Option Ordering
  | .nan .., _ => none
  | _, .nan .. => none
  | .infinite m, .infinite n => some (compare n m)
  | .infinite m, .finite .. => some (if m then .lt else .gt)
  | .finite .., .infinite n => some (if n then .gt else .lt)
  | .finite m a x, .finite n b y => some (compareSigned m a x n b y)

def whole? : Decimal → Option Int
  | .finite negative c x =>
    let signed (n : Nat) : Int := if negative then -(n : Int) else n
    if c = 0 then some 0
    else match x with
      | .ofNat k => some (signed (c * Nat.pow 10 k))
      | .negSucc k =>
        if digitCount c ≤ k + 1 then none
        else
          let unit := Nat.pow 10 (k + 1)
          if c % unit = 0 then some (signed (c / unit)) else none
  | _ => none

/-- The text of a finite magnitude: an exponent is written when it is positive or the number is
below `1e-6`. -/
def magnitudeDigits (coefficient : Nat) (exponent : Int) : List Char :=
  let digits := natDigits coefficient
  let place := exponent + digits.length
  let point := if exponent ≤ 0 && -6 < place then place else 1
  let body :=
    if point ≤ 0 then '0' :: '.' :: (List.replicate (-point).toNat '0' ++ digits)
    else if (digits.length : Int) ≤ point then digits
    else digits.take point.toNat ++ '.' :: digits.drop point.toNat
  if place = point then body
  else body ++ 'E' :: (if place < point then '-' else '+') :: natDigits (place - point).natAbs

def digits : Decimal → List Char
  | .finite negative c x => Binary64.signed negative (magnitudeDigits c x)
  | .infinite negative => Binary64.signed negative "Infinity".toList
  | .nan negative signalling payload =>
    Binary64.signed negative
      ((if signalling then "sNaN".toList else "NaN".toList) ++
        (if payload = 0 then [] else natDigits payload))

def toText (d : Decimal) : String := String.ofList d.digits

end Decimal

end Listing
