import Listing.Text.Character

/-!
# Whole numbers

Their decimal digits, and the range of those that have 64 bits.  Main statement:
`ofDigits_natDigits`, the digits of a number read back as that number.
-/

namespace Listing

/-- The decimal digits of a natural number, without leading zeros. -/
def natDigits (n : Nat) : List Char := Nat.toDigits 10 n

def intDigits : Int → List Char
  | .ofNat n => natDigits n
  | .negSucc n => '-' :: natDigits (n + 1)

def intText (n : Int) : String := String.ofList (intDigits n)

def ofDigits (cs : List Char) : Nat := Nat.ofDigitChars 10 cs 0

def digitCount (n : Nat) : Nat := (natDigits n).length

/-- Zeros put in front until a text has the width asked for. -/
def padZeros (width : Nat) (cs : List Char) : List Char :=
  List.replicate (width - cs.length) '0' ++ cs

/-- A natural number with at least so many digits. -/
def paddedDigits (width n : Nat) : List Char := padZeros width (natDigits n)

theorem ofDigits_natDigits (n : Nat) : ofDigits (natDigits n) = n :=
  Nat.ofDigitChars_toDigits (by decide) (by decide)

def areDigits (cs : List Char) : Bool := !cs.isEmpty && cs.all Char.isDigit

/-! ## Integers of 64 bits -/

def minWord : Int := -9223372036854775808

def maxWord : Int := 9223372036854775807

/-- Whether an integer has 64 bits with a sign. -/
def fitsWord (n : Int) : Bool := minWord ≤ n && n ≤ maxWord

end Listing
