import Listing.Number.Numeral
import Listing.Text.Quoted

/-!
# Universally unique identifiers

An identifier is a number of 128 bits.  It is written with 32 hexadecimal digits in groups of
8, 4, 4, 4 and 12, and read generously: with any grouping, in braces, behind `urn:` and `uuid:`.
-/

namespace Listing

/-- A universally unique identifier. -/
structure Identifier where
  bits : BitVec 128
  deriving DecidableEq, Repr

namespace Identifier

def hexDigits (u : Identifier) : List Char := Text.hexDigits 32 u.bits.toNat

/-- The text of an identifier, its digits in groups. -/
def toText (u : Identifier) : String :=
  let h := u.hexDigits
  String.ofList (h.take 8 ++ '-' :: (h.drop 8).take 4 ++ '-' :: (h.drop 12).take 4 ++
    '-' :: (h.drop 16).take 4 ++ '-' :: h.drop 20)

def isBrace (c : Char) : Bool := c == '\x7b' || c == '\x7d'

/-- The identifier that a text names: marks, braces and hyphens are taken out, and what is left must
be 32 characters long and read as a hexadecimal number. -/
def ofText? (s : String) : Option Identifier :=
  let bare := Text.eraseAll "uuid:".toList (Text.eraseAll "urn:".toList s.toList)
  let digits := (Text.trimBoth isBrace bare).filter (· != '-')
  if digits.length = 32 then
    (Numeral.hex? digits).map fun n => ⟨BitVec.ofInt 128 n⟩
  else none

end Identifier

end Listing
