import Listing.Number.Numeral

/-!
# Percent-encoded text

In the text of parameters a plus sign stands for a space and `%` with two hexadecimal digits for an
octet; other characters stand for themselves.  Octets in a row are read as UTF-8.  Octets that do
not make up a character are replaced by U+FFFD, one for each longest start of a character.
-/

namespace Listing.Percent

/-- A piece of encoded text: an octet or a character as it stands. -/
inductive Piece where
  | octet (n : Nat)
  | plain (c : Char)
  deriving DecidableEq, Repr

/-- The pieces of an encoded text; a percent sign without two hexadecimal digits is a character. -/
def pieces : List Char → List Piece
  | '%' :: a :: b :: rest =>
    if Numeral.isHexDigit a && Numeral.isHexDigit b then
      .octet (16 * Numeral.hexValue a + Numeral.hexValue b) :: pieces rest
    else .plain '%' :: pieces (a :: b :: rest)
  | c :: rest => .plain (if c == '+' then ' ' else c) :: pieces rest
  | [] => []

/-- The character that stands for octets that are none. -/
def replacement : Char := '\uFFFD'

/-- An unfinished character: how many octets are missing, the bits so far, and the range of the next
octet. -/
structure Pending where
  missing : Nat
  bits : Nat
  low : Nat
  high : Nat

/-- What the first octet of a character asks for: nothing more, or some following octets.  The range
of the second octet rules out surrogates, overlong forms and numbers beyond Unicode. -/
def start? (n : Nat) : Option (Char ⊕ Pending) :=
  if n < 0x80 then some (.inl (Char.ofNat n))
  -- octets that only continue a character, and those that would start an overlong form
  else if n < 0xC2 then none
  else if n < 0xE0 then some (.inr ⟨1, n - 0xC0, 0x80, 0xBF⟩)
  else if n < 0xF0 then
    some (.inr ⟨2, n - 0xE0, if n = 0xE0 then 0xA0 else 0x80, if n = 0xED then 0x9F else 0xBF⟩)
  else if n < 0xF5 then
    some (.inr ⟨3, n - 0xF0, if n = 0xF0 then 0x90 else 0x80, if n = 0xF4 then 0x8F else 0xBF⟩)
  else none

/-- Read an octet where a character may start. -/
def begin (n : Nat) : List Char × Option Pending :=
  match start? n with
  | none => ([replacement], none)
  | some (.inl c) => ([c], none)
  | some (.inr p) => ([], some p)

/-- Read an octet behind an unfinished character. -/
def resume (p : Pending) (n : Nat) : List Char × Option Pending :=
  if p.low ≤ n ∧ n ≤ p.high then
    let bits := 64 * p.bits + (n - 0x80)
    if p.missing ≤ 1 then ([Char.ofNat bits], none)
    else ([], some ⟨p.missing - 1, bits, 0x80, 0xBF⟩)
  else
    -- the octet that broke off the character may start the next one
    let (cs, next) := begin n
    (replacement :: cs, next)

/-- Read pieces behind an unfinished character, if there is one. -/
def decodeFrom : Option Pending → List Piece → List Char
  | none, [] => []
  | some _, [] => [replacement]
  | none, .plain c :: rest => c :: decodeFrom none rest
  | some _, .plain c :: rest => replacement :: c :: decodeFrom none rest
  | none, .octet n :: rest =>
    let (cs, next) := begin n
    cs ++ decodeFrom next rest
  | some p, .octet n :: rest =>
    let (cs, next) := resume p n
    cs ++ decodeFrom next rest

/-- The text that an encoded text stands for. -/
def decode (cs : List Char) : List Char := decodeFrom none (pieces cs)

end Listing.Percent
