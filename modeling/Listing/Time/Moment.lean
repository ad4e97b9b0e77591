import Listing.Time.Date

/-!
# Moments: dates with a time of day

A moment may carry the offset of its clock from universal time.  Moments with an offset are ordered
by the instant they name; a moment without an offset names no instant and is ordered only against
others of its kind.
-/

namespace Listing

/-- A date with a time of day and, if known, the clock's offset in microseconds. -/
structure Moment where
  date : Date
  hour : Nat
  minute : Nat
  second : Nat
  micro : Nat
  offset : Option Int
  deriving DecidableEq, Repr

namespace Moment

def microsPerSecond : Int := 1000000

def seconds (m : Moment) : Int := (m.hour * 3600 + m.minute * 60 + m.second : Nat)

/-- Microseconds on the clock of universal time, or on the moment's own clock without an offset. -/
def instant (m : Moment) : Int :=
  ((m.date.dayNumber : Int) * 86400 + m.seconds) * microsPerSecond + m.micro - m.offset.getD 0

/-- Earlier moments come first; a moment with an offset and one without are not ordered. -/
def order? (a b : Moment) : Option Ordering :=
  if a.offset.isSome == b.offset.isSome then some (compare a.instant b.instant) else none

/-- Microseconds as a decimal fraction, left out when there are none. -/
def fractionDigits (micro : Nat) : List Char :=
  if micro = 0 then [] else '.' :: paddedDigits 6 micro

def clockDigits (m : Moment) : List Char :=
  paddedDigits 2 m.hour ++ ':' :: paddedDigits 2 m.minute ++ ':' :: paddedDigits 2 m.second ++
    fractionDigits m.micro

/-- An offset: sign, hours and minutes, then seconds if there are any. -/
def offsetDigits (offset : Int) : List Char :=
  let total := offset.natAbs
  let secs := total / 1000000
  let micro := total % 1000000
  (if offset < 0 then '-' else '+') :: paddedDigits 2 (secs / 3600) ++
    ':' :: paddedDigits 2 (secs / 60 % 60) ++
    (if secs % 60 = 0 && micro = 0 then []
     else ':' :: paddedDigits 2 (secs % 60) ++ fractionDigits micro)

/-- The text of a moment with a character between date and time. -/
def digits (separator : Char) (m : Moment) : List Char :=
  m.date.digits ++ separator :: m.clockDigits ++
    (match m.offset with
     | some offset => offsetDigits offset
     | none => [])

def toText (m : Moment) : String := String.ofList (m.digits 'T')

/-- The text of a moment with a space between date and time. -/
def spacedText (m : Moment) : String := String.ofList (m.digits ' ')

end Moment

end Listing
