import Listing.Number.Digits

/-!
# Calendar dates

Dates of the Gregorian calendar, extended backwards, of the years 1 to 9999.  `Date.dayNumber`
counts days from the first of January of year 1, which is day 1; weeks run from Monday, and week 1
of a year is the week with its first Thursday.
-/

namespace Listing

/-- A calendar date. -/
structure Date where
  year : Nat
  month : Nat
  day : Nat
  deriving DecidableEq, Repr

namespace Date

/-- Whether a year has 366 days. -/
def isLeap (year : Nat) : Bool := year % 4 = 0 && (year % 100 ≠ 0 || year % 400 = 0)

def monthLengths (year : Nat) : List Nat :=
  [31, if isLeap year then 29 else 28, 31, 30, 31, 30, 31, 31, 30, 31, 30, 31]

/-- How many days a month has; none outside a year's twelve months. -/
def monthLength (year month : Nat) : Nat :=
  if month = 0 then 0 else (monthLengths year)[month - 1]?.getD 0

def isValid (d : Date) : Bool :=
  1 ≤ d.year && d.year ≤ 9999 && 1 ≤ d.day && d.day ≤ monthLength d.year d.month

/-- The date with these numbers, if it exists. -/
def ofNumbers? (year month day : Nat) : Option Date :=
  let d : Date := ⟨year, month, day⟩
  if d.isValid then some d else none

/-- Days before the first of January of a year. -/
def daysBeforeYear (year : Nat) : Nat :=
  let y := year - 1
  365 * y + y / 4 - y / 100 + y / 400

/-- Days of a year before the first of a month. -/
def daysBeforeMonth (year month : Nat) : Nat :=
  ((monthLengths year).take (month - 1)).foldl (fun days length => days + length) 0

/-- The count of days up to a date. -/
def dayNumber (d : Date) : Nat :=
  daysBeforeYear d.year + daysBeforeMonth d.year d.month + d.day

/-- The month and day of a day of a year, counted from one, by taking off one month after the
other. -/
def monthAndDay (month : Nat) (day : Nat) : List Nat → Nat × Nat
  | [] => (month, day)
  | length :: rest => if day ≤ length then (month, day) else monthAndDay (month + 1) (day - length) rest

/-- The date of a day of a year, counted from one. -/
def ofYearDay (year day : Nat) : Date :=
  let (m, d) := monthAndDay 1 day (monthLengths year)
  ⟨year, m, d⟩

/-- The day of the week, Monday being 0. -/
def weekday (day : Nat) : Nat := (day + 6) % 7

/-- Whether a year has 53 weeks: it starts on a Thursday, or on a Wednesday and is a leap year. -/
def hasLongCount (year : Nat) : Bool :=
  let first := weekday (daysBeforeYear year + 1)
  first = 3 || (first = 2 && isLeap year)

/-- The Monday of week 1 of a year, as a count of days that may be zero or negative. -/
def firstMonday (year : Nat) : Int :=
  let january := daysBeforeYear year + 1
  let first := weekday january
  let monday : Int := (january : Int) - first
  if 3 < first then monday + 7 else monday

/-- The date of a day of a week of a year, if the week and the day exist and the date lies in the
years of the calendar. -/
def ofWeek? (year week day : Nat) : Option Date :=
  let weeks := if hasLongCount year then 53 else 52
  if year = 0 ∨ week = 0 ∨ weeks < week ∨ day = 0 ∨ 7 < day then none
  else
    let n := firstMonday year + (week - 1 : Nat) * 7 + (day - 1 : Nat)
    if n < 1 then none
    else
      let n := n.toNat
      let y :=
        if n ≤ daysBeforeYear year then year - 1
        else if daysBeforeYear (year + 1) < n then year + 1
        else year
      if 9999 < y then none else some (ofYearDay y (n - daysBeforeYear y))

def order (a b : Date) : Ordering :=
  (compare a.year b.year).then ((compare a.month b.month).then (compare a.day b.day))

/-- Year, month and day, joined by hyphens. -/
def digits (d : Date) : List Char :=
  paddedDigits 4 d.year ++ '-' :: paddedDigits 2 d.month ++ '-' :: paddedDigits 2 d.day

def toText (d : Date) : String := String.ofList d.digits

end Date

end Listing
