import Listing.Time.Moment

/-!
# Reading dates and moments

A date is written `YYYY-MM-DD` or by week, `YYYY-Www` or `YYYY-Www-D`, with all its hyphens or with
none.  A moment is such a date, alone or followed by one character of any kind and a time of day;
the time has two digits each for hours, minutes and seconds, later parts optional, with colons or
without, a decimal fraction behind any of them, and an offset `Z`, `+hh:mm` or `-hh:mm` at the end.

Three liberties are part of the format: digits of the fraction beyond the sixth are dropped; one
ASCII character, or anything behind six digits of fraction, may stand before an offset; and a text
of ten octets may carry two more behind a date without hyphens.
-/

namespace Listing.Time

/-- A number of exactly so many ASCII digits at the start of a text. -/
def fixed? (width : Nat) (cs : List Char) : Option (Nat × List Char) :=
  let ds := cs.take width
  if ds.length = width ∧ ds.all Char.isDigit then some (ofDigits ds, cs.drop width) else none

/-- The rest of a text behind a hyphen, where one is due. -/
def hyphen? (due : Bool) (cs : List Char) : Option (List Char) :=
  if due then
    match cs with
    | '-' :: rest => some rest
    | _ => none
  else some cs

/-- The rest of a date behind the year, when it names a month and a day.  What stands behind the day
does not matter. -/
def monthDate? (year : Nat) (hyphens : Bool) (cs : List Char) : Option Date := do
  let (month, cs) ← fixed? 2 cs
  let cs ← hyphen? hyphens cs
  let (day, _) ← fixed? 2 cs
  Date.ofNumbers? year month day

/-- The rest of a date behind the letter `W`: a week, and a day of it or, if the text ends there, its
Monday.  What stands behind the day does not matter. -/
def weekDate? (year : Nat) (hyphens : Bool) (cs : List Char) : Option Date := do
  let (week, cs) ← fixed? 2 cs
  if cs.isEmpty then Date.ofWeek? year week 1
  else
    let cs ← hyphen? hyphens cs
    let (day, _) ← fixed? 1 cs
    Date.ofWeek? year week day

/-- The date at the start of a text. -/
def leadingDate? (cs : List Char) : Option Date := do
  let (year, cs) ← fixed? 4 cs
  let (hyphens, cs) := match cs with
    | '-' :: rest => (true, rest)
    | cs => (false, cs)
  match cs with
  | 'W' :: rest => weekDate? year hyphens rest
  | cs => monthDate? year hyphens cs

/-- A date.  A text is taken for one by its size, and then read from the start. -/
def date? (s : String) : Option Date :=
  if s.utf8ByteSize = 7 ∨ s.utf8ByteSize = 8 ∨ s.utf8ByteSize = 10 then leadingDate? s.toList
  else none

/-- A time of day, or the amount of an offset. -/
structure Clock where
  hour : Nat
  minute : Nat
  second : Nat
  micro : Nat

/-- Whether a character is the single ASCII character left of a text. -/
def isLast (c : Char) (rest : List Char) : Bool := rest.isEmpty && c.toNat < 128

/-- What a single left-over character means: the end mark counts as nothing left over. -/
def leftOver (c : Char) : Bool := c.toNat ≠ 0

/-- A decimal fraction of a second, and whether something is left over behind its digits. -/
def fraction? (clock : Clock) (cs : List Char) : Option (Clock × Bool) := do
  let width := min 6 cs.length
  let (n, rest) ← fixed? width cs
  let left := match rest.dropWhile Char.isDigit with
    | [] => false
    | c :: _ => leftOver c
  if width = 0 then none else some ({ clock with micro := n * Nat.pow 10 (6 - width) }, left)

/-- What follows the seconds. -/
def afterSeconds? (clock : Clock) (colons : Bool) : List Char → Option (Clock × Bool)
  | [] => some (clock, false)
  | c :: rest =>
    if isLast c rest then some (clock, leftOver c)
    else if (colons && c == ':') || c == '.' || c == ',' then fraction? clock rest
    else if colons then none
    else fraction? clock (c :: rest)

/-- What follows the minutes. -/
def afterMinutes? (clock : Clock) (colons : Bool) : List Char → Option (Clock × Bool)
  | [] => some (clock, false)
  | c :: rest =>
    let continued (cs : List Char) : Option (Clock × Bool) := do
      let (n, cs) ← fixed? 2 cs
      afterSeconds? { clock with second := n } colons cs
    if isLast c rest then some (clock, leftOver c)
    else if colons && c == ':' then continued rest
    else if c == '.' || c == ',' then fraction? clock rest
    else if colons then none
    else continued (c :: rest)

/-- A time of day, and whether something is left over behind it.  The first separator decides
whether colons are used. -/
def clock? (cs : List Char) : Option (Clock × Bool) := do
  let (hour, cs) ← fixed? 2 cs
  let clock : Clock := ⟨hour, 0, 0, 0⟩
  match cs with
  | [] => some (clock, false)
  | c :: rest =>
    let colons := c == ':'
    let continued (cs : List Char) : Option (Clock × Bool) := do
      let (n, cs) ← fixed? 2 cs
      afterMinutes? { clock with minute := n } colons cs
    if isLast c rest then some (clock, leftOver c)
    else if colons then continued rest
    else if c == '.' || c == ',' then fraction? clock rest
    else continued (c :: rest)

/-- Whether a character opens an offset. -/
def opensOffset (c : Char) : Bool := c == '+' || c == '-' || c == 'Z'

/-- The amount of an offset in microseconds; whole seconds of zero are universal time. -/
def offsetAmount? (negative : Bool) (c : Clock) : Option Int :=
  let secs : Int := (c.hour * 3600 + c.minute * 60 + c.second : Nat)
  let micros := secs * 1000000 + c.micro
  -- a fraction alone does not count, so such an offset is that of universal time
  if secs = 0 then some 0
  else if micros < 86400 * 1000000 then some (if negative then -micros else micros)
  else none

/-- A time of day with an optional offset. -/
def timeOfDay? (cs : List Char) : Option (Clock × Option Int) := do
  let (clock, left) ← clock? (cs.takeWhile (!opensOffset ·))
  match cs.dropWhile (!opensOffset ·) with
  | [] => if left then none else some (clock, none)
  | 'Z' :: rest =>
    match rest with
    | [] => some (clock, some 0)
    | c :: _ => if leftOver c then none else some (clock, some 0)
  | sign :: rest => do
    let (amount, left) ← clock? rest
    let offset ← offsetAmount? (sign == '-') amount
    if left then none else some (clock, some offset)

/-- Where the date of a moment ends.  A hyphen behind a week may belong to the date or part it from
the time; two digits after it are read as a time. -/
def dateLength? (cs : List Char) : Option Nat :=
  let n := cs.length
  let digitAt (i : Nat) : Bool := (cs[i]?.map Char.isDigit).getD false
  if n < 7 then none
  else if n = 7 then some 7
  else if cs[4]? = some '-' then
    if cs[5]? = some 'W' then
      if cs[8]? = some '-' then
        if n = 9 then none else if digitAt 10 then some 8 else some 10
      else some 8
    else some 10
  else if cs[4]? = some 'W' then
    -- without hyphens the number of digits tells whether the week has a day behind it
    let run := 7 + ((cs.drop 7).takeWhile Char.isDigit).length
    if run < 9 then some run else if run % 2 = 0 then some 7 else some 8
  else some 8

/-- A date and a time put together, if the time exists. -/
def join? (date : Date) (clock : Clock) (offset : Option Int) : Option Moment :=
  if clock.hour < 24 ∧ clock.minute < 60 ∧ clock.second < 60 then
    some ⟨date, clock.hour, clock.minute, clock.second, clock.micro, offset⟩
  else none

/-- A moment. -/
def moment? (cs : List Char) : Option Moment := do
  let width ← dateLength? cs
  let date ← leadingDate? (cs.take width)
  match cs.drop width with
  | [] => join? date ⟨0, 0, 0, 0⟩ none
  | _ :: time =>
    let (clock, offset) ← timeOfDay? time
    join? date clock offset

end Listing.Time
