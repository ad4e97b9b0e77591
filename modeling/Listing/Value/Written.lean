import Listing.Value.Basic

/-!
# Values as text

A value has two texts.  `Value.written` is its written form, which shows its kind: texts are quoted,
decimals, identifiers, dates and moments name their kind, and the members of lists, tuples and maps
are in their written form.  `Value.shown` is the plain text of a scalar; values with parts are shown
in their written form.  A whole number of too many digits cannot be written (`Value.isWritable`).
-/

namespace Listing

/-- Numbers between commas. -/
def commaSeparated (ns : List Nat) : String :=
  Text.joinWith ", " (ns.map fun (n : Nat) => intText n)

def Date.written (d : Date) : String :=
  "datetime.date(" ++ commaSeparated [d.year, d.month, d.day] ++ ")"

/-- The written form of a clock's offset: whole days, then seconds, then microseconds, of which only
the days may be negative.  No offset at all from universal time has a name of its own. -/
def Moment.writtenOffset (offset : Int) : String :=
  if offset = 0 then "datetime.timezone.utc"
  else
    let day : Int := 86400 * microsPerSecond
    let rest := offset.fmod day
    let parts := [("days", offset.fdiv day), ("seconds", rest / microsPerSecond),
      ("microseconds", rest % microsPerSecond)]
    let texts := (parts.filter fun p => p.2 ≠ 0).map fun p => p.1 ++ "=" ++ intText p.2
    "datetime.timezone(datetime.timedelta(" ++ Text.joinWith ", " texts ++ "))"

/-- The written form of a moment; seconds and microseconds are left out when they are zero. -/
def Moment.written (m : Moment) : String :=
  let small := if m.micro ≠ 0 then [m.second, m.micro] else if m.second ≠ 0 then [m.second] else []
  let numbers := [m.date.year, m.date.month, m.date.day, m.hour, m.minute] ++ small
  let zone := match m.offset with
    | some offset => ", tzinfo=" ++ writtenOffset offset
    | none => ""
  "datetime.datetime(" ++ commaSeparated numbers ++ zone ++ ")"

/-- The name of an operator in messages. -/
def Operator.shown (o : Operator) : String := "FilterOperator." ++ o.label

namespace Value

def boolText (b : Bool) : String := if b then "True" else "False"

/-- The written form of a value without parts. -/
def writtenScalar : Value → String
  | null => "None"
  | bool b => boolText b
  | int n => intText n
  | float x => x.toText
  | decimal d => "Decimal(" ++ Text.quoted d.toText ++ ")"
  | text s => Text.quoted s
  | symbol o => "<" ++ o.shown ++ ": " ++ Text.quoted o.symbol ++ ">"
  | uuid u => "UUID(" ++ Text.quoted u.toText ++ ")"
  | date d => d.written
  | moment m => m.written
  | _ => "<item>"

/-- A text in round brackets, with a comma behind a single member. -/
def inBrackets : List String → String
  | [one] => "(" ++ one ++ ",)"
  | parts => "(" ++ Text.joinWith ", " parts ++ ")"

mutual

/-- The written form of a value. -/
def written : Value → String
  | list xs => "[" ++ Text.joinWith ", " (writtenAll xs) ++ "]"
  | tuple xs => inBrackets (writtenAll xs)
  | map es => "\x7b" ++ Text.joinWith ", " (writtenEntries es) ++ "\x7d"
  | v => writtenScalar v
termination_by structural v => v

def writtenAll : List Value → List String
  | [] => []
  | x :: xs => written x :: writtenAll xs
termination_by structural xs => xs

/-- The written forms of the entries of a map. -/
def writtenEntries : List (Value × Value) → List String
  | [] => []
  | (k, v) :: es => (written k ++ ": " ++ written v) :: writtenEntries es
termination_by structural es => es

end

mutual

/-- Whether a value can be written: no whole number in it has more digits than are read back. -/
def isWritable : Value → Bool
  | int n => decide (n.natAbs < Nat.pow 10 Numeral.maxDigits)
  | list xs => areWritable xs
  | tuple xs => areWritable xs
  | map es => areWritableEntries es
  | _ => true
termination_by structural v => v

def areWritable : List Value → Bool
  | [] => true
  | x :: xs => isWritable x && areWritable xs
termination_by structural xs => xs

/-- Whether the keys and values of a map can be written. -/
def areWritableEntries : List (Value × Value) → Bool
  | [] => true
  | (k, v) :: es => isWritable k && isWritable v && areWritableEntries es
termination_by structural es => es

end

/-- The plain text of a value. -/
def shown : Value → String
  | text s => s
  | symbol o => o.shown
  | decimal d => d.toText
  | uuid u => u.toText
  | date d => d.toText
  | moment m => m.spacedText
  | v => v.written

end Value

end Listing
