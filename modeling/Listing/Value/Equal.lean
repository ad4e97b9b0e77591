import Listing.Fault

/-!
# Equality and order of values

Numbers of all kinds are compared by their exact value, and a truth counts as one or zero.  Values
of unrelated kinds are different and have no order.  A decimal that is a signalling not-a-number
cannot be compared at all, any decimal not-a-number cannot be ordered, and asking for it is a
fault; a binary not-a-number is different from everything and orders with nothing.
-/

namespace Listing

/-- A value taken as a number. -/
inductive Numeric where
  | whole (n : Int)
  | binary (x : Binary64)
  | decimal (d : Decimal)

namespace Numeric

def toDecimal : Numeric → Decimal
  | whole n => .ofInt n
  | binary x => .ofBinary x
  | decimal d => d

def isDecimal : Numeric → Bool
  | decimal _ => true
  | _ => false

/-- The order of two numbers by value; `none` when one is not-a-number. -/
def order : Numeric → Numeric → Option Ordering
  | whole m, whole n => some (compare m n)
  | a, b => a.toDecimal.order b.toDecimal

/-- Whether two numbers are equal. -/
def equal (a b : Numeric) : Outcome Bool :=
  if a.toDecimal.isSignalling || b.toDecimal.isSignalling then throw .notANumber
  else pure (order a b == some .eq)

/-- The order of two numbers, if they have one. -/
def order? (a b : Numeric) : Outcome (Option Ordering) :=
  match order a b with
  | some o => pure (some o)
  | none => if a.isDecimal || b.isDecimal then throw .notANumber else pure none

end Numeric

namespace Value

/-- The number that a value is, a truth being one or zero. -/
def numeric? : Value → Option Numeric
  | bool b => some (.whole (if b then 1 else 0))
  | int n => some (.whole n)
  | float x => some (.binary x)
  | decimal d => some (.decimal d)
  | _ => none

/-- Equality of two values without parts. -/
def equalScalars (a b : Value) : Outcome Bool :=
  match a.numeric?, b.numeric? with
  | some m, some n => m.equal n
  | _, _ =>
    match a, b with
    | null, null => pure true
    | uuid u, uuid v => pure (u == v)
    | date d, date e => pure (d == e)
    -- a moment with an offset and one without are different, not at fault
    | moment m, moment n => pure (m.order? n == some .eq)
    | _, _ =>
      match a.asText?, b.asText? with
      | some s, some t => pure (s == t)
      | _, _ => pure false

/-- Whether the first entry whose key passes one test has a value that passes another. -/
def passesAt (isKey isValue : Value → Outcome Bool) : List (Value × Value) → Outcome Bool
  | [] => pure false
  | (k, v) :: entries => do
    if ← isKey k then isValue v else passesAt isKey isValue entries

mutual

/-- Whether two values are equal.  Lists of different lengths are told apart before their members
are looked at; the entries of maps are found by key, whatever their order. -/
def equal : Value → Value → Outcome Bool
  | list xs, b =>
    match b with
    | list ys => if xs.length = ys.length then equalAll xs ys else pure false
    | _ => pure false
  | tuple xs, b =>
    match b with
    | tuple ys => equalAll xs ys
    | _ => pure false
  | map es, b =>
    match b with
    | map fs => if es.length = fs.length then equalEntries es fs else pure false
    | _ => pure false
  | a, b => equalScalars a b
termination_by structural a => a

/-- Whether two sequences are equal, member by member. -/
def equalAll : List Value → List Value → Outcome Bool
  | [], ys => pure ys.isEmpty
  | x :: xs, ys =>
    match ys with
    | [] => pure false
    | y :: ys => do if ← equal x y then equalAll xs ys else pure false
termination_by structural xs => xs

/-- Whether each entry of a map has an equal one among the entries of another map. -/
def equalEntries : List (Value × Value) → List (Value × Value) → Outcome Bool
  | [], _ => pure true
  | (k, v) :: es, fs => do
    if ← passesAt (equal k) (equal v) fs then equalEntries es fs else pure false
termination_by structural es => es

end

/-- The order of two values without parts, if they have one. -/
def orderScalars (a b : Value) : Outcome (Option Ordering) :=
  match a.numeric?, b.numeric? with
  | some m, some n => m.order? n
  | _, _ =>
    match a, b with
    | uuid u, uuid v => pure (some (compare u.bits.toNat v.bits.toNat))
    | date d, date e => pure (some (d.order e))
    | moment m, moment n =>
      match m.order? n with
      | some o => pure (some o)
      | none => throw .incompatible
    | _, _ =>
      match a.asText?, b.asText? with
      | some s, some t => pure (some (compare s t))
      | _, _ => throw .incompatible

mutual

/-- The order of two values: a fault if they are not made to be compared, `none` if one is a binary
not-a-number.  The first pair of members that differ orders two sequences. -/
def order? : Value → Value → Outcome (Option Ordering)
  | list xs, b =>
    match b with
    | list ys => orderAll xs ys
    | _ => throw .incompatible
  | tuple xs, b =>
    match b with
    | tuple ys => orderAll xs ys
    | _ => throw .incompatible
  | a, b => orderScalars a b
termination_by structural a => a

/-- The order of two sequences. -/
def orderAll : List Value → List Value → Outcome (Option Ordering)
  | [], ys => pure (some (if ys.isEmpty then .eq else .lt))
  | x :: xs, ys =>
    match ys with
    | [] => pure (some .gt)
    | y :: ys => do if ← equal x y then orderAll xs ys else order? x y
termination_by structural xs => xs

end

/-- A map with the value under a key replaced, or a new entry at its end. -/
def put (entries : List (Value × Value)) (key value : Value) : Outcome (List (Value × Value)) :=
  match entries with
  | [] => pure [(key, value)]
  | (k, v) :: rest => do
    if ← equal k key then pure ((k, value) :: rest)
    else pure ((k, v) :: (← put rest key value))

mutual

/-- Whether a value can be a key of a map: only values that never change can. -/
def isKey : Value → Bool
  | list _ => false
  | map _ => false
  | tuple xs => areKeys xs
  | decimal d => !d.isSignalling
  | _ => true
termination_by structural v => v

/-- Whether all of some values can be keys of a map. -/
def areKeys : List Value → Bool
  | [] => true
  | x :: xs => isKey x && areKeys xs
termination_by structural xs => xs

end

/-- The map of some entries: a repeated key keeps its first place and takes its last value. -/
def ofEntries (entries : List (Value × Value)) : Outcome Value := do
  if entries.any fun e => !e.1.isKey then throw .incompatible
  return map (← entries.foldlM (fun es e => put es e.1 e.2) [])

end Value

end Listing
