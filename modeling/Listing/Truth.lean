/-!
# Three-valued truth

A comparison with a missing value is neither true nor false.  `Truth.all` and `Truth.any` are the
conjunction and disjunction of a list of truths, `Truth.not` is negation.  A definite answer of one
member decides a group even when another member is unknown.
-/

namespace Listing

/-- True, false or unknown. -/
inductive Truth where
  | yes
  | no
  | unknown
  deriving DecidableEq, Repr

namespace Truth

def ofBool (b : Bool) : Truth := if b then yes else no

/-- Negation; the unknown stays unknown. -/
def not : Truth → Truth
  | yes => no
  | no => yes
  | unknown => unknown

/-- Conjunction: one no decides, then one unknown; the empty conjunction is true. -/
def all (ts : List Truth) : Truth :=
  if ts.contains no then no else if ts.contains unknown then unknown else yes

/-- Disjunction: one yes decides, then one unknown; the empty disjunction is false. -/
def any (ts : List Truth) : Truth :=
  if ts.contains yes then yes else if ts.contains unknown then unknown else no

/-- Whether a truth is definitely true. -/
def holds (t : Truth) : Bool := t == yes

@[simp] theorem not_not (t : Truth) : t.not.not = t := by cases t <;> rfl

@[simp] theorem all_nil : all [] = yes := rfl

@[simp] theorem any_nil : any [] = no := rfl

/-- A conjunction of one member and the others. -/
theorem all_cons (t : Truth) (ts : List Truth) : all (t :: ts) = all [t, all ts] := by
  unfold all
  cases t <;> by_cases hn : ts.contains no <;> by_cases hu : ts.contains unknown <;> simp_all

theorem contains_map_not (t : Truth) (ts : List Truth) :
    (ts.map not).contains t = ts.contains t.not := by
  induction ts with
  | nil => rfl
  | cons u us ih =>
    rw [List.map_cons, List.contains_cons, List.contains_cons, ih]
    cases t <;> cases u <;> rfl

/-- The negation of a conjunction is the disjunction of the negations. -/
theorem not_all (ts : List Truth) : (all ts).not = any (ts.map not) := by
  unfold all any
  rw [contains_map_not, contains_map_not]
  change _ = if ts.contains no then yes else if ts.contains unknown then unknown else no
  split
  · rfl
  · split <;> rfl

end Truth

end Listing
