import Listing.Predicate

/-!
# Base criteria

The base criteria of a listing may be given as a predicate, as a mapping from columns to what they
must be, or as alternatives.  All entries of a mapping must hold, one alternative must; so an empty
mapping holds of everything and no alternatives hold of nothing.
-/

namespace Listing

/-- What a mapping asks of a column: a predicate of its own, to be absent, or to equal a value. -/
inductive Requirement where
  | predicate (p : Predicate)
  | absent
  | equals (v : Value)

/-- Base criteria as they are given.  Whatever is none of the three kinds is `other`. -/
inductive Criteria where
  | predicate (p : Predicate)
  | columns (entries : List (String × Requirement))
  | alternatives (members : List Criteria)
  | other

/-- The predicate of one entry of a mapping. -/
def Requirement.toPredicate (column : String) : Requirement → Predicate
  | predicate p => p
  | absent => .test column .isNull .null
  | equals v => .test column .eq v

namespace Criteria

mutual

/-- The predicate that criteria stand for, if all parts are of the three kinds. -/
def toPredicate? : Criteria → Option Predicate
  | predicate p => some p
  | columns entries => some (.all (entries.map fun e => e.2.toPredicate e.1))
  | alternatives members => (toPredicates? members).map .any
  | other => none
termination_by structural c => c

def toPredicates? : List Criteria → Option (List Predicate)
  | [] => some []
  | c :: cs => do
    let p ← toPredicate? c
    let ps ← toPredicates? cs
    return p :: ps
termination_by structural cs => cs

end

end Criteria

end Listing
