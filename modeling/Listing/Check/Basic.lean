import Listing.Check.Issue
import Listing.Fault

/-!
# Checks that report every issue

A check passes with a value or fails with issues.  Checks of several parts are put together so that
the issues of all parts are reported, in the order of the parts.
-/

namespace Listing

/-- The result of checking some input. -/
inductive Check (α : Type) where
  | passed (a : α)
  | failed (issues : List Issue)

namespace Check

variable {α β : Type}

/-- A check that fails with one issue of the input itself. -/
def fail (rule : Rule) : Check α := failed [.here rule]

def issues : Check α → List Issue
  | passed _ => []
  | failed is => is

def map (f : α → β) : Check α → Check β
  | passed a => passed (f a)
  | failed is => failed is

/-- Two checks put together: both values, or the issues of both. -/
def and (f : Check (α → β)) (c : Unit → Check α) : Check β :=
  match f, c () with
  | passed g, passed a => passed (g a)
  | passed _, failed is => failed is
  | failed is, passed _ => failed is
  | failed is, failed js => failed (is ++ js)

instance : Applicative Check where
  pure := passed
  map := map
  seq := and

/-- A further check of a value that passed one. -/
def andThen (c : Check α) (f : α → Check β) : Check β :=
  match c with
  | passed a => f a
  | failed is => failed is

/-- The check of a part of the input. -/
def within (step : Step) : Check α → Check α
  | passed a => passed a
  | failed is => failed (is.map (Issue.within step))

/-- Checks of the members of a list, each placed at its position from a first one on. -/
def members (f : β → Check α) (position : Nat) : List β → Check (List α)
  | [] => passed []
  | b :: bs =>
    List.cons <$> (f b).within (.position position) <*> members f (position + 1) bs

/-- The value of a check, or the fault that a model's input breaks rules. -/
def outcome (model : String) : Check α → Outcome α
  | passed a => pure a
  | failed is => throw (.invalid model is)

/-- A check passes or has an issue of its own or of the check it is put together with. -/
@[simp] theorem issues_and (f : Check (α → β)) (c : Check α) :
    (f.and fun _ => c).issues = f.issues ++ c.issues := by
  cases f <;> cases c <;> simp [and, issues]

end Check

end Listing
