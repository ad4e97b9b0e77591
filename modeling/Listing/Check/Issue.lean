/-!
# What is wrong with a given field

An issue names a place in the input, as a path of names and positions, and the rule that was broken
there.
-/

namespace Listing

/-- A step of the way to a faulty part of the input. -/
inductive Step where
  | name (s : String)
  | position (n : Int)
  deriving DecidableEq, Repr

/-- The rules that input can break; a broken rule is named for what it asks. -/
inductive Rule where
  | missing
  | wantsText
  | wantsInteger
  | readsAsInteger
  | fitsIntegerSize
  | hasNoFraction
  | isFinite
  | isPositive
  | wantsList
  | wantsPair
  | pairIsShort
  | wantsMap
  | wantsSet
  | wantsOperator
  | wantsModel
  | isFrozen
  | isCriteria
  deriving DecidableEq, Repr

/-- A broken rule and its place. -/
structure Issue where
  place : List Step
  rule : Rule
  deriving DecidableEq, Repr

namespace Rule

/-- The name a rule is reported under. -/
def name : Rule → String
  | missing => "missing"
  | wantsText => "string_type"
  | wantsInteger => "int_type"
  | readsAsInteger => "int_parsing"
  | fitsIntegerSize => "int_parsing_size"
  | hasNoFraction => "int_from_float"
  | isFinite => "finite_number"
  | isPositive => "greater_than"
  | wantsList => "list_type"
  | wantsPair => "tuple_type"
  | pairIsShort => "too_long"
  | wantsMap => "dict_type"
  | wantsSet => "frozen_set_type"
  | wantsOperator => "enum"
  | wantsModel => "model_type"
  | isFrozen => "frozen_instance"
  | isCriteria => "value_error"

/-- The text that goes with a rule's name, where there is one. -/
def message? : Rule → Option String
  | isCriteria => some "where must be a Predicate, a column mapping or a sequence of those"
  | _ => none

end Rule

namespace Issue

/-- The issue seen from one step further out. -/
def within (step : Step) (i : Issue) : Issue := { i with place := step :: i.place }

/-- An issue of the value itself. -/
def here (rule : Rule) : Issue := ⟨[], rule⟩

end Issue

end Listing
