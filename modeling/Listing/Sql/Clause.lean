import Listing.Fault
import Listing.Sql.Table

/-!
# Clauses

A clause is what a condition becomes for the database.  Negation goes into a single test and stays
outside a group.  Groups leave out constants that decide nothing; a constant that is left alone in a
group stays as a group of its own, and a group inside a group of its own kind is merged with it.

The parameters of tests are of any type: values when a clause is written, cells when it is run.
-/

namespace Listing.Sql

/-- A comparison of a column with a parameter. -/
inductive Relation where
  | eq
  | ne
  | lt
  | le
  | gt
  | ge
  deriving DecidableEq, Repr

namespace Relation

/-- The comparison that holds just when another does not. -/
def negate : Relation → Relation
  | eq => ne
  | ne => eq
  | lt => ge
  | le => gt
  | gt => le
  | ge => lt

def sign : Relation → String
  | eq => "="
  | ne => "!="
  | lt => "<"
  | le => "<="
  | gt => ">"
  | ge => ">="

def accepts : Relation → Ordering → Bool
  | eq, o => o == .eq
  | ne, o => o != .eq
  | lt, o => o == .lt
  | le, o => o != .gt
  | gt, o => o == .gt
  | ge, o => o != .lt

@[simp] theorem negate_negate (r : Relation) : r.negate.negate = r := by cases r <;> rfl

theorem accepts_negate (r : Relation) (o : Ordering) : r.negate.accepts o = !r.accepts o := by
  cases r <;> cases o <;> rfl

end Relation

/-- A test of one column. -/
inductive Test (ν : Type) where
  /-- Compare the column with a parameter. -/
  | compare (column : Column) (relation : Relation) (v : ν)
  /-- Compare the column with true or false. -/
  | flag (column : Column) (negated b : Bool)
  /-- Whether the column has no value. -/
  | null (column : Column) (negated : Bool)
  /-- Whether the column has one of some values. -/
  | oneOf (column : Column) (negated : Bool) (vs : List ν)
  /-- Whether the column's text, in small letters, is like a pattern. -/
  | like (column : Column) (negated : Bool) (pattern : String)
  deriving Repr

/-- The test that holds just when another does not. -/
def Test.negate {ν : Type} : Test ν → Test ν
  | compare c r v => compare c r.negate v
  | flag c negated b => flag c (!negated) b
  | null c negated => null c (!negated)
  | oneOf c negated vs => oneOf c (!negated) vs
  | like c negated pattern => like c (!negated) pattern

@[simp] theorem Test.negate_negate {ν : Type} (t : Test ν) : t.negate.negate = t := by
  cases t <;> simp [negate]

/-- Change the parameters of a test one by one, from left to right. -/
def Test.traverse {α β : Type} (f : α → Outcome β) : Test α → Outcome (Test β)
  | compare c r v => return compare c r (← f v)
  | flag c negated b => pure (flag c negated b)
  | null c negated => pure (null c negated)
  | oneOf c negated vs => return oneOf c negated (← vs.mapM f)
  | like c negated pattern => pure (like c negated pattern)

/-- A clause. -/
inductive Clause (ν : Type) where
  /-- True or false. -/
  | constant (b : Bool)
  /-- A group of which true or false is the only member. -/
  | lone (b : Bool)
  /-- A test of one column. -/
  | test (t : Test ν)
  /-- A group of which all members must hold. -/
  | all (members : List (Clause ν))
  /-- A group of which one member must hold. -/
  | any (members : List (Clause ν))
  /-- The negation of a group. -/
  | negation (inner : Clause ν)
  deriving Repr

namespace Clause

variable {ν : Type}

/-- The members of a conjunction, or the clause itself. -/
def conjuncts : Clause ν → List (Clause ν)
  | all members => members
  | c => [c]

/-- The members of a disjunction, or the clause itself. -/
def disjuncts : Clause ν → List (Clause ν)
  | any members => members
  | c => [c]

/-- Whether a clause is a given constant. -/
def isConstant (b : Bool) : Clause ν → Bool
  | constant d => d == b
  | _ => false

/-- A group of clauses.  The constant `neutral` is left out of it, the other one decides it; `build`
makes a group of several members, and `parts` merges members of the group's own kind. -/
def group (neutral : Bool) (build : List (Clause ν) → Clause ν) (parts : Clause ν → List (Clause ν))
    (cs : List (Clause ν)) : Clause ν :=
  -- a deciding constant is alone whatever else there is; a single member stands for the group
  if cs.any (isConstant !neutral) then lone !neutral
  else
    match cs.filter fun c => !c.isConstant neutral with
    | [] => lone neutral
    | [c] => c
    | kept => build (kept.flatMap parts)

/-- The conjunction of some clauses. -/
def conjunction (cs : List (Clause ν)) : Clause ν := group true all conjuncts cs

/-- The disjunction of some clauses. -/
def disjunction (cs : List (Clause ν)) : Clause ν := group false any disjuncts cs

/-- The negation of a clause. -/
def negate : Clause ν → Clause ν
  | constant b => constant !b
  | lone b => constant !b
  | test t => test t.negate
  | c => negation c

variable {α β : Type}

mutual

/-- Change the tests of a clause one by one, from left to right. -/
def traverse (f : Test α → Outcome (Test β)) : Clause α → Outcome (Clause β)
  | constant b => pure (constant b)
  | lone b => pure (lone b)
  | test t => return test (← f t)
  | all members => return all (← traverseMembers f members)
  | any members => return any (← traverseMembers f members)
  | negation inner => return negation (← traverse f inner)
termination_by structural c => c

def traverseMembers (f : Test α → Outcome (Test β)) : List (Clause α) → Outcome (List (Clause β))
  | [] => pure []
  | c :: cs => do
    let d ← traverse f c
    let ds ← traverseMembers f cs
    return d :: ds
termination_by structural cs => cs

end

end Clause

end Listing.Sql
