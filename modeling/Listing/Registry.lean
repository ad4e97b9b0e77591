import Listing.Operator

/-!
# Registries of operations

An executor keeps one operation for each comparator it supports.  Registering an operation replaces
the one its comparator had and touches no other; `Registry.find?_register` is that law.
-/

namespace Listing

/-- Operations that know the comparator they carry out. -/
class Comparing (ω : Type) where
  /-- The comparator of an operation. -/
  comparator : ω → Comparator

/-- The operation of each comparator, where there is one. -/
structure Registry (ω : Type) where
  /-- The operation of a comparator. -/
  find? : Comparator → Option ω

namespace Registry

variable {ω : Type}

def empty : Registry ω := ⟨fun _ => none⟩

variable [Comparing ω]

def register (r : Registry ω) (o : ω) : Registry ω :=
  ⟨fun c => if c = Comparing.comparator o then some o else r.find? c⟩

def registerAll (r : Registry ω) (os : List ω) : Registry ω := os.foldl register r

/-- The registry of some operations. -/
def ofList (os : List ω) : Registry ω := empty.registerAll os

omit [Comparing ω] in
/-- The symbols with an operation, in the order of their characters. -/
def symbols (r : Registry ω) : List String :=
  ((Comparator.values.filter fun c => (r.find? c).isSome).map Comparator.symbol).mergeSort
    fun s t => compare s t != .gt

omit [Comparing ω] in
@[simp] theorem find?_empty (c : Comparator) : (empty : Registry ω).find? c = none := rfl

/-- A registered operation serves its own comparator; every other one keeps what it had. -/
theorem find?_register (r : Registry ω) (o : ω) (c : Comparator) :
    (r.register o).find? c =
      if c = Comparing.comparator o then some o else r.find? c := rfl

end Registry

end Listing
