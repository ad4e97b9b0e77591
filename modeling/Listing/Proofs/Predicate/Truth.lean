import Listing.Proofs.Memory.Truth
import Listing.Proofs.Predicate.Leaves

/-!
# When a predicate is true of an item

A predicate is evaluated as the condition that it is handed to executors as.  A conjunction is true
just when every member is, and a disjunction that evaluates just when one member is.  The leaves of
a predicate are its tests: a predicate evaluates just when each of its leaves does
(`evaluates_iff_leaves`), and its truth is then made of theirs (`truth_eq_eval`).  Otherwise it fails
with the fault of the first leaf that does not evaluate, even if the other leaves decide it
(`holds_faults`).
-/

namespace Listing.Predicate

variable {reg : Registry Memory.Operation} {item : Value}

/-- A predicate is definitely true of an item. -/
def IsTrue (reg : Registry Memory.Operation) (item : Value) (p : Predicate) : Prop :=
  p.toCondition.IsTrue reg item

/-- No part of a predicate is at fault on an item. -/
def Evaluates (reg : Registry Memory.Operation) (item : Value) (p : Predicate) : Prop :=
  p.toCondition.Evaluates reg item

instance (reg : Registry Memory.Operation) (item : Value) (p : Predicate) :
    Decidable (p.IsTrue reg item) :=
  inferInstanceAs (Decidable (p.toCondition.IsTrue reg item))

instance (reg : Registry Memory.Operation) (item : Value) (p : Predicate) :
    Decidable (p.Evaluates reg item) :=
  inferInstanceAs (Decidable (p.toCondition.Evaluates reg item))

theorem isTrue_all {ps : List Predicate} :
    (all ps).IsTrue reg item ↔ ∀ p ∈ ps, p.IsTrue reg item := by
  rw [IsTrue, toCondition, toConditions_eq_map, Condition.isTrue_and, List.forall_mem_map]
  rfl

theorem evaluates_all {ps : List Predicate} :
    (all ps).Evaluates reg item ↔ ∀ p ∈ ps, p.Evaluates reg item := by
  rw [Evaluates, toCondition, toConditions_eq_map, Condition.evaluates_and, List.forall_mem_map]
  rfl

/-- A disjunction evaluates just when its members do: none of them is skipped. -/
theorem evaluates_any {ps : List Predicate} :
    (any ps).Evaluates reg item ↔ ∀ p ∈ ps, p.Evaluates reg item := by
  rw [Evaluates, toCondition, toConditions_eq_map, Condition.evaluates_or, List.forall_mem_map]
  rfl

theorem evaluates_negation {p : Predicate} :
    (negation p).Evaluates reg item ↔ p.Evaluates reg item := by
  rw [Evaluates, Evaluates, toCondition, Condition.Evaluates, Condition.truth_not,
    Condition.Evaluates]
  cases p.toCondition.truth reg item <;> simp

/-- A disjunction that evaluates is true just when one of its members is. -/
theorem isTrue_any {ps : List Predicate} (he : (any ps).Evaluates reg item) :
    (any ps).IsTrue reg item ↔ ∃ p ∈ ps, p.IsTrue reg item := by
  rw [Evaluates, toCondition, toConditions_eq_map, Condition.evaluates_or] at he
  rw [IsTrue, toCondition, toConditions_eq_map, Condition.isTrue_or]
  constructor
  · rintro ⟨-, c, hc, hct⟩
    obtain ⟨p, hp, rfl⟩ := List.mem_map.1 hc
    exact ⟨p, hp, hct⟩
  · rintro ⟨p, hp, hpt⟩
    exact ⟨he, p.toCondition, List.mem_map_of_mem hp, hpt⟩

/-! ## Tests -/

/-- The logical comparators compare nothing: a test with one of them is the group without members,
whatever the item. -/
theorem truth_logical {c : Comparator} (hc : c = .and ∨ c = .or ∨ c = .not) :
    ∃ b, ∀ (item : Value) (column : String) (v : Value),
      (test column c v).toCondition.truth reg item = .ok (.ofBool b) := by
  have htruth : ∀ (item : Value) (column : String) (v : Value),
      (test column c v).toCondition.truth reg item =
        .ok (if c = .and then .yes else .no) := by
    intro item column v
    rw [toCondition, Condition.leaf, Condition.truth, Condition.name_symbol, Outcome.ok_bind,
      Comparator.ofSymbol?_symbol]
    rcases hc with rfl | rfl | rfl <;> rfl
  refine ⟨decide (c = .and), fun item column v => ?_⟩
  rw [htruth]
  by_cases hand : c = .and <;> simp [hand, Truth.ofBool]

/-- Any other test is evaluated on the value of its field, if that is there or may be missing. -/
theorem truth_comparison {c : Comparator} (hc : c ≠ .and ∧ c ≠ .or ∧ c ≠ .not) (column : String)
    (v : Value) :
    (test column c v).toCondition.truth reg item =
      if (item.field column).isNull && c != .isNull then .ok .unknown
      else Truth.ofBool <$> Memory.evaluate reg c (item.field column) v.tupleToList := by
  rw [toCondition, Condition.truth_leaf hc]
  show (if (item.field column).isNull && c != .isNull then _ else _) = _
  split
  · rfl
  · cases Memory.evaluate reg c (item.field column) v.tupleToList <;> rfl

/-- A comparison of a missing value is unknown. -/
theorem truth_missing {c : Comparator} (hc : c ≠ .and ∧ c ≠ .or ∧ c ≠ .not) (habsent : c ≠ .isNull)
    {column : String} (h : item.field column = .null) (v : Value) :
    (test column c v).toCondition.truth reg item = .ok .unknown := by
  rw [truth_comparison hc, h, if_pos (by simpa [Value.isNull] using habsent)]

/-- A test of a value that is there is what its operation says of it. -/
theorem truth_there {c : Comparator} (hc : c ≠ .and ∧ c ≠ .or ∧ c ≠ .not) {column : String}
    (h : item.field column ≠ .null) (v : Value) :
    (test column c v).toCondition.truth reg item =
      Truth.ofBool <$> Memory.evaluate reg c (item.field column) v.tupleToList := by
  have hthere : ¬((item.field column).isNull && c != .isNull) = true := by
    rw [Bool.and_eq_true, Value.isNull_iff]
    exact fun hand => h hand.1
  rw [truth_comparison hc, if_neg hthere]

/-- A test is true just when its operation says so, of a value that is there or may be missing. -/
theorem isTrue_test {c : Comparator} (hc : c ≠ .and ∧ c ≠ .or ∧ c ≠ .not) {column : String}
    {v : Value} :
    (test column c v).IsTrue reg item ↔
      (item.field column = .null → c = .isNull) ∧
        Memory.evaluate reg c (item.field column) v.tupleToList = .ok true := by
  rw [IsTrue, Condition.IsTrue, truth_comparison hc]
  split
  · next hmissing =>
    rw [Bool.and_eq_true, Value.isNull_iff, bne_iff_ne] at hmissing
    constructor
    · intro h
      cases h
    · rintro ⟨hallowed, -⟩
      -- only the test for absence says anything of a missing value
      exact absurd (hallowed hmissing.1) hmissing.2
  · next hthere =>
    rw [Bool.and_eq_true, Value.isNull_iff, bne_iff_ne, not_and, Decidable.not_not] at hthere
    rw [and_iff_right hthere]
    cases Memory.evaluate reg c (item.field column) v.tupleToList with
    | error e => simp
    | ok b => cases b <;> simp [Truth.ofBool]

/-! ## Leaves -/

mutual

/-- The truth of a predicate, from the truths of its leaves. -/
def eval (ev : Predicate → Truth) : Predicate → Truth
  | test column c v => ev (test column c v)
  | negation inner => (inner.eval ev).not
  | all members => .all (evals ev members)
  | any members => .any (evals ev members)
termination_by structural p => p

def evals (ev : Predicate → Truth) : List Predicate → List Truth
  | [] => []
  | p :: ps => p.eval ev :: evals ev ps
termination_by structural ps => ps

end

theorem evals_eq_map (ev : Predicate → Truth) (ps : List Predicate) :
    evals ev ps = ps.map (eval ev) := by
  induction ps with
  | nil => rfl
  | cons p ps ih => rw [evals, ih, List.map_cons]

mutual

/-- The truth of a predicate whose leaves evaluate is made of theirs. -/
theorem truth_eq_eval {ev : Predicate → Truth} : ∀ p : Predicate,
    (∀ leaf ∈ p.leaves, leaf.toCondition.truth reg item = .ok (ev leaf)) →
      p.toCondition.truth reg item = .ok (p.eval ev)
  | test column c v, h => h (test column c v) (List.mem_singleton.2 rfl)
  | negation inner, h => by
    rw [toCondition, Condition.truth_not, truth_eq_eval inner h, eval]
    rfl
  | all members, h => by
    rw [toCondition, Condition.truth_and, truths_eq_evals members h, eval]
    rfl
  | any members, h => by
    rw [toCondition, Condition.truth_or, truths_eq_evals members h, eval]
    rfl

theorem truths_eq_evals {ev : Predicate → Truth} : ∀ ps : List Predicate,
    (∀ leaf ∈ leavesOf ps, leaf.toCondition.truth reg item = .ok (ev leaf)) →
      Condition.truths reg item (toConditions ps) = .ok (evals ev ps)
  | [], _ => rfl
  | p :: ps, h => by
    have hp := truth_eq_eval p fun leaf hleaf => h leaf (List.mem_append_left _ hleaf)
    have hps := truths_eq_evals ps fun leaf hleaf => h leaf (List.mem_append_right _ hleaf)
    rw [toConditions, Condition.truths, hp, Outcome.ok_bind, hps]
    rfl

end

/-- The truth of a predicate on an item that it evaluates on. -/
def value (reg : Registry Memory.Operation) (item : Value) (p : Predicate) : Truth :=
  match p.toCondition.truth reg item with
  | .ok t => t
  | .error _ => .unknown

/-- A predicate that evaluates has its value as its truth. -/
theorem Evaluates.truth_eq {p : Predicate} (h : p.Evaluates reg item) :
    p.toCondition.truth reg item = .ok (p.value reg item) := by
  rcases h with ⟨t, ht⟩
  rw [value, ht]

/-! ## Faults -/

/-- Conditions are evaluated from left to right. -/
theorem leftToRight_truth (reg : Registry Memory.Operation) (item : Value) :
    Condition.LeftToRight (Condition.truth reg item) where
  not c := by rw [Condition.truth_not, Outcome.fault?_map]
  and cs := by
    rw [Condition.truth_and, Outcome.fault?_map, Condition.truths_eq_mapM, Outcome.fault?_mapM]
  or cs := by
    rw [Condition.truth_or, Outcome.fault?_map, Condition.truths_eq_mapM, Outcome.fault?_mapM]

/-- A predicate evaluates just when each of its leaves does. -/
theorem evaluates_iff_leaves {p : Predicate} :
    p.Evaluates reg item ↔ ∀ leaf ∈ p.leaves, leaf.Evaluates reg item :=
  (leftToRight_truth reg item).ok_iff

/-- No leaf of a predicate is at fault unless the predicate is. -/
theorem Evaluates.leaf {p : Predicate} (h : p.Evaluates reg item) :
    ∀ leaf ∈ p.leaves, leaf.Evaluates reg item :=
  evaluates_iff_leaves.1 h

/-- The fault of a predicate is the fault of one of its leaves. -/
theorem exists_leaf_of_error {e : Fault} {p : Predicate}
    (h : p.toCondition.truth reg item = .error e) :
    ∃ leaf ∈ p.leaves, leaf.toCondition.truth reg item = .error e := by
  rcases (leftToRight_truth reg item).error_iff.1 h with ⟨leaf, hfirst, hleaf⟩
  exact ⟨leaf, hfirst.mem, hleaf⟩

/-- Asking whether a condition holds hides none of its faults. -/
theorem leftToRight_holds (reg : Registry Memory.Operation) (item : Value) :
    Condition.LeftToRight fun c => c.holds reg item := by
  -- a truth is turned into an answer after everything was evaluated
  have hfault : ∀ c : Condition, (c.holds reg item).fault? = (c.truth reg item).fault? :=
    fun c => Outcome.fault?_map Truth.holds (c.truth reg item)
  have htruth := leftToRight_truth reg item
  constructor
  · intro c
    rw [hfault, hfault, htruth.not]
  · intro cs
    simp only [hfault, htruth.and]
  · intro cs
    simp only [hfault, htruth.or]

/-- Evaluation hides no fault of a leaf.  A predicate fails on an item just when one of its leaves
does by itself, whatever the groups around it make of the others, and with the fault of the first
such leaf; it has an answer just when each leaf has one. -/
theorem holds_faults (reg : Registry Memory.Operation) (item : Value) (p : Predicate) :
    ((∃ e, p.toCondition.holds reg item = .error e) ↔
      ∃ leaf ∈ p.leaves, ∃ e, leaf.toCondition.holds reg item = .error e) ∧
    (∀ e, p.toCondition.holds reg item = .error e ↔
      ∃ leaf, p.FirstLeaf (fun l => ∃ e, l.toCondition.holds reg item = .error e) leaf ∧
        leaf.toCondition.holds reg item = .error e) ∧
    ((∃ b, p.toCondition.holds reg item = .ok b) ↔
      ∀ leaf ∈ p.leaves, ∃ b, leaf.toCondition.holds reg item = .ok b) := by
  have hrun := leftToRight_holds reg item
  refine ⟨?_, ?_, ?_⟩
  · exact hrun.fails_iff
  · intro e
    exact hrun.error_iff
  · exact hrun.ok_iff

/-- A disjunction that its first member decides still fails for want of an operation. -/
example : (any [all [], test "size" .eq (.text "1")]).toCondition.holds .empty
    (.record [("size", .int 1)]) = .error (.unregistered .eq) := rfl

end Listing.Predicate
