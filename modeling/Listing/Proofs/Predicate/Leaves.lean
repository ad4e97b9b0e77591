import Listing.Condition
import Listing.Proofs.Outcome

/-!
# Leaves, from left to right

The leaves of a predicate are its tests, in the order in which they are written.  Executors go
through a predicate from left to right and skip nothing (`Condition.LeftToRight`), so they fail as
they do with the first leaf that they fail with, however the leaves are grouped (`error_iff`).
-/

namespace Listing

namespace Predicate

mutual

/-- The tests that a predicate is made of, from left to right. -/
def leaves : Predicate → List Predicate
  | test column c v => [test column c v]
  | negation inner => inner.leaves
  | all members => leavesOf members
  | any members => leavesOf members
termination_by structural p => p

def leavesOf : List Predicate → List Predicate
  | [] => []
  | p :: ps => p.leaves ++ leavesOf ps
termination_by structural ps => ps

end

theorem leavesOf_eq_flatMap (ps : List Predicate) : leavesOf ps = ps.flatMap leaves := by
  induction ps with
  | nil => rfl
  | cons p ps ih => rw [leavesOf, ih, List.flatMap_cons]

mutual

/-- A leaf of a predicate is a test. -/
theorem exists_test_of_mem_leaves : ∀ {p leaf : Predicate}, leaf ∈ p.leaves →
    ∃ column c v, leaf = test column c v
  | test column c v, _, h => ⟨column, c, v, List.mem_singleton.1 h⟩
  | negation inner, _, h => @exists_test_of_mem_leaves inner _ h
  | all members, _, h => @exists_test_of_mem_leavesOf members _ h
  | any members, _, h => @exists_test_of_mem_leavesOf members _ h

theorem exists_test_of_mem_leavesOf : ∀ {ps : List Predicate} {leaf : Predicate},
    leaf ∈ leavesOf ps → ∃ column c v, leaf = test column c v
  | [], _, h => absurd h List.not_mem_nil
  | p :: ps, _, h => by
    rcases List.mem_append.1 h with h | h
    · exact exists_test_of_mem_leaves h
    · exact exists_test_of_mem_leavesOf h

end

/-! ## The first leaf of some kind -/

/-- A leaf is the first of a predicate's leaves that something holds of. -/
def FirstLeaf (P : Predicate → Prop) (p leaf : Predicate) : Prop :=
  ∃ before after, p.leaves = before ++ leaf :: after ∧ (∀ l ∈ before, ¬P l) ∧ P leaf

variable {P Q : Predicate → Prop} {p leaf : Predicate}

theorem FirstLeaf.mem (h : p.FirstLeaf P leaf) : leaf ∈ p.leaves := by
  rcases h with ⟨before, after, hleaves, -, -⟩
  rw [hleaves]
  exact List.mem_append_right before List.mem_cons_self

theorem FirstLeaf.holds (h : p.FirstLeaf P leaf) : P leaf := by
  rcases h with ⟨-, -, -, -, hP⟩
  exact hP

/-- There is a first leaf that something holds of if there is any. -/
theorem exists_firstLeaf : (∃ leaf, p.FirstLeaf P leaf) ↔ ∃ leaf ∈ p.leaves, P leaf := by
  classical
  constructor
  · rintro ⟨leaf, hfirst⟩
    exact ⟨leaf, hfirst.mem, hfirst.holds⟩
  · rintro ⟨leaf, hleaf, hP⟩
    have hfound : (p.leaves.find? fun l => decide (P l)).isSome := by
      rw [List.find?_isSome]
      exact ⟨leaf, hleaf, decide_eq_true hP⟩
    rcases Option.isSome_iff_exists.1 hfound with ⟨first, hfirst⟩
    rcases List.find?_eq_some_iff_append.1 hfirst with ⟨hPfirst, before, after, hleaves, hbefore⟩
    refine ⟨first, before, after, hleaves, ?_, of_decide_eq_true hPfirst⟩
    intro l hl
    simpa using hbefore l hl

/-- The first leaf depends only on what holds of the leaves of the predicate. -/
theorem FirstLeaf.congr (hPQ : ∀ l ∈ p.leaves, (P l ↔ Q l)) (h : p.FirstLeaf P leaf) :
    p.FirstLeaf Q leaf := by
  have hleaf := h.mem
  rcases h with ⟨before, after, hleaves, hbefore, hP⟩
  refine ⟨before, after, hleaves, ?_, (hPQ leaf hleaf).1 hP⟩
  intro l hl hQ
  have hmem : l ∈ p.leaves := by
    rw [hleaves]
    exact List.mem_append_left _ hl
  exact hbefore l hl ((hPQ l hmem).2 hQ)

end Predicate

/-- What is done with conditions is done from left to right: with a group it fails as it does with
the first member that it fails with. -/
structure Condition.LeftToRight {α : Type} (run : Condition → Outcome α) : Prop where
  not : ∀ c, (run (.group .not [c])).fault? = (run c).fault?
  and : ∀ cs, (run (.group .and cs)).fault? = cs.findSome? fun c => (run c).fault?
  or : ∀ cs, (run (.group .or cs)).fault? = cs.findSome? fun c => (run c).fault?

namespace Condition.LeftToRight

open Predicate

variable {α : Type} {run : Condition → Outcome α} {p : Predicate} {e : Fault}

mutual

/-- The fault of a predicate is found among those of its leaves, one after the other. -/
theorem fault?_eq (h : LeftToRight run) : ∀ p : Predicate,
    (run p.toCondition).fault? = p.leaves.findSome? fun leaf => (run leaf.toCondition).fault?
  | .test column c v => by rw [leaves, List.findSome?_singleton]
  | .negation inner => by rw [toCondition, h.not, leaves, h.fault?_eq inner]
  | .all members => by rw [toCondition, h.and, leaves, h.fault?_members members]
  | .any members => by rw [toCondition, h.or, leaves, h.fault?_members members]

/-- The fault of several predicates is the first among those of their leaves. -/
theorem fault?_members (h : LeftToRight run) : ∀ ps : List Predicate,
    ((toConditions ps).findSome? fun c => (run c).fault?) =
      (leavesOf ps).findSome? fun leaf => (run leaf.toCondition).fault?
  | [] => rfl
  | p :: ps => by
    rw [toConditions, List.findSome?_cons, h.fault?_eq p, h.fault?_members ps, leavesOf,
      List.findSome?_append]
    -- if the first predicate has a fault, the others are not reached
    cases p.leaves.findSome? fun leaf => (run leaf.toCondition).fault? <;> rfl

end

/-- A predicate does not fail just when none of its leaves does. -/
theorem ok_iff (h : LeftToRight run) :
    (∃ a, run p.toCondition = .ok a) ↔ ∀ leaf ∈ p.leaves, ∃ a, run leaf.toCondition = .ok a := by
  simp only [← Outcome.fault?_eq_none]
  rw [h.fault?_eq p, List.findSome?_eq_none_iff]

/-- A predicate fails as the first of its leaves that fails. -/
theorem error_iff (h : LeftToRight run) :
    run p.toCondition = .error e ↔
      ∃ leaf, p.FirstLeaf (fun l => ∃ e, run l.toCondition = .error e) leaf ∧
        run leaf.toCondition = .error e := by
  simp only [← Outcome.fault?_eq_some]
  rw [h.fault?_eq p, List.findSome?_eq_some_iff]
  constructor
  · -- no leaf in front has any fault, so none has one of another kind
    rintro ⟨before, leaf, after, hleaves, hleaf, hbefore⟩
    refine ⟨leaf, ⟨before, after, hleaves, ?_, e, hleaf⟩, hleaf⟩
    rintro l hl ⟨e', he'⟩
    rw [hbefore l hl] at he'
    cases he'
  · rintro ⟨leaf, ⟨before, after, hleaves, hbefore, -⟩, hleaf⟩
    refine ⟨before, leaf, after, hleaves, hleaf, ?_⟩
    intro l hl
    exact Option.eq_none_iff_forall_ne_some.2 fun e' he' => hbefore l hl ⟨e', he'⟩

/-- A predicate fails just when one of its leaves does. -/
theorem fails_iff (h : LeftToRight run) :
    (∃ e, run p.toCondition = .error e) ↔
      ∃ leaf ∈ p.leaves, ∃ e, run leaf.toCondition = .error e := by
  rw [← exists_firstLeaf]
  constructor
  · rintro ⟨e, he⟩
    rcases h.error_iff.1 he with ⟨leaf, hleaf, -⟩
    exact ⟨leaf, hleaf⟩
  · rintro ⟨leaf, hleaf⟩
    rcases hleaf.holds with ⟨e, he⟩
    exact ⟨e, h.error_iff.2 ⟨leaf, hleaf, he⟩⟩

end Condition.LeftToRight

end Listing
