import Listing.Proofs.Predicate.Truth
import Mathlib.Logic.Relation

/-!
# The laws of three-valued logic

Two truths are the same if they are definitely true and definitely false together, so a law of
three-valued logic is two laws of ordinary logic (`Truth.eq_iff`).  A law of predicates holds at
every place inside a predicate: rewriting one part after another by the laws changes neither which
leaves a predicate has nor its truth (`truth_rewritten`).  Conjunction and disjunction mirror each
other, so each law is stated once for both.
-/

namespace Listing

namespace Truth

/-- The truth of a group of which all members must hold or, if it is not conjunctive, any. -/
def combine (conjunctive : Bool) (ts : List Truth) : Truth :=
  if conjunctive then all ts else any ts

variable {k : Bool} {ts : List Truth}

/-- A truth that decides nothing by itself is reached by all members together. -/
theorem combine_eq_neutral : combine k ts = ofBool k ↔ ∀ t ∈ ts, t = ofBool k := by
  cases k with
  | true => exact all_eq_yes
  | false => exact any_eq_no

/-- The truth that decides a group is reached by one member. -/
theorem combine_eq_deciding : combine k ts = ofBool (!k) ↔ ofBool (!k) ∈ ts := by
  cases k with
  | true => exact all_eq_no
  | false => exact any_eq_yes

/-- The same for a group of the other kind. -/
theorem combine_not_eq : combine (!k) ts = ofBool k ↔ ofBool k ∈ ts := by
  have h : combine (!k) ts = ofBool (!!k) ↔ ofBool (!!k) ∈ ts := combine_eq_deciding
  rwa [Bool.not_not] at h

/-- Truths that are definite together are the same. -/
theorem eq_iff (k : Bool) {t u : Truth} :
    t = u ↔ (t = ofBool k ↔ u = ofBool k) ∧ (t = ofBool (!k) ↔ u = ofBool (!k)) := by
  constructor
  · rintro rfl
    exact ⟨Iff.rfl, Iff.rfl⟩
  · cases k <;> cases t <;> cases u <;> simp [ofBool]

/-- A negation is definite when what it negates is, and says the opposite. -/
theorem not_eq_ofBool {t : Truth} {b : Bool} : t.not = ofBool b ↔ t = ofBool (!b) := by
  cases t <;> cases b <;> simp [not, ofBool]

theorem combine_single (k : Bool) (t : Truth) : combine k [t] = t := by
  rw [eq_iff k, combine_eq_neutral, combine_eq_deciding]
  constructor
  · exact List.forall_mem_singleton
  · rw [List.mem_singleton]
    exact eq_comm

/-- A group depends only on which truths are among its members. -/
theorem combine_congr {us : List Truth} (h : ∀ t, t ∈ ts ↔ t ∈ us) :
    combine k ts = combine k us := by
  rw [eq_iff k, combine_eq_neutral, combine_eq_neutral, combine_eq_deciding, combine_eq_deciding]
  constructor
  · -- both that all members hold and that one decides are said of membership
    exact forall_congr' fun t => imp_congr_left (h t)
  · exact h (ofBool (!k))

/-- The negation of a group is the group of the other kind of the negations. -/
theorem not_combine : (combine k ts).not = combine (!k) (ts.map not) := by
  rw [eq_iff k, not_eq_ofBool, not_eq_ofBool, Bool.not_not, combine_eq_deciding,
    combine_eq_neutral, combine_not_eq, combine_eq_neutral, List.mem_map, List.forall_mem_map]
  constructor
  · constructor
    · intro hmem
      -- the deciding truth turns into the deciding one of the other kind
      exact ⟨ofBool (!k), hmem, by cases k <;> rfl⟩
    · rintro ⟨t, ht, hnot⟩
      rw [not_eq_ofBool] at hnot
      exact hnot ▸ ht
  · refine forall_congr' fun t => imp_congr_right fun _ => ?_
    rw [not_eq_ofBool, Bool.not_not]

/-- A group among the members of a group of its kind gives way to its members. -/
theorem combine_splice {xs ys zs : List Truth} :
    combine k (xs ++ combine k ys :: zs) = combine k (xs ++ ys ++ zs) := by
  rw [eq_iff k]
  constructor
  · simp only [combine_eq_neutral, List.forall_mem_append, List.forall_mem_cons, and_assoc]
  · simp only [combine_eq_deciding, List.mem_append, List.mem_cons, or_assoc]
    rw [eq_comm, combine_eq_deciding]

/-- A group of the other kind among the members of a group is distributed over. -/
theorem combine_distribute {xs ys zs : List Truth} :
    combine k (xs ++ combine (!k) ys :: zs) =
      combine (!k) (ys.map fun y => combine k (xs ++ y :: zs)) := by
  rw [eq_iff k]
  constructor
  · -- one of the alternatives holds, and so do the members around them
    rw [combine_eq_neutral, combine_not_eq, List.forall_mem_append, List.forall_mem_cons,
      combine_not_eq, List.mem_map]
    constructor
    · rintro ⟨hxs, hys, hzs⟩
      refine ⟨ofBool k, hys, combine_eq_neutral.2 ?_⟩
      exact List.forall_mem_append.2 ⟨hxs, List.forall_mem_cons.2 ⟨rfl, hzs⟩⟩
    · rintro ⟨y, hy, hall⟩
      rw [combine_eq_neutral, List.forall_mem_append, List.forall_mem_cons] at hall
      rcases hall with ⟨hxs, rfl, hzs⟩
      exact ⟨hxs, hy, hzs⟩
  · -- a member around the alternatives decides, or each of the alternatives does
    rw [combine_eq_deciding, combine_eq_neutral, List.forall_mem_map, List.mem_append,
      List.mem_cons, eq_comm, combine_eq_neutral]
    simp only [combine_eq_deciding, List.mem_append, List.mem_cons]
    constructor
    · rintro (hxs | hys | hzs) y hy
      · exact Or.inl hxs
      · exact Or.inr (Or.inl (hys y hy).symm)
      · exact Or.inr (Or.inr hzs)
    · intro hall
      by_cases hxs : ofBool (!k) ∈ xs
      · exact Or.inl hxs
      by_cases hzs : ofBool (!k) ∈ zs
      · exact Or.inr (Or.inr hzs)
      · refine Or.inr (Or.inl fun y hy => ?_)
        rcases hall y hy with h | h | h
        · exact absurd h hxs
        · exact h.symm
        · exact absurd h hzs

end Truth

namespace Predicate

/-- The group of which all members must hold or, if it is not conjunctive, any. -/
def group (conjunctive : Bool) (members : List Predicate) : Predicate :=
  if conjunctive then .all members else .any members

/-- Predicates that mean the same.  The Boolean tells conjunctions (`true`) from disjunctions. -/
inductive Law : Predicate → Predicate → Prop
  | doubleNegation (p : Predicate) : Law (negation (negation p)) p
  /-- The negation of a group is a group of the other kind, also without members. -/
  | negatedGroup (k : Bool) (ps : List Predicate) :
    Law (negation (group k ps)) (group (!k) (ps.map negation))
  /-- The members of a group stand in an enclosing group of its kind just as well. -/
  | spliced (k : Bool) (xs ys zs : List Predicate) :
    Law (group k (xs ++ group k ys :: zs)) (group k (xs ++ ys ++ zs))
  | single (k : Bool) (p : Predicate) : Law (group k [p]) p
  | permuted (k : Bool) {ps qs : List Predicate} (h : ps.Perm qs) : Law (group k ps) (group k qs)
  /-- A member that is there already may be left out. -/
  | repeated (k : Bool) (xs ys : List Predicate) {p : Predicate} (h : p ∈ xs ++ ys) :
    Law (group k (xs ++ p :: ys)) (group k (xs ++ ys))
  /-- Conjunction distributes over disjunction and the other way round.  Without alternatives the
  members around them would be lost, and a fault in them with them. -/
  | distributed (k : Bool) (xs zs : List Predicate) {ys : List Predicate} (h : ys ≠ []) :
    Law (group k (xs ++ group (!k) ys :: zs))
      (group (!k) (ys.map fun y => group k (xs ++ y :: zs)))

/-- A predicate with one part, at any depth, replaced by a law, read in either direction. -/
inductive Rewrites : Predicate → Predicate → Prop
  | law {p q : Predicate} (h : Law p q) : Rewrites p q
  | reversed {p q : Predicate} (h : Law p q) : Rewrites q p
  | negation {p q : Predicate} (h : Rewrites p q) : Rewrites (negation p) (negation q)
  | member (k : Bool) (xs ys : List Predicate) {p q : Predicate} (h : Rewrites p q) :
    Rewrites (group k (xs ++ p :: ys)) (group k (xs ++ q :: ys))

variable {k : Bool} {p q leaf : Predicate} {ev : Predicate → Truth}

theorem eval_group (k : Bool) (ps : List Predicate) :
    (group k ps).eval ev = Truth.combine k (ps.map (eval ev)) := by
  cases k with
  | true => exact congrArg Truth.all (evals_eq_map ev ps)
  | false => exact congrArg Truth.any (evals_eq_map ev ps)

theorem mem_leaves_group {ps : List Predicate} :
    leaf ∈ (group k ps).leaves ↔ ∃ p ∈ ps, leaf ∈ p.leaves := by
  rw [← List.mem_flatMap, ← leavesOf_eq_flatMap]
  cases k <;> rfl

theorem mem_leaves_group_map {f : Predicate → Predicate} {ps : List Predicate} :
    leaf ∈ (group k (ps.map f)).leaves ↔ ∃ p ∈ ps, leaf ∈ (f p).leaves := by
  rw [mem_leaves_group]
  constructor
  · rintro ⟨q, hq, hleaf⟩
    rcases List.mem_map.1 hq with ⟨p, hp, rfl⟩
    exact ⟨p, hp, hleaf⟩
  · rintro ⟨p, hp, hleaf⟩
    exact ⟨f p, List.mem_map_of_mem hp, hleaf⟩

/-- The leaves of a group are those of one member and those of the members around it. -/
theorem mem_leaves_around {xs ys : List Predicate} :
    leaf ∈ (group k (xs ++ p :: ys)).leaves ↔
      leaf ∈ p.leaves ∨ ∃ q ∈ xs ++ ys, leaf ∈ q.leaves := by
  simp only [mem_leaves_group, List.mem_append, List.mem_cons, or_and_right, exists_or,
    exists_eq_left]
  exact or_left_comm

/-! ## One law -/

/-- Each law keeps the truth of a predicate, whatever the truths of its leaves. -/
theorem Law.eval_eq (h : Law p q) : p.eval ev = q.eval ev := by
  cases h with
  | doubleNegation p => exact Truth.not_not _
  | negatedGroup k ps =>
    rw [eval, eval_group, eval_group, Truth.not_combine, List.map_map, List.map_map]
    rfl
  | spliced k xs ys zs =>
    simp only [eval_group, List.map_append, List.map_cons]
    exact Truth.combine_splice
  | single k p =>
    rw [eval_group]
    exact Truth.combine_single k _
  | permuted k hperm =>
    rw [eval_group, eval_group]
    exact Truth.combine_congr fun t => (hperm.map _).mem_iff
  | repeated k xs ys hmem =>
    rw [eval_group, eval_group]
    apply Truth.combine_congr
    intro t
    -- the truth of the member left out is that of the one that stays
    simp only [List.mem_map, List.mem_append, List.mem_cons] at hmem ⊢
    constructor
    · rintro ⟨r, hr, rfl⟩
      rcases hr with hr | rfl | hr
      · exact ⟨r, Or.inl hr, rfl⟩
      · exact ⟨r, hmem, rfl⟩
      · exact ⟨r, Or.inr hr, rfl⟩
    · rintro ⟨r, hr, rfl⟩
      exact ⟨r, hr.imp_right Or.inr, rfl⟩
  | @distributed k xs zs ys hne =>
    simp only [eval_group, List.map_append, List.map_cons, List.map_map]
    rw [Truth.combine_distribute, List.map_map]
    congr 1
    apply List.map_congr_left
    intro y _
    simp [eval_group]

/-- Each law keeps the leaves of a predicate. -/
theorem Law.mem_leaves_iff (h : Law p q) : leaf ∈ p.leaves ↔ leaf ∈ q.leaves := by
  cases h with
  | doubleNegation p => exact Iff.rfl
  | negatedGroup k ps =>
    rw [leaves, mem_leaves_group, mem_leaves_group_map]
    rfl
  | spliced k xs ys zs =>
    rw [mem_leaves_around, mem_leaves_group, mem_leaves_group]
    simp only [List.mem_append, or_and_right, exists_or]
    exact or_left_comm.trans or_assoc.symm
  | single k p => simp [mem_leaves_group]
  | permuted k hperm => simp only [mem_leaves_group, hperm.mem_iff]
  | repeated k xs ys hmem =>
    rw [mem_leaves_around, mem_leaves_group]
    constructor
    · rintro (hleaf | hothers)
      · exact ⟨_, hmem, hleaf⟩
      · exact hothers
    · exact Or.inr
  | @distributed k xs zs ys hne =>
    rw [mem_leaves_around, mem_leaves_group, mem_leaves_group_map]
    simp only [mem_leaves_around]
    constructor
    · rintro (⟨y, hy, hleaf⟩ | hothers)
      · exact ⟨y, hy, Or.inl hleaf⟩
      · -- the members around the alternatives need one of them to stand with
        rcases List.exists_mem_of_ne_nil ys hne with ⟨y, hy⟩
        exact ⟨y, hy, Or.inr hothers⟩
    · rintro ⟨y, hy, hleaf | hothers⟩
      · exact Or.inl ⟨y, hy, hleaf⟩
      · exact Or.inr hothers

/-! ## One step and many -/

/-- A rewriting step keeps the truth of a predicate, whatever the truths of its leaves. -/
theorem Rewrites.eval_eq (h : Rewrites p q) : p.eval ev = q.eval ev := by
  induction h with
  | law h => exact h.eval_eq
  | reversed h => exact h.eval_eq.symm
  | negation _ ih => exact congrArg Truth.not ih
  | member k xs ys _ ih => simp only [eval_group, List.map_append, List.map_cons, ih]

/-- A rewriting step neither drops a leaf nor adds one. -/
theorem Rewrites.mem_leaves_iff (h : Rewrites p q) : leaf ∈ p.leaves ↔ leaf ∈ q.leaves := by
  induction h with
  | law h => exact h.mem_leaves_iff
  | reversed h => exact h.mem_leaves_iff.symm
  | negation _ ih => exact ih
  | member k xs ys _ ih => rw [mem_leaves_around, mem_leaves_around, ih]

open Relation in
/-- Rewriting keeps the truth of a predicate. -/
theorem eval_eq_of_rewritten (h : ReflTransGen Rewrites p q) : p.eval ev = q.eval ev := by
  induction h with
  | refl => rfl
  | tail _ hstep ih => exact ih.trans hstep.eval_eq

open Relation in
/-- Rewriting neither drops a leaf nor adds one. -/
theorem mem_leaves_of_rewritten (h : ReflTransGen Rewrites p q) :
    leaf ∈ p.leaves ↔ leaf ∈ q.leaves := by
  induction h with
  | refl => rfl
  | tail _ hstep ih => exact ih.trans hstep.mem_leaves_iff

variable {reg : Registry Memory.Operation} {item : Value}

/-- Predicates obey the laws of three-valued logic.  If no leaf is at fault on an item, a predicate
has a truth there, and it keeps this truth however often its parts are rewritten by the laws. -/
theorem truth_rewritten (h : Relation.ReflTransGen Rewrites p q)
    (hleaves : ∀ leaf ∈ p.leaves, leaf.Evaluates reg item) :
    ∃ t, p.toCondition.truth reg item = .ok t ∧ q.toCondition.truth reg item = .ok t := by
  refine ⟨p.eval (value reg item), ?_, ?_⟩
  · exact truth_eq_eval p fun leaf hleaf => (hleaves leaf hleaf).truth_eq
  · -- the leaves are the same ones, so those of the other evaluate as well
    rw [eval_eq_of_rewritten h]
    apply truth_eq_eval q
    intro leaf hleaf
    exact (hleaves leaf ((mem_leaves_of_rewritten h).2 hleaf)).truth_eq

/-- Three steps inside and around a negated group, on a ticket whose state is missing. -/
theorem truth_rewritten_ticket :
    let item : Value := .record [("state", .null), ("title", .text "Disk full")]
    let isOpen : Predicate := .test "state" .eq (.text "open")
    let found : Predicate := .test "title" .contains (.text "disk")
    let p : Predicate := .negation (.all [.negation (.negation isOpen), .any [found, found]])
    let q : Predicate := .any [.negation isOpen, .negation (.any [found])]
    Relation.ReflTransGen Rewrites p q ∧
      (∀ leaf ∈ p.leaves, leaf.Evaluates Memory.registry item) ∧
      p.toCondition.truth Memory.registry item = .ok .unknown ∧
      q.toCondition.truth Memory.registry item = .ok .unknown := by
  intro item isOpen found p q
  have hfirst : Rewrites p (.negation (.all [isOpen, .any [found, found]])) :=
    .negation (.member true [] [.any [found, found]] (.law (.doubleNegation isOpen)))
  have hsecond : Rewrites (.negation (.all [isOpen, .any [found, found]]))
      (.negation (.all [isOpen, .any [found]])) :=
    .negation (.member true [isOpen] []
      (.law (.repeated false [] [found] (p := found) List.mem_cons_self)))
  have hthird : Rewrites (.negation (.all [isOpen, .any [found]])) q :=
    .law (.negatedGroup true [isOpen, .any [found]])
  have hsteps : Relation.ReflTransGen Rewrites p q :=
    ((Relation.ReflTransGen.single hfirst).tail hsecond).tail hthird
  have hleaves : ∀ leaf ∈ p.leaves, leaf.Evaluates Memory.registry item := by decide +kernel
  have hvalue : p.value Memory.registry item = .unknown := by decide +kernel
  have hp : p.toCondition.truth Memory.registry item = .ok .unknown := by
    rw [(evaluates_iff_leaves.2 hleaves).truth_eq, hvalue]
  rcases truth_rewritten hsteps hleaves with ⟨t, htp, htq⟩
  rw [hp] at htp
  cases htp
  exact ⟨hsteps, hleaves, hp, htq⟩

end Predicate

end Listing
