import Listing.Proofs.Outcome
import Listing.Sql.Truth

/-!
# What clauses mean

The truth of a clause is made of the truths of its tests (`Clause.eval`).  Leaving constants out of
a group, merging groups of one kind and moving negation into tests do not change it
(`eval_conjunction`, `eval_disjunction`, `eval_negate`).
-/

namespace Listing

namespace Truth

/-- A way to combine truths one after the other, with a definite truth that makes no difference and
one that decides. -/
structure Folds (neutral : Bool) (combine : List Truth → Truth) : Prop where
  nil : combine [] = ofBool neutral
  single : ∀ t, combine [t] = t
  append : ∀ ts us, combine (ts ++ us) = combine [combine ts, combine us]
  decided : ∀ ts, ofBool (!neutral) ∈ ts → combine ts = ofBool (!neutral)

/-- Conjunction combines truths in this way, and is decided by what is false. -/
theorem folds_all : Folds true all where
  nil := rfl
  single t := by cases t <;> rfl
  append ts us := by
    induction ts with
    | nil => cases hu : all us <;> simp [hu] <;> rfl
    | cons t ts ih =>
      -- three truths are combined, and each is one of three
      rw [List.cons_append, all_cons, ih, all_cons t ts]
      cases t <;> cases all ts <;> cases all us <;> rfl
  decided ts h := by
    have hno : ts.contains no = true := List.contains_iff_mem.2 h
    rw [all, if_pos hno]
    rfl

theorem folds_any : Folds false any where
  nil := rfl
  single t := by cases t <;> rfl
  append ts us := by
    -- a disjunction is a conjunction turned around
    have hany : ∀ ts, any ts = (all (ts.map not)).not := by
      intro ts
      have hnot : not ∘ not = id := funext not_not
      rw [not_all, List.map_map, hnot, List.map_id]
    rw [hany (ts ++ us), hany [any ts, any us], List.map_append, folds_all.append]
    simp only [List.map_cons, List.map_nil, hany ts, hany us, not_not]
  decided ts h := by
    have hyes : ts.contains yes = true := List.contains_iff_mem.2 h
    rw [any, if_pos hyes]
    rfl

variable {neutral : Bool} {combine : List Truth → Truth}

/-- The first truth is combined with what the others make. -/
theorem Folds.cons (h : Folds neutral combine) (t : Truth) (ts : List Truth) :
    combine (t :: ts) = combine [t, combine ts] := by
  have happend := h.append [t] ts
  rw [h.single] at happend
  exact happend

/-- What makes no difference may be left out. -/
theorem Folds.cons_neutral (h : Folds neutral combine) (ts : List Truth) :
    combine (ofBool neutral :: ts) = combine ts := by
  have happend := h.append [] ts
  rw [h.nil, List.nil_append] at happend
  rw [h.cons, ← happend]

/-- Parts of a whole that mean the same as before mean the same together. -/
theorem Folds.flatMap {α : Type} (h : Folds neutral combine) {parts : α → List Truth}
    {truth : α → Truth} (hparts : ∀ a, combine (parts a) = truth a) (xs : List α) :
    combine (xs.flatMap parts) = combine (xs.map truth) := by
  induction xs with
  | nil => rfl
  | cons x xs ih =>
    rw [List.flatMap_cons, h.append, hparts, ih, List.map_cons, ← h.cons]

theorem Folds.filter {α : Type} (h : Folds neutral combine) {truth : α → Truth}
    {dropped : α → Bool} (hd : ∀ a, dropped a = true → truth a = ofBool neutral) (xs : List α) :
    combine ((xs.filter fun a => !dropped a).map truth) = combine (xs.map truth) := by
  induction xs with
  | nil => rfl
  | cons x xs ih =>
    rw [List.filter_cons]
    -- a member that is dropped has the neutral truth
    cases hx : dropped x with
    | true =>
      rw [List.map_cons, hd x hx, h.cons_neutral]
      exact ih
    | false =>
      show combine (truth x :: _) = combine (truth x :: _)
      rw [h.cons, ih, ← h.cons]

theorem ofBool_not (b : Bool) : ofBool (!b) = (ofBool b).not := by cases b <;> rfl

end Truth

namespace Sql

namespace Clause

variable {ν α β : Type}

mutual

/-- The truth of a clause, from the truths of its tests. -/
def eval (ev : Test ν → Truth) : Clause ν → Truth
  | constant b => .ofBool b
  | lone b => .ofBool b
  | test t => ev t
  | all members => .all (evals ev members)
  | any members => .any (evals ev members)
  | negation inner => (eval ev inner).not
termination_by structural c => c

def evals (ev : Test ν → Truth) : List (Clause ν) → List Truth
  | [] => []
  | c :: cs => eval ev c :: evals ev cs
termination_by structural cs => cs

end

theorem evals_eq_map (ev : Test ν → Truth) (cs : List (Clause ν)) :
    evals ev cs = cs.map (eval ev) := by
  induction cs with
  | nil => rfl
  | cons c cs ih => rw [evals, ih, List.map_cons]

mutual

/-- The truth of a clause on a row is made of those of its tests. -/
theorem truth_eq_eval (row : Row) : ∀ c : Clause Cell, c.truth row = c.eval (Test.truth row)
  | constant _ => rfl
  | lone _ => rfl
  | test _ => rfl
  | all members => congrArg Truth.all (memberTruths_eq_evals row members)
  | any members => congrArg Truth.any (memberTruths_eq_evals row members)
  | negation inner => congrArg Truth.not (truth_eq_eval row inner)

theorem memberTruths_eq_evals (row : Row) :
    ∀ cs : List (Clause Cell), memberTruths row cs = evals (Test.truth row) cs
  | [] => rfl
  | c :: cs => by rw [memberTruths, evals, truth_eq_eval row c, memberTruths_eq_evals row cs]

end

/-! ## Groups and negation -/

theorem eval_of_isConstant {ev : Test ν → Truth} {b : Bool} {c : Clause ν}
    (h : c.isConstant b = true) : c.eval ev = .ofBool b := by
  cases c with
  | constant d =>
    have hd : d = b := by simpa [isConstant] using h
    rw [hd]
    rfl
  | _ => cases h

/-- The parts that a clause has in a group: its members if it is a group of the same kind, and
otherwise itself. -/
def Merges (build : List (Clause ν) → Clause ν) (parts : Clause ν → List (Clause ν)) : Prop :=
  ∀ c, parts c = [c] ∨ ∃ members, c = build members ∧ parts c = members

/-- A conjunction within a conjunction gives way to its members. -/
theorem merges_conjuncts : Merges (all : List (Clause ν) → Clause ν) conjuncts := by
  intro c
  cases c with
  | all members => exact Or.inr ⟨members, rfl, rfl⟩
  | _ => exact Or.inl rfl

theorem merges_disjuncts : Merges (any : List (Clause ν) → Clause ν) disjuncts := by
  intro c
  cases c with
  | any members => exact Or.inr ⟨members, rfl, rfl⟩
  | _ => exact Or.inl rfl

/-- A group means the same as its members together. -/
theorem eval_group {neutral : Bool} {combine : List Truth → Truth}
    (hf : Truth.Folds neutral combine) {build : List (Clause ν) → Clause ν}
    {parts : Clause ν → List (Clause ν)} (hparts : Merges build parts) {ev : Test ν → Truth}
    (hbuild : ∀ cs, (build cs).eval ev = combine (cs.map (eval ev))) (cs : List (Clause ν)) :
    (group neutral build parts cs).eval ev = combine (cs.map (eval ev)) := by
  have hmerged : ∀ c, combine ((parts c).map (eval ev)) = c.eval ev := by
    intro c
    rcases hparts c with hsingle | ⟨members, rfl, hmembers⟩
    · rw [hsingle]
      exact hf.single _
    · rw [hmembers, hbuild]
  unfold group
  by_cases hdecided : cs.any (isConstant !neutral) = true
  · -- one constant decides, whatever the other members are
    obtain ⟨c, hc, hconstant⟩ := List.any_eq_true.1 hdecided
    have hmem : Truth.ofBool (!neutral) ∈ cs.map (eval ev) :=
      List.mem_map.2 ⟨c, hc, eval_of_isConstant hconstant⟩
    rw [if_pos hdecided, hf.decided _ hmem]
    rfl
  · have hneutral : ∀ c : Clause ν, c.isConstant neutral = true → c.eval ev = .ofBool neutral :=
      fun c => eval_of_isConstant
    -- what is left out makes no difference, nor does merging what is left
    rw [if_neg hdecided, ← hf.filter hneutral]
    split
    · next hnil =>
      rw [hnil, List.map_nil, hf.nil]
      rfl
    · next c hone =>
      rw [hone, List.map_cons, List.map_nil, hf.single]
    · rw [hbuild, List.map_flatMap, hf.flatMap hmerged]

/-- A conjunction means the conjunction of its members, merged or not. -/
theorem eval_conjunction (ev : Test ν → Truth) (cs : List (Clause ν)) :
    (conjunction cs).eval ev = .all (cs.map (eval ev)) := by
  refine eval_group Truth.folds_all merges_conjuncts (fun members => ?_) cs
  rw [eval, evals_eq_map]

theorem eval_disjunction (ev : Test ν → Truth) (cs : List (Clause ν)) :
    (disjunction cs).eval ev = .any (cs.map (eval ev)) := by
  refine eval_group Truth.folds_any merges_disjuncts (fun members => ?_) cs
  rw [eval, evals_eq_map]

/-- Negation of a clause is negation of its truth, if that holds of its tests. -/
theorem eval_negate {ev : Test ν → Truth} (hev : ∀ t, ev t.negate = (ev t).not) (c : Clause ν) :
    c.negate.eval ev = (c.eval ev).not := by
  cases c with
  | constant b => exact Truth.ofBool_not b
  | lone b => exact Truth.ofBool_not b
  | test t => exact hev t
  | _ => rfl

/-! ## Changing tests -/

mutual

/-- Something holds of every test of a clause. -/
def Forall (P : Test ν → Prop) : Clause ν → Prop
  | constant _ => True
  | lone _ => True
  | test t => P t
  | all members => ForallMembers P members
  | any members => ForallMembers P members
  | negation inner => Forall P inner
termination_by structural c => c

def ForallMembers (P : Test ν → Prop) : List (Clause ν) → Prop
  | [] => True
  | c :: cs => Forall P c ∧ ForallMembers P cs
termination_by structural cs => cs

end

variable {P : Test α → Prop}

/-- Something holds of the tests of some clauses if it does in each of them. -/
theorem forallMembers_iff {cs : List (Clause α)} :
    ForallMembers P cs ↔ ∀ c ∈ cs, c.Forall P := by
  induction cs with
  | nil => simp [ForallMembers]
  | cons c cs ih => rw [ForallMembers, ih, List.forall_mem_cons]

/-- A group has no tests but those of its members. -/
theorem forall_group {neutral : Bool} {build : List (Clause α) → Clause α}
    {parts : Clause α → List (Clause α)} (hparts : Merges build parts)
    (hbuild : ∀ cs, (build cs).Forall P ↔ ∀ c ∈ cs, c.Forall P) {cs : List (Clause α)}
    (hcs : ∀ c ∈ cs, c.Forall P) : (group neutral build parts cs).Forall P := by
  have hmerged : ∀ c : Clause α, c.Forall P → ∀ d ∈ parts c, d.Forall P := by
    intro c hc
    rcases hparts c with hsingle | ⟨members, rfl, hmembers⟩
    · rw [hsingle]
      exact List.forall_mem_singleton.2 hc
    · rw [hmembers]
      exact (hbuild members).1 hc
  -- leaving out constants leaves out no test
  have hkept : ∀ c ∈ cs.filter (fun c => !c.isConstant neutral), c.Forall P := fun c hc =>
    hcs c (List.mem_filter.1 hc).1
  unfold group
  split
  · trivial
  · split
    · trivial
    · next c hone =>
      rw [hone] at hkept
      exact hkept c List.mem_cons_self
    · apply (hbuild _).2
      intro d hd
      obtain ⟨c, hc, hdc⟩ := List.mem_flatMap.1 hd
      exact hmerged c (hkept c hc) d hdc

theorem forall_conjunction {cs : List (Clause α)} (hcs : ∀ c ∈ cs, c.Forall P) :
    (conjunction cs).Forall P :=
  forall_group merges_conjuncts (fun _ => forallMembers_iff) hcs

theorem forall_disjunction {cs : List (Clause α)} (hcs : ∀ c ∈ cs, c.Forall P) :
    (disjunction cs).Forall P :=
  forall_group merges_disjuncts (fun _ => forallMembers_iff) hcs

/-- Negation changes a test or leaves it as it is. -/
theorem forall_negate (hP : ∀ t, P t → P t.negate) {c : Clause α} (hc : c.Forall P) :
    c.negate.Forall P := by
  cases c with
  | constant b => trivial
  | lone b => trivial
  | test t => exact hP t hc
  | _ => exact hc

mutual

def map (g : Test α → Test β) : Clause α → Clause β
  | constant b => constant b
  | lone b => lone b
  | test t => test (g t)
  | all members => all (mapMembers g members)
  | any members => any (mapMembers g members)
  | negation inner => negation (map g inner)
termination_by structural c => c

def mapMembers (g : Test α → Test β) : List (Clause α) → List (Clause β)
  | [] => []
  | c :: cs => map g c :: mapMembers g cs
termination_by structural cs => cs

end

mutual

theorem map_id : ∀ c : Clause α, c.map id = c
  | constant _ => rfl
  | lone _ => rfl
  | test _ => rfl
  | all members => congrArg all (mapMembers_id members)
  | any members => congrArg any (mapMembers_id members)
  | negation inner => congrArg negation (map_id inner)

theorem mapMembers_id : ∀ cs : List (Clause α), mapMembers id cs = cs
  | [] => rfl
  | c :: cs => by rw [mapMembers, map_id c, mapMembers_id cs]

end

mutual

/-- The truth of a changed clause is made of those of the changed tests. -/
theorem eval_map (g : Test α → Test β) (ev : Test β → Truth) :
    ∀ c : Clause α, (c.map g).eval ev = c.eval fun t => ev (g t)
  | constant _ => rfl
  | lone _ => rfl
  | test _ => rfl
  | all members => congrArg Truth.all (evals_mapMembers g ev members)
  | any members => congrArg Truth.any (evals_mapMembers g ev members)
  | negation inner => congrArg Truth.not (eval_map g ev inner)

theorem evals_mapMembers (g : Test α → Test β) (ev : Test β → Truth) :
    ∀ cs : List (Clause α), evals ev (mapMembers g cs) = evals (fun t => ev (g t)) cs
  | [] => rfl
  | c :: cs => by rw [mapMembers, evals, eval_map g ev c, evals_mapMembers g ev cs, evals]

end

mutual

/-- Changing tests one by one succeeds if it does on each of them. -/
theorem traverse_eq_ok {f : Test α → Outcome (Test β)} {g : Test α → Test β}
    (hf : ∀ t, P t → f t = .ok (g t)) :
    ∀ c : Clause α, c.Forall P → traverse f c = .ok (c.map g)
  | constant _, _ => rfl
  | lone _, _ => rfl
  | test t, h => by rw [traverse, hf t h]; rfl
  | all members, h => by rw [traverse, traverseMembers_eq_ok hf members h]; rfl
  | any members, h => by rw [traverse, traverseMembers_eq_ok hf members h]; rfl
  | negation inner, h => by rw [traverse, traverse_eq_ok hf inner h]; rfl

theorem traverseMembers_eq_ok {f : Test α → Outcome (Test β)} {g : Test α → Test β}
    (hf : ∀ t, P t → f t = .ok (g t)) :
    ∀ cs : List (Clause α), ForallMembers P cs → traverseMembers f cs = .ok (mapMembers g cs)
  | [], _ => rfl
  | c :: cs, h => by
    rw [traverseMembers, traverse_eq_ok hf c h.1, Outcome.ok_bind,
      traverseMembers_eq_ok hf cs h.2]
    rfl

end

end Clause

end Sql

end Listing
