import Listing.Proofs.Predicate.Truth
import Listing.Proofs.Registry

/-!
# What a registry has to do with the truth of a condition

Only the leaves of a condition look into the registry, each for its own comparator
(`Condition.compared`), so registries that agree on these evaluate the condition alike
(`truth_of_agree`).  Registering an operation therefore changes nothing for conditions without a leaf
of its comparator, and nothing at all if that is a logical one (`truth_registered`).
-/

namespace Listing

namespace Condition

/-- The comparator that the operator of a node names, if it names one. -/
def comparator? (op : Value) : Option Comparator :=
  match name op with
  | .ok s => Comparator.ofSymbol? s
  | .error _ => none

/-- What is looked for at a node: what its members look for, if it is a group, and its own
comparator otherwise. -/
def lookedFor (op : Value) (members : List Comparator) : List Comparator :=
  match comparator? op with
  | some .and | some .or | some .not => members
  | some c => [c]
  | none => []

mutual

/-- The comparators that the leaves of a condition compare with. -/
def compared : Condition → List Comparator
  | .node op _ _ members => lookedFor op (comparedAll members)
  | .unlisted op _ _ => lookedFor op []
  | .foreign => []
termination_by structural c => c

def comparedAll : List Condition → List Comparator
  | [] => []
  | c :: cs => compared c ++ comparedAll cs
termination_by structural cs => cs

end

variable {r r' : Registry Memory.Operation} {item : Value} {k : Comparator}

/-- A leaf looks for its own comparator only. -/
theorem leafTruth_of_agree (h : r.find? k = r'.find? k) (attr : Option Value) (v : Value) :
    leafTruth r item k attr v = leafTruth r' item k attr v := by
  simp only [leafTruth, Memory.evaluate, h]

mutual

/-- Registries with the same operations for the leaves of a condition evaluate it alike. -/
theorem truth_of_agree : ∀ c : Condition, (∀ k ∈ c.compared, r.find? k = r'.find? k) →
    truth r item c = truth r' item c
  | .node op attr v members, h => by
    rw [compared, lookedFor, comparator?] at h
    rw [truth, truth]
    cases hname : name op with
    | error e => rfl
    | ok s =>
      rw [hname] at h
      rw [Outcome.ok_bind, Outcome.ok_bind]
      cases hk : Comparator.ofSymbol? s with
      | none => rfl
      | some k =>
        simp only [hk] at h
        -- a group hands the registry on to its members, a leaf looks for its own comparator in it
        cases k with
        | and => simp only [truths_of_agree members h]
        | or => simp only [truths_of_agree members h]
        | not => simp only [truths_of_agree members h]
        | _ => exact leafTruth_of_agree (h _ (List.mem_singleton_self _)) attr v
  | .unlisted op attr v, h => by
    rw [compared, lookedFor, comparator?] at h
    rw [truth, truth]
    cases hname : name op with
    | error e => rfl
    | ok s =>
      rw [hname] at h
      rw [Outcome.ok_bind, Outcome.ok_bind]
      cases hk : Comparator.ofSymbol? s with
      | none => rfl
      | some k =>
        simp only [hk] at h
        -- a group without a list of members fails before it looks at any
        cases k with
        | and => rfl
        | or => rfl
        | not => rfl
        | _ => exact leafTruth_of_agree (h _ (List.mem_singleton_self _)) attr v
  | .foreign, _ => rfl

theorem truths_of_agree : ∀ cs : List Condition,
    (∀ k ∈ comparedAll cs, r.find? k = r'.find? k) → truths r item cs = truths r' item cs
  | [], _ => rfl
  | c :: cs, h => by
    rw [comparedAll, List.forall_mem_append] at h
    rw [truths, truths, truth_of_agree c h.1, truths_of_agree cs h.2]

end

/-- The logical comparators are looked for at no node unless its members look for them. -/
theorem not_logical_of_mem_lookedFor {op : Value} {ks : List Comparator} (h : k ∈ lookedFor op ks)
    (hks : k ∈ ks → k ≠ .and ∧ k ≠ .or ∧ k ≠ .not) : k ≠ .and ∧ k ≠ .or ∧ k ≠ .not := by
  rw [lookedFor] at h
  cases hop : comparator? op with
  | none =>
    rw [hop] at h
    cases h
  | some c =>
    rw [hop] at h
    -- a group passes its members' comparators on, and any other node has its own
    cases c with
    | and => exact hks h
    | or => exact hks h
    | not => exact hks h
    | _ =>
      rw [List.mem_singleton.1 h]
      decide

mutual

/-- The logical comparators group conditions and are looked for by no leaf. -/
theorem not_logical_of_mem_compared : ∀ c : Condition, k ∈ c.compared →
    k ≠ .and ∧ k ≠ .or ∧ k ≠ .not
  | .node _ _ _ members, h =>
    not_logical_of_mem_lookedFor h (not_logical_of_mem_comparedAll members)
  | .unlisted _ _ _, h => not_logical_of_mem_lookedFor h fun hnone => absurd hnone List.not_mem_nil
  | .foreign, h => absurd h List.not_mem_nil

theorem not_logical_of_mem_comparedAll : ∀ cs : List Condition, k ∈ comparedAll cs →
    k ≠ .and ∧ k ≠ .or ∧ k ≠ .not
  | [], h => absurd h List.not_mem_nil
  | c :: cs, h => by
    rcases List.mem_append.1 h with h | h
    · exact not_logical_of_mem_compared c h
    · exact not_logical_of_mem_comparedAll cs h

end

theorem comparator?_symbol (c : Comparator) : comparator? (.text c.symbol) = some c := by
  rw [comparator?, name_symbol]
  exact Comparator.ofSymbol?_symbol c

/-- A group looks for what its members look for. -/
theorem compared_group {c : Comparator} (hc : c = .and ∨ c = .or ∨ c = .not)
    (members : List Condition) : (group c members).compared = comparedAll members := by
  rw [group, compared, lookedFor, comparator?_symbol]
  rcases hc with rfl | rfl | rfl <;> rfl

/-- A leaf looks for its own comparator, or for none if that is a logical one. -/
theorem mem_compared_leaf {c : Comparator} {column : String} {v : Value}
    (h : k ∈ (leaf c column v).compared) : k = c := by
  rw [leaf, compared, lookedFor, comparator?_symbol] at h
  cases c <;> first | exact List.mem_singleton.1 h | cases h

end Condition

namespace Predicate

open Condition

variable {k : Comparator}

mutual

/-- The comparators of the leaves of a predicate's condition are those of its tests. -/
theorem exists_test_of_mem_compared : ∀ p : Predicate, k ∈ p.toCondition.compared →
    ∃ column v, test column k v ∈ p.leaves
  | test column c v, h => by
    rw [mem_compared_leaf h]
    exact ⟨column, v, List.mem_singleton_self _⟩
  | negation inner, h => by
    rw [toCondition, compared_group (by simp), comparedAll, comparedAll, List.append_nil] at h
    exact exists_test_of_mem_compared inner h
  | all members, h => by
    rw [toCondition, compared_group (by simp)] at h
    exact exists_test_of_mem_comparedAll members h
  | any members, h => by
    rw [toCondition, compared_group (by simp)] at h
    exact exists_test_of_mem_comparedAll members h

theorem exists_test_of_mem_comparedAll : ∀ ps : List Predicate,
    k ∈ comparedAll (toConditions ps) → ∃ column v, test column k v ∈ leavesOf ps
  | [], h => absurd h List.not_mem_nil
  | p :: ps, h => by
    rw [toConditions, comparedAll] at h
    rcases List.mem_append.1 h with h | h
    · rcases exists_test_of_mem_compared p h with ⟨column, v, hleaf⟩
      exact ⟨column, v, List.mem_append_left _ hleaf⟩
    · rcases exists_test_of_mem_comparedAll ps h with ⟨column, v, hleaf⟩
      exact ⟨column, v, List.mem_append_right _ hleaf⟩

end

end Predicate

namespace Memory

variable {r : Registry Operation} {o : Operation} {item : Value}

/-- Registering an operation does not show to a condition without a leaf of its comparator. -/
theorem truth_register {c : Condition} (h : o.comparator ∉ c.compared) :
    c.truth (r.register o) item = c.truth r item := by
  -- the two registries differ at the comparator of the operation alone
  refine Condition.truth_of_agree c fun k hk => ?_
  have hne : k ≠ o.comparator := by
    rintro rfl
    exact h hk
  exact if_neg hne

/-- A test of a field that is there is carried out by the operation registered last. -/
theorem truth_register_self
    (hlogical : o.comparator ≠ .and ∧ o.comparator ≠ .or ∧ o.comparator ≠ .not)
    {column : String} (hthere : item.field column ≠ .null) (v : Value) :
    (Predicate.test column o.comparator v).toCondition.truth (r.register o) item =
      Truth.ofBool <$> o.test (item.field column) v.tupleToList := by
  have hfind : (r.register o).find? o.comparator = some o := if_pos rfl
  rw [Predicate.truth_there hlogical hthere, evaluate, hfind]

/-- Registering an operation affects its comparator only.  After any calls a comparator has the last
operation that was registered for it, whether one by one or several at a time.  Registering one more
operation leaves the truth, or the fault, of every condition as it was that has no leaf of its
comparator; so it changes nothing if the comparator is a logical one, and else it decides the tests
of fields that are there. -/
theorem truth_registered (calls : List (Registry.Call Operation)) :
    let r := Registry.ofCalls calls
    let os := calls.flatMap Registry.Call.operations
    r = Registry.ofCalls (os.map .register) ∧
      (∀ k, (r.find? k = none ↔ ∀ o ∈ os, o.comparator ≠ k) ∧
        ∀ o, r.find? k = some o ↔
          ∃ before after, os = before ++ o :: after ∧ o.comparator = k ∧
            ∀ p ∈ after, p.comparator ≠ k) ∧
      ∀ (o : Operation) (item : Value),
        (∀ c : Condition, o.comparator ∉ c.compared →
          c.truth (r.register o) item = c.truth r item) ∧
        (∀ p : Predicate, (∀ column v, .test column o.comparator v ∉ p.leaves) →
          p.toCondition.truth (r.register o) item = p.toCondition.truth r item) ∧
        (o.comparator = .and ∨ o.comparator = .or ∨ o.comparator = .not →
          ∀ c : Condition, c.truth (r.register o) item = c.truth r item) ∧
        (o.comparator ≠ .and ∧ o.comparator ≠ .or ∧ o.comparator ≠ .not →
          ∀ column v, item.field column ≠ .null →
            (Predicate.test column o.comparator v).toCondition.truth (r.register o) item =
              Truth.ofBool <$> o.test (item.field column) v.tupleToList) := by
  intro r os
  have hr : r = Registry.ofList os := Registry.ofCalls_eq calls
  have hsingle : os.flatMap (fun o => (Registry.Call.register o).operations) = os :=
    List.flatMap_singleton' os
  refine ⟨?_, fun k => ?_, fun o item => ⟨?_, ?_, ?_, ?_⟩⟩
  · rw [hr, Registry.ofCalls_eq, List.flatMap_map, hsingle]
  · rw [hr]
    exact ⟨Registry.find?_ofList_eq_none, fun o => Registry.find?_ofList_eq_some⟩
  · exact fun c h => truth_register h
  · intro p h
    -- a leaf of the condition would be a test of the predicate
    refine truth_register fun hmem => ?_
    rcases Predicate.exists_test_of_mem_compared p hmem with ⟨column, v, hleaf⟩
    exact h column v hleaf
  · intro hlogical c
    refine truth_register fun hmem => ?_
    have hnot := Condition.not_logical_of_mem_compared c hmem
    rcases hlogical with h | h | h
    · exact hnot.1 h
    · exact hnot.2.1 h
    · exact hnot.2.2 h
  · exact fun hlogical column v hthere => truth_register_self hlogical hthere v

/-- Equality of texts that looks at small letters. -/
def ignoringCase : Operation where
  name := "CaseInsensitiveEqual"
  comparator := .eq
  test field v := do
    let text ← spell field
    let wanted ← spell v
    return Text.lower text.toList == Text.lower wanted.toList

def cat : Value := .record [("name", .text "Milo"), ("age", .null)]

/-- A predicate without an equality. -/
def notYoung : Predicate :=
  .all [.negation (.test "age" .lt (.text "5")), .test "name" .contains (.text "mi")]

/-- Equality in small letters finds the cat by its name, and a predicate without an equality is as
unknown as before. -/
theorem truth_registered_ignoringCase :
    (registry.register ignoringCase).find? .eq = some ignoringCase ∧
      notYoung.toCondition.truth (registry.register ignoringCase) cat = .ok .unknown ∧
      (Predicate.test "name" .eq (.text "milo")).toCondition.truth registry cat = .ok .no ∧
      (Predicate.test "name" .eq (.text "milo")).toCondition.truth
        (registry.register ignoringCase) cat = .ok .yes := by
  have hlast := ((truth_registered [.registerAll builtins, .register ignoringCase]).2.1 .eq).2
    ignoringCase
  have hno : ∀ column v, Predicate.test column .eq v ∉ notYoung.leaves := by
    simp [notYoung, Predicate.leaves, Predicate.leavesOf]
  have hrest := (truth_registered [.registerAll builtins]).2.2 ignoringCase cat
  refine ⟨?_, (hrest.2.1 notYoung hno).trans rfl, rfl, ?_⟩
  · exact hlast.2 ⟨builtins, [], rfl, rfl, fun _ h => absurd h List.not_mem_nil⟩
  · have hthere : cat.field "name" ≠ .null := nofun
    exact (hrest.2.2.2 (by decide) "name" (.text "milo") hthere).trans rfl

end Memory

end Listing
