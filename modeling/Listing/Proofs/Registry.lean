import Listing.Registry

/-!
# Registered operations

Of the operations that were registered for a comparator the last one serves it
(`find?_registerAll`).  A comparator is not served just when none was registered for it.  Whether
operations come one by one or several at a time makes no difference (`ofCalls_eq`).
-/

namespace Listing.Registry

variable {ω : Type} [Comparing ω] {os : List ω} {o : ω} {c : Comparator}

/-- A comparator has the last operation that was registered for it, and without one what it had. -/
theorem find?_registerAll (r : Registry ω) (os : List ω) (c : Comparator) :
    (r.registerAll os).find? c =
      (os.reverse.find? fun o => Comparing.comparator o = c).or (r.find? c) := by
  induction os generalizing r with
  | nil => rfl
  | cons o os ih =>
    show ((r.register o).registerAll os).find? c = _
    rw [ih, find?_register, List.reverse_cons, List.find?_append, Option.or_assoc]
    congr 1
    by_cases hc : Comparing.comparator o = c
    · simp [hc]
    · simp [hc, Ne.symm hc]

/-- A registry made at once is searched from its end. -/
theorem find?_ofList (os : List ω) (c : Comparator) :
    (ofList os).find? c = os.reverse.find? fun o => Comparing.comparator o = c := by
  rw [ofList, find?_registerAll, find?_empty, Option.or_none]

theorem of_find?_ofList (h : (ofList os).find? c = some o) :
    o ∈ os ∧ Comparing.comparator o = c := by
  rw [find?_ofList] at h
  constructor
  · exact List.mem_reverse.1 (List.mem_of_find?_eq_some h)
  · have hfound := List.find?_some h
    exact of_decide_eq_true hfound

/-- A comparator without a registered operation is not served. -/
theorem find?_ofList_eq_none :
    (ofList os).find? c = none ↔ ∀ o ∈ os, Comparing.comparator o ≠ c := by
  rw [find?_ofList, List.find?_eq_none]
  simp

/-- The operation of a comparator is the one registered for it that no other one comes after. -/
theorem find?_ofList_eq_some :
    (ofList os).find? c = some o ↔
      ∃ before after, os = before ++ o :: after ∧ Comparing.comparator o = c ∧
        ∀ p ∈ after, Comparing.comparator p ≠ c := by
  rw [find?_ofList, List.find?_eq_some_iff_append]
  constructor
  · rintro ⟨ho, later, earlier, hos, hlater⟩
    -- the last one in order is the first one from the end
    have hread : os = earlier.reverse ++ o :: later.reverse := by
      rw [← List.reverse_reverse os, hos]
      simp
    refine ⟨earlier.reverse, later.reverse, hread, of_decide_eq_true ho, ?_⟩
    intro p hp
    simpa using hlater p (List.mem_reverse.1 hp)
  · rintro ⟨before, after, rfl, ho, hafter⟩
    refine ⟨decide_eq_true ho, after.reverse, before.reverse, by simp, ?_⟩
    intro p hp
    simpa using hafter p (List.mem_reverse.1 hp)

/-! ## Calls -/

/-- A call that registers one operation, or several in their order. -/
inductive Call (ω : Type) where
  | register (o : ω)
  | registerAll (os : List ω)

omit [Comparing ω] in
/-- The operations that a call registers. -/
def Call.operations : Call ω → List ω
  | register o => [o]
  | registerAll os => os

/-- The registry after a call. -/
def Call.run (r : Registry ω) : Call ω → Registry ω
  | register o => r.register o
  | registerAll os => r.registerAll os

/-- The registry after some calls on an empty one. -/
def ofCalls (calls : List (Call ω)) : Registry ω := calls.foldl Call.run empty

theorem Call.run_eq (r : Registry ω) (call : Call ω) :
    call.run r = r.registerAll call.operations := by
  cases call <;> rfl

/-- Several calls register what each of them does, one after the other. -/
theorem foldl_run (r : Registry ω) (calls : List (Call ω)) :
    calls.foldl Call.run r = r.registerAll (calls.flatMap Call.operations) := by
  induction calls generalizing r with
  | nil => rfl
  | cons call calls ih =>
    rw [List.foldl_cons, ih, Call.run_eq, List.flatMap_cons]
    exact List.foldl_append.symm

/-- Only the operations count that were registered, in their order. -/
theorem ofCalls_eq (calls : List (Call ω)) :
    ofCalls calls = ofList (calls.flatMap Call.operations) := foldl_run empty calls

end Listing.Registry
