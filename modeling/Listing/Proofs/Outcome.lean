import Listing.Fault

/-!
# Outcomes taken apart

`bind_eq_ok` says what a computation of several steps that succeeds has done; proofs about such
computations use it and never unfold the steps.  `mapM_eq_ok` is the same for a step taken on every
member of a list.
-/

namespace Listing.Outcome

variable {α β γ : Type}

@[simp] theorem ok_bind (a : α) (f : α → Outcome β) : (Except.ok a : Outcome α) >>= f = f a := rfl

@[simp] theorem error_bind (e : Fault) (f : α → Outcome β) :
    (Except.error e : Outcome α) >>= f = .error e := rfl

@[simp] theorem pure_eq (a : α) : (pure a : Outcome α) = .ok a := rfl

@[simp] theorem throw_eq (e : Fault) : (throw e : Outcome α) = .error e := rfl

@[simp] theorem map_ok (f : α → β) (a : α) : f <$> (Except.ok a : Outcome α) = .ok (f a) := rfl

@[simp] theorem map_error (f : α → β) (e : Fault) :
    f <$> (Except.error e : Outcome α) = .error e := rfl

theorem map_eq_ok {f : α → β} {x : Outcome α} {b : β} :
    f <$> x = .ok b ↔ ∃ a, x = .ok a ∧ f a = b := by
  cases x <;> simp

/-- Two steps succeed just when the first does and the second does on what the first gave. -/
theorem bind_eq_ok {x : Outcome α} {f : α → Outcome β} {b : β} :
    x >>= f = .ok b ↔ ∃ a, x = .ok a ∧ f a = .ok b := by
  cases x with
  | error e => simp
  | ok a => simp

/-- Two checks hold one after the other just when both hold. -/
theorem bind_ite_eq_true {x y : Outcome Bool} :
    (x >>= fun b => if b = true then y else .ok false) = .ok true ↔ x = .ok true ∧ y = .ok true := by
  rw [bind_eq_ok]
  constructor
  · rintro ⟨b, hfirst, hrest⟩
    cases b with
    | false => cases hrest
    | true => exact ⟨hfirst, hrest⟩
  · rintro ⟨hfirst, hrest⟩
    exact ⟨true, hfirst, hrest⟩

/-- A step on every member of a list succeeds if it does on each. -/
theorem mapM_eq_ok {f : α → Outcome β} {g : α → β} {xs : List α}
    (h : ∀ x ∈ xs, f x = .ok (g x)) : xs.mapM f = .ok (xs.map g) := by
  induction xs with
  | nil => rfl
  | cons x xs ih =>
    have hx : f x = .ok (g x) := h x List.mem_cons_self
    have hxs : xs.mapM f = .ok (xs.map g) := ih fun y hy => h y (List.mem_cons_of_mem x hy)
    rw [List.mapM_cons, hx, ok_bind, hxs]
    rfl

/-- The same when only something about the results is known. -/
theorem exists_mapM_eq_ok {f : α → Outcome β} {g : β → γ} {h : α → γ} {xs : List α}
    (hf : ∀ x ∈ xs, ∃ b, f x = .ok b ∧ g b = h x) :
    ∃ bs, xs.mapM f = .ok bs ∧ bs.map g = xs.map h := by
  induction xs with
  | nil => exact ⟨[], rfl, rfl⟩
  | cons x xs ih =>
    obtain ⟨b, hb, hgb⟩ := hf x List.mem_cons_self
    obtain ⟨bs, hbs, hgbs⟩ := ih fun y hy => hf y (List.mem_cons_of_mem x hy)
    refine ⟨b :: bs, ?_, by rw [List.map_cons, List.map_cons, hgb, hgbs]⟩
    rw [List.mapM_cons, hb, ok_bind, hbs]
    rfl

/-! ## Faults -/

/-- The fault that a computation ends in, if it does. -/
def fault? : Outcome α → Option Fault
  | .ok _ => none
  | .error e => some e

theorem fault?_eq_none {x : Outcome α} : x.fault? = none ↔ ∃ a, x = .ok a := by
  cases x <;> simp [fault?]

theorem fault?_eq_some {x : Outcome α} {e : Fault} : x.fault? = some e ↔ x = .error e := by
  cases x <;> simp [fault?]

theorem fault?_map (f : α → β) (x : Outcome α) : fault? (f <$> x) = x.fault? := by
  cases x <;> rfl

/-- A step on the members of a list ends in the fault of the first member that it fails on. -/
theorem fault?_mapM (f : α → Outcome β) (xs : List α) :
    fault? (xs.mapM f) = xs.findSome? fun x => (f x).fault? := by
  induction xs with
  | nil => rfl
  | cons x xs ih =>
    rw [List.mapM_cons, List.findSome?_cons, ← ih]
    -- the rest is only reached if this member succeeds
    cases f x with
    | error e => rfl
    | ok b => cases xs.mapM f <;> rfl

end Listing.Outcome
