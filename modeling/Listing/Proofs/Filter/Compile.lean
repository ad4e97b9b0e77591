import Listing.Filter.Compile
import Listing.Proofs.Predicate.Truth

/-!
# Statements that are accepted

A statement is accepted on a column if the whitelist has the column and the statement compiles there.
The predicate of a column is that of its last accepted statement (`compileColumn_fst`), whatever
stands around it.  Each leaf of such a predicate is a test that statements can ask for: a comparison
with a text or with some texts, or a test for absence (`accepted?_requested`).
-/

namespace Listing

namespace Predicate

/-- A comparison of a column with a text, or with some texts of which it must equal one. -/
inductive Compares (column : String) : List String → Predicate → Prop
  | one {c : Comparator} (hc : c ∈ [Comparator.eq, .gt, .ge, .lt, .le]) (s : String) :
      Compares column [s] (test column c (.text s))
  | oneOf (ss : List String) : Compares column ss (test column .isIn (.tuple (ss.map .text)))

/-- A test that a request can put into a plan. -/
inductive Requested : Predicate → Prop
  | compares {column : String} {ss : List String} {leaf : Predicate}
      (h : Compares column ss leaf) : Requested leaf
  | absent (column : String) : Requested (test column .isNull .null)
  | contains (column term : String) : Requested (test column .contains (.text term))

end Predicate

/-- Only a test for absence lacks a value. -/
theorem Statement.inner_of_read? {raw : String} {s : Statement} (h : read? raw = some s)
    (hvalue : s.value = none) : s.inner = Operator.null.symbol := by
  unfold read? at h
  simp only at h
  split at h
  · split at h
    · -- the statement without a marker, with one, with two, and with more; those that lack a value
      -- are for the symbol of absence
      cases h
      rfl
    · cases h
      cases hvalue
  · split at h
    · cases h
      rfl
    · cases h
      cases hvalue
  · cases h
    cases hvalue
  · cases h

namespace Filter

open Predicate

variable {whitelist : Whitelist} {column : String} {allowed : List Operator}

/-- The predicate of a statement that is accepted on a column. -/
def accepted? (whitelist : Whitelist) (column raw : String) : Option Predicate :=
  (whitelist.lookup column).bind fun allowed => (compileStatement column allowed raw).toOption

/-- Nothing is accepted outside the whitelist. -/
theorem accepted?_of_outside (h : whitelist.lookup column = none) (raw : String) :
    accepted? whitelist column raw = none := by
  rw [accepted?, h]
  rfl

/-- Of the statements of a column only the accepted ones leave predicates. -/
theorem compileAll_fst (column : String) (allowed : List Operator) (raws : List String) :
    (compileAll column allowed raws).1 =
      raws.filterMap fun raw => (compileStatement column allowed raw).toOption := by
  induction raws with
  | nil => rfl
  | cons raw raws ih =>
    rw [compileAll]
    cases h : compileStatement column allowed raw with
    | error note =>
      rw [List.filterMap_cons_none (by rw [h]; rfl)]
      exact ih
    | ok p =>
      rw [List.filterMap_cons_some (b := p) (by rw [h]; rfl), ← ih]

/-- The predicate of a column is that of its last accepted statement. -/
theorem compileColumn_fst (whitelist : Whitelist) (column : String) (statements : Statements) :
    (compileColumn whitelist column statements).1 =
      (statements.toList.filterMap (accepted? whitelist column)).getLast? := by
  rw [compileColumn]
  cases hl : whitelist.lookup column with
  | none =>
    have hnone : statements.toList.filterMap (accepted? whitelist column) = [] := by
      rw [List.filterMap_eq_nil_iff]
      exact fun raw _ => accepted?_of_outside hl raw
    rw [hnone]
    rfl
  | some allowed =>
    have hsome : accepted? whitelist column =
        fun raw => (compileStatement column allowed raw).toOption := by
      funext raw
      rw [accepted?, hl]
      rfl
    rw [hsome, ← compileAll_fst]

/-- The predicate of a filtered column comes from one of its statements. -/
theorem exists_accepted?_of_mem_compile {f : Filter} {e : String × Predicate}
    (h : e ∈ compile whitelist f) : ∃ raw, accepted? whitelist e.1 raw = some e.2 := by
  rcases List.mem_filterMap.1 h with ⟨entry, -, hentry⟩
  rcases Option.map_eq_some_iff.1 hentry with ⟨p, hp, rfl⟩
  rw [compileColumn_fst] at hp
  rcases List.mem_filterMap.1 (List.mem_of_getLast? hp) with ⟨raw, -, hraw⟩
  exact ⟨raw, hraw⟩

/-! ## What statements ask for -/

/-- An operator applied to the value of a statement makes a single test. -/
theorem requested_onValue {o : Operator} {value : Option String} (h : value = none → o = .null) :
    ∀ leaf ∈ (o.onValue column (operandValue o value)).leaves, leaf.Requested := by
  cases value with
  | none =>
    rw [h rfl]
    exact List.forall_mem_singleton.2 (.absent column)
  | some s =>
    cases o with
    | null => exact List.forall_mem_singleton.2 (.absent column)
    | isIn => exact List.forall_mem_singleton.2 (.compares (.oneOf (Text.pieces ',' s)))
    | eq | gt | gte | lt | lte | not =>
      exact List.forall_mem_singleton.2 (.compares (.one (by simp) s))

/-- The leaves of what a statement compiles to are tests that statements ask for. -/
theorem compileStatement_requested {raw : String} {p : Predicate}
    (h : compileStatement column allowed raw = .ok p) : ∀ leaf ∈ p.leaves, leaf.Requested := by
  unfold compileStatement at h
  split at h
  · cases h
  · next s hread =>
    split at h
    · cases h
    · next inner hinner =>
      split at h
      · cases h
      · have hleaves : ∀ leaf ∈ (inner.onValue column (operandValue inner s.value)).leaves,
            leaf.Requested := by
          apply requested_onValue
          intro hvalue
          rw [Statement.inner_of_read? hread hvalue, Operator.ofSymbol?_symbol] at hinner
          exact (Option.some.inj hinner).symm
        -- a negation around the test has the same leaves
        simp only at h
        split at h
        · cases h
          exact hleaves
        · split at h
          · cases h
          · split at h
            · cases h
              exact hleaves
            · cases h

/-- The leaves of the predicate of an accepted statement are tests that statements ask for. -/
theorem accepted?_requested {raw : String} {p : Predicate}
    (h : accepted? whitelist column raw = some p) : ∀ leaf ∈ p.leaves, leaf.Requested := by
  rcases Option.bind_eq_some_iff.1 h with ⟨allowed, -, hcompile⟩
  cases hs : compileStatement column allowed raw with
  | error note =>
    rw [hs] at hcompile
    cases hcompile
  | ok q =>
    rw [hs] at hcompile
    cases hcompile
    exact compileStatement_requested hs

end Filter

end Listing
