import Listing.Proofs.Registry
import Listing.Proofs.Sql.Compile

/-!
# What the database refuses

A test that carries texts is refused just when its column is missing in the table or its comparator
was not registered; when both are so, the column is reported.  A predicate of such tests is refused
just when one of them is, and reported is the first of them, whatever groups they stand in
(`compile_refused`).
-/

namespace Listing.Sql

variable {s : Schema} {os : List Operation} {column : String} {k : Comparator} {v : Value}

/-! ## Refused tests -/

/-- A table has no column of a name. -/
def Schema.Lacks (s : Schema) (column : String) : Prop := ∀ c ∈ s.columns, c.name ≠ column

instance (s : Schema) (column : String) : Decidable (s.Lacks column) :=
  inferInstanceAs (Decidable (∀ c ∈ s.columns, c.name ≠ column))

theorem Schema.lacks_iff : s.Lacks column ↔ s.find? column = none := by
  rw [Lacks, Schema.find?, List.find?_eq_none]
  simp

/-- A test names a column that a table lacks, or a comparator that none of some operations is for. -/
def Refused (s : Schema) (os : List Operation) : Predicate → Prop
  | .test column k _ => s.Lacks column ∨ ∀ o ∈ os, o.comparator ≠ k
  | _ => False

/-- What is said about a refused test: that the column is missing, or else that the comparator is. -/
def Schema.refusal (s : Schema) (column : String) (k : Comparator) : String :=
  if s.Lacks column then "Model " ++ s.model ++ " has no column " ++ Text.quoted column
  else "Unsupported operator for SQLAlchemy: " ++ Fault.comparatorText k

/-- A comparison that carries texts: a sequence of them for alternatives, otherwise one. -/
inductive Textual : Predicate → Prop
  | one {column : String} {k : Comparator} {v : Value} (hk : k ≠ .and ∧ k ≠ .or ∧ k ≠ .not)
      (hone : k ≠ .isIn) (hv : v.asText?.isSome) : Textual (.test column k v)
  | oneOf {column : String} {v : Value} {vs : List Value} (hvs : v.items? = some vs)
      (hv : ∀ w ∈ vs, w.asText?.isSome) : Textual (.test column .isIn v)

/-- A comparison that carries texts is no logical one. -/
theorem Textual.not_logical (h : Textual (.test column k v)) : k ≠ .and ∧ k ≠ .or ∧ k ≠ .not := by
  cases h with
  | one hk => exact hk
  | oneOf => decide

/-- A text has an order in a column, unless it may be read as a truth there. -/
theorem orderable_cast {c : Column} (hc : c.kind ≠ some .bool) (hv : v.asText?.isSome) :
    Orderable (c.cast v) := by
  cases v with
  | text text =>
    rcases cast_text_cases c text with ⟨hordered, -⟩ | ⟨-, hkind, -⟩
    · exact hordered
    · exact absurd hkind hc
  | symbol o =>
    have hsame : c.cast (.symbol o) = .symbol o := by
      unfold Column.cast
      cases c.kind <;> rfl
    rw [hsame]
    exact ⟨rfl, fun b hb => by cases hb⟩
  | _ => cases hv

/-- The operations of the library take texts. -/
theorem fault?_test_of_textual {c : Column} {o : Operation} (hc : c.kind ≠ some .bool)
    (ho : o ∈ builtins) (hk : o.comparator = k) (h : Textual (.test column k v)) :
    (o.test c v.tupleToList).fault? = none := by
  have hordered : ∀ r, k ≠ .isIn → (ordered r c v.tupleToList).fault? = none := by
    intro r hone
    cases h with
    | oneOf => exact absurd rfl hone
    | one _ _ hv =>
      have hsame : v.tupleToList = v := by
        cases v <;> first | rfl | cases hv
      rw [hsame, ordered_eq_test (orderable_cast hc hv)]
      rfl
  simp only [builtins, List.mem_cons, List.not_mem_nil, or_false] at ho
  rcases ho with rfl | rfl | rfl | rfl | rfl | rfl | rfl | rfl <;> subst hk
  · exact fault?_equals c _
  · exact hordered .gt (by decide)
  · exact hordered .ge (by decide)
  · exact hordered .lt (by decide)
  · exact hordered .le (by decide)
  · -- alternatives come in a sequence
    cases h with
    | one _ hone => exact absurd rfl hone
    | oneOf hvs =>
      rw [tupleToList_of_items hvs]
      rfl
  · rfl
  · rfl

/-- A test that carries texts fails to compile just when it is refused. -/
theorem leafFault?_textual (hs : ∀ c ∈ s.columns, c.kind ≠ some .bool) (hos : ∀ o ∈ os, o ∈ builtins)
    (h : Textual (.test column k v)) (e : Fault) :
    leafFault? s (.ofList os) (.test column k v) = some e ↔
      Refused s os (.test column k v) ∧
        e = .failure (.executor (.text (s.refusal column k)) (.text column)) := by
  have hserved : (Registry.ofList os).find? k = none ↔ ∀ o ∈ os, o.comparator ≠ k :=
    Registry.find?_ofList_eq_none
  rw [leafFault?_eq h.not_logical, Refused, Schema.refusal, ← hserved]
  cases hc : s.find? column with
  | none =>
    -- the column is looked up first
    have hlacks : s.Lacks column := Schema.lacks_iff.2 hc
    simp [hlacks, Fault.noColumn, eq_comm]
  | some c =>
    have hlacks : ¬s.Lacks column := by
      rw [Schema.lacks_iff, hc]
      exact Option.some_ne_none c
    cases ho : (Registry.ofList os).find? k with
    | none => simp [hlacks, Fault.notCompiled, eq_comm]
    | some o =>
      rcases Registry.of_find?_ofList ho with ⟨hmem, hk⟩
      have hkind := hs c (Schema.of_find? hc).1
      simp [hlacks, fault?_test_of_textual hkind (hos o hmem) hk h]

/-! ## Refused predicates -/

/-- A predicate whose tests carry texts compiles unless one of its tests names a column that the
table lacks or a comparator that was not registered.  It then fails with the column of the first such
test and with what is wrong with that test.  Only the tests and their order decide this. -/
theorem compile_refused (hs : ∀ c ∈ s.columns, c.kind ≠ some .bool)
    (hos : ∀ o ∈ os, o ∈ builtins) {p : Predicate} (hp : ∀ leaf ∈ p.leaves, Textual leaf) :
    ((∃ e, clause s (.ofList os) p.toCondition = .error e) ↔
      ∃ leaf ∈ p.leaves, Refused s os leaf) ∧
    (∀ e, clause s (.ofList os) p.toCondition = .error e ↔
      ∃ column k v, p.FirstLeaf (Refused s os) (.test column k v) ∧
        e = .failure (.executor (.text (s.refusal column k)) (.text column))) ∧
    ∀ q : Predicate, q.leaves = p.leaves →
      (clause s (.ofList os) q.toCondition).fault? =
        (clause s (.ofList os) p.toCondition).fault? := by
  have hrun := leftToRight_clause s (.ofList os)
  have hleaf : ∀ {column k v}, .test column k v ∈ p.leaves → ∀ e,
      (clause s (.ofList os) (Predicate.test column k v).toCondition = .error e ↔
        Refused s os (.test column k v) ∧
          e = .failure (.executor (.text (s.refusal column k)) (.text column))) := by
    intro column k v hmem e
    rw [← Outcome.fault?_eq_some]
    exact leafFault?_textual hs hos (hp _ hmem) e
  -- so refusing a leaf is failing to compile it
  have hrefused : ∀ leaf ∈ p.leaves,
      (∃ e, clause s (.ofList os) leaf.toCondition = .error e) ↔ Refused s os leaf := by
    intro leaf hmem
    rcases Predicate.exists_test_of_mem_leaves hmem with ⟨column, k, v, rfl⟩
    simp [hleaf hmem]
  refine ⟨?_, ?_, ?_⟩
  · rw [hrun.fails_iff]
    exact exists_congr fun leaf => and_congr_right (hrefused leaf)
  · intro e
    rw [hrun.error_iff]
    constructor
    · rintro ⟨leaf, hfirst, he⟩
      rcases Predicate.exists_test_of_mem_leaves hfirst.mem with ⟨column, k, v, rfl⟩
      exact ⟨column, k, v, hfirst.congr hrefused, ((hleaf hfirst.mem e).1 he).2⟩
    · rintro ⟨column, k, v, hfirst, rfl⟩
      refine ⟨_, hfirst.congr fun l hl => (hrefused l hl).symm, ?_⟩
      exact (hleaf hfirst.mem _).2 ⟨hfirst.holds, rfl⟩
  · intro q hq
    -- the groups are only the way to the leaves
    rw [fault?_clause, fault?_clause, hq]

def ticketSchema : Schema := ⟨"Ticket", "tickets", [⟨"number", some .int⟩, ⟨"title", some .text⟩]⟩

/-- Equality and alternatives only, equality registered twice. -/
def fewOperations : List Operation :=
  [⟨"EqualOperator", .eq, equals⟩, ⟨"InOperator", .isIn, isIn⟩, ⟨"EqualOperator", .eq, equals⟩]

/-- Of three tests the second is on a missing column with a comparator that is not registered, and it
stands deep inside; the third has such a comparator, too. -/
def ticketWish : Predicate :=
  .any [.test "number" .eq (.text "seven"),
    .negation (.all [.test "owner" .gt (.text "b"), .test "title" .contains (.text "c")])]

/-- The missing column of the second test is reported. -/
theorem compile_refused_tickets :
    (∀ c ∈ ticketSchema.columns, c.kind ≠ some .bool) ∧ (∀ o ∈ fewOperations, o ∈ builtins) ∧
      (∀ leaf ∈ ticketWish.leaves, Textual leaf) ∧
      clause ticketSchema (.ofList fewOperations) ticketWish.toCondition =
        .error (.failure (.executor (.text "Model Ticket has no column 'owner'")
          (.text "owner"))) := by
  have hs : ∀ c ∈ ticketSchema.columns, c.kind ≠ some .bool := by decide
  have hos : ∀ o ∈ fewOperations, o ∈ builtins := by simp [fewOperations, builtins]
  have hp : ∀ leaf ∈ ticketWish.leaves, Textual leaf := by
    intro leaf hleaf
    simp only [ticketWish, Predicate.leaves, Predicate.leavesOf, List.append_nil, List.cons_append,
      List.nil_append, List.mem_cons, List.not_mem_nil, or_false] at hleaf
    rcases hleaf with rfl | rfl | rfl
    all_goals exact .one (by decide) (by decide) rfl
  refine ⟨hs, hos, hp, ((compile_refused hs hos hp).2.1 _).2 ⟨"owner", .gt, .text "b", ?_, ?_⟩⟩
  · refine ⟨[.test "number" .eq (.text "seven")], [.test "title" .contains (.text "c")], rfl, ?_, ?_⟩
    · rw [List.forall_mem_singleton]
      rintro (hlacks | hserved)
      · exact absurd hlacks (by decide)
      · exact hserved _ List.mem_cons_self rfl
    · exact Or.inl (by decide)
  · have hrefusal : ticketSchema.refusal "owner" .gt = "Model Ticket has no column 'owner'" := by
      decide +kernel
    rw [hrefusal]

end Listing.Sql
