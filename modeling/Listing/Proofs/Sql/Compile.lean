import Listing.Proofs.Filter.Compile
import Listing.Proofs.Plan.Whitelist
import Listing.Proofs.Sql.Agreement
import Listing.Proofs.Table

/-!
# When conditions compile

A predicate compiles if its leaves do; if not, it fails with the fault of the first leaf that does
not (`fault?_clause`).  The filters of a request on columns of a table compile unless one of them
puts true or false in order (`Schema.filters_compile_iff`).
-/

namespace Listing.Sql

variable {s : Schema} {reg : Registry Operation}

/-! ## Faults of leaves -/

/-- Members are compiled one after the other. -/
theorem clauses_eq_mapM (qs : List Condition) : clauses s reg qs = qs.mapM (clause s reg) := by
  induction qs with
  | nil => rfl
  | cons q qs ih => rw [clauses, ih, List.mapM_cons]

/-- Conditions are compiled from left to right. -/
theorem leftToRight_clause (s : Schema) (reg : Registry Operation) :
    Condition.LeftToRight (clause s reg) where
  not q := by rw [clause_not, Outcome.fault?_map]
  and qs := by rw [clause_and, Outcome.fault?_map, clauses_eq_mapM, Outcome.fault?_mapM]
  or qs := by rw [clause_or, Outcome.fault?_map, clauses_eq_mapM, Outcome.fault?_mapM]

/-- The fault of a leaf, if it does not compile. -/
def leafFault? (s : Schema) (reg : Registry Operation) (leaf : Predicate) : Option Fault :=
  (clause s reg leaf.toCondition).fault?

/-- A predicate fails with the fault of the first of its leaves that does not compile. -/
theorem fault?_clause (p : Predicate) :
    (clause s reg p.toCondition).fault? = p.leaves.findSome? (leafFault? s reg) :=
  (leftToRight_clause s reg).fault?_eq p

/-! ## Leaves of filters -/

variable {c : Column} {column text : String}

/-- Only a column of truths reads a text as something without an order. -/
theorem orderable_of_read? {kind : Kind} (hkind : kind ≠ .bool) {v : Value}
    (h : kind.read? text = some v) : Orderable v := by
  -- a text is read as no text, list or map, and as a value of every other kind
  cases kind with
  | bool => exact absurd rfl hkind
  | text | list | map => cases h
  | int | float | decimal | uuid | date | moment =>
    rw [Kind.read?, Option.map_eq_some_iff] at h
    obtain ⟨a, -, rfl⟩ := h
    exact ⟨rfl, fun b hb => by cases hb⟩

/-- A text that is cast to the kind of a column has an order, unless it is read as a truth. -/
theorem cast_text_cases (c : Column) (text : String) :
    Orderable (c.cast (.text text)) ∧ ¬ (c.kind = some .bool ∧ (readBool? text).isSome) ∨
      (∃ b, c.cast (.text text) = .bool b) ∧ c.kind = some .bool ∧ (readBool? text).isSome := by
  unfold Column.cast
  cases hkind : c.kind with
  | none => exact .inl ⟨orderable_text text, by simp⟩
  | some kind =>
    rw [Value.castTo, Value.cast]
    by_cases hbool : kind = .bool
    · subst hbool
      rw [Kind.read?]
      -- a text that is not read as a truth stays a text
      cases hread : readBool? text with
      | none => exact .inl ⟨orderable_text text, by simp⟩
      | some b => exact .inr ⟨⟨b, rfl⟩, rfl, rfl⟩
    · refine .inl ⟨?_, by simp [hbool]⟩
      cases hread : kind.read? text with
      | none => exact orderable_text text
      | some v => exact orderable_of_read? hbool hread

/-- Whether a test puts true or false in order: it compares a column of truths by order with a text
that is read as one. -/
def Schema.ordersTruth (s : Schema) : Predicate → Bool
  | .test column k (.text text) =>
    [Comparator.gt, .ge, .lt, .le].contains k &&
      ((s.find? column).bind Column.kind == some .bool && (readBool? text).isSome)
  | _ => false

theorem fault?_equals (c : Column) (v : Value) : (equals c v).fault? = none := by
  unfold equals
  split <;> rfl

/-- An order with a text compiles unless the text is read as a truth. -/
theorem fault?_ordered (r : Relation) (c : Column) (text : String) :
    (ordered r c (.text text)).fault? =
      if c.kind == some .bool && (readBool? text).isSome then some .unorderedOperand else none := by
  rcases cast_text_cases c text with ⟨hordered, hkind⟩ | ⟨⟨b, hbool⟩, hkind, hread⟩
  · rw [ordered_eq_test hordered, if_neg (by simpa using hkind)]
    rfl
  · rw [ordered, hbool, hkind, hread]
    rfl

/-- A test fails for want of its column, then for want of an operation, then with its operation. -/
theorem leafFault?_eq {k : Comparator} (hlogic : k ≠ .and ∧ k ≠ .or ∧ k ≠ .not) (column : String)
    (v : Value) :
    leafFault? s reg (.test column k v) =
      (s.find? column).elim (some (.noColumn s.model column)) fun c =>
        (reg.find? k).elim (some (.notCompiled k column)) fun o =>
          (o.test c v.tupleToList).fault? := by
  rw [leafFault?, Predicate.toCondition, clause_leaf reg hlogic, Outcome.fault?_map]
  show Outcome.fault? (s.column column >>= _) = _
  rw [Schema.column, Comparator.ofSymbol?_symbol]
  cases s.find? column with
  | none => rfl
  | some c =>
    simp only [Outcome.pure_eq, Outcome.ok_bind, Option.elim_some]
    cases reg.find? k <;> rfl

/-- The fault of a leaf is that of the operation of its comparator on its column. -/
theorem leafFault?_of_find? {k : Comparator} {o : Operation} {v : Value}
    (hlogic : k ≠ .and ∧ k ≠ .or ∧ k ≠ .not) (hc : s.find? column = some c)
    (ho : reg.find? k = some o) :
    leafFault? s reg (.test column k v) = (o.test c v.tupleToList).fault? := by
  rw [leafFault?_eq hlogic, hc, ho, Option.elim_some, Option.elim_some]

/-- A test that a request asks for on a column of a table compiles unless it puts a truth in
order. -/
theorem leafFault?_requested {leaf : Predicate} (h : leaf.Requested)
    (hcolumn : leaf.column? = some column) (hc : s.find? column = some c) :
    leafFault? s registry leaf =
      if s.ordersTruth leaf then some .unorderedOperand else none := by
  cases h with
  | compares h =>
    cases h with
    | @one k hk text =>
      cases hcolumn
      have horders : s.ordersTruth (.test column k (.text text)) =
          ([Comparator.gt, .ge, .lt, .le].contains k &&
            (c.kind == some .bool && (readBool? text).isSome)) := by
        rw [Schema.ordersTruth, hc]
        rfl
      rw [horders]
      simp only [List.mem_cons, List.not_mem_nil, or_false] at hk
      rcases hk with rfl | rfl | rfl | rfl | rfl
      · rw [leafFault?_of_find? (by decide) hc rfl]
        exact fault?_equals c (.text text)
      · rw [leafFault?_of_find? (by decide) hc rfl]
        exact fault?_ordered .gt c text
      · rw [leafFault?_of_find? (by decide) hc rfl]
        exact fault?_ordered .ge c text
      · rw [leafFault?_of_find? (by decide) hc rfl]
        exact fault?_ordered .lt c text
      · rw [leafFault?_of_find? (by decide) hc rfl]
        exact fault?_ordered .le c text
    | oneOf texts =>
      cases hcolumn
      rw [leafFault?_of_find? (by decide) hc rfl]
      rfl
  | absent =>
    cases hcolumn
    rw [leafFault?_of_find? (by decide) hc rfl]
    rfl
  | contains =>
    cases hcolumn
    rw [leafFault?_of_find? (by decide) hc rfl]
    rfl

/-! ## Filters -/

variable {whitelist : Whitelist}

/-- A predicate that keeps to a column tests no other. -/
theorem column?_of_mem_leaves {allowed : List Operator} {p : Predicate}
    (h : p.KeepsTo column allowed) : ∀ leaf ∈ p.leaves, leaf.column? = some column := by
  induction h with
  | test v mem image =>
    intro leaf hleaf
    cases List.mem_singleton.1 hleaf
    rfl
  | differs v mem =>
    intro leaf hleaf
    cases List.mem_singleton.1 hleaf
    rfl
  | negation mem inner ih => exact ih

/-- The conjunction of the predicates that a filter becomes. -/
def filterConjunction (whitelist : Whitelist) (f : Filter) : Predicate :=
  .all ((Filter.compile whitelist f).map Prod.snd)

/-- A filter asks for tests of whitelisted columns. -/
theorem of_mem_leaves_filterConjunction {f : Filter} {leaf : Predicate}
    (h : leaf ∈ (filterConjunction whitelist f).leaves) :
    leaf.Requested ∧ ∃ column ∈ whitelist.names, leaf.column? = some column := by
  constructor
  · rw [filterConjunction, Predicate.leaves, Predicate.leavesOf_eq_flatMap, List.mem_flatMap] at h
    obtain ⟨p, hp, hleaf⟩ := h
    obtain ⟨e, he, rfl⟩ := List.mem_map.1 hp
    obtain ⟨raw, hraw⟩ := Filter.exists_accepted?_of_mem_compile he
    exact Filter.accepted?_requested hraw leaf hleaf
  · obtain ⟨entries, hentries, -, hkeeps⟩ := Filter.filtersOnly_compile whitelist f
    rw [filterConjunction, hentries, Predicate.leaves, Predicate.leavesOf_eq_flatMap,
      List.mem_flatMap] at h
    obtain ⟨p, hp, hleaf⟩ := h
    obtain ⟨e, he, rfl⟩ := List.mem_map.1 hp
    obtain ⟨allowed, hallowed, hkeepsTo⟩ := hkeeps e he
    have hentry : (e.1, allowed) ∈ whitelist.entries := Table.lookup_eq_some_iff.1 hallowed
    exact ⟨e.1, List.mem_map_of_mem hentry, column?_of_mem_leaves hkeepsTo leaf hleaf⟩

/-- The fault of a filter on columns of a table, if it does not compile: a test puts true or false
in order. -/
theorem fault?_filterConjunction (hw : ∀ column ∈ whitelist.names, (s.find? column).isSome)
    (f : Filter) :
    (clause s registry (filterConjunction whitelist f).toCondition).fault? =
      if (filterConjunction whitelist f).leaves.any s.ordersTruth then some .unorderedOperand
      else none := by
  have hleaf : ∀ leaf ∈ (filterConjunction whitelist f).leaves, leafFault? s registry leaf =
      if s.ordersTruth leaf then some .unorderedOperand else none := by
    intro leaf hmem
    obtain ⟨hrequested, column, hlisted, hcolumn⟩ := of_mem_leaves_filterConjunction hmem
    obtain ⟨c, hc⟩ := Option.isSome_iff_exists.1 (hw column hlisted)
    exact leafFault?_requested hrequested hcolumn hc
  rw [fault?_clause]
  generalize (filterConjunction whitelist f).leaves = leaves at hleaf
  induction leaves with
  | nil => rfl
  | cons leaf leaves ih =>
    have hrest := ih fun l hl => hleaf l (List.mem_cons_of_mem leaf hl)
    rw [List.findSome?_cons, hleaf leaf List.mem_cons_self, hrest, List.any_cons]
    cases s.ordersTruth leaf <;> rfl

/-- A filter on columns of a table compiles just when none of its tests puts true or false in order;
otherwise it fails for want of an order. -/
theorem Schema.filters_compile_iff (hw : ∀ column ∈ whitelist.names, (s.find? column).isSome)
    (f : Filter) :
    ((∃ d, clause s registry (filterConjunction whitelist f).toCondition = .ok d) ↔
      ∀ leaf ∈ (filterConjunction whitelist f).leaves, s.ordersTruth leaf = false) ∧
    ((∃ leaf ∈ (filterConjunction whitelist f).leaves, s.ordersTruth leaf = true) →
      clause s registry (filterConjunction whitelist f).toCondition =
        .error .unorderedOperand) := by
  have hnone : (∀ leaf ∈ (filterConjunction whitelist f).leaves, s.ordersTruth leaf = false) ↔
      (filterConjunction whitelist f).leaves.any s.ordersTruth = false := by simp
  rw [← Outcome.fault?_eq_none, ← Outcome.fault?_eq_some, fault?_filterConjunction hw,
    ← List.any_eq_true, hnone]
  cases (filterConjunction whitelist f).leaves.any s.ordersTruth <;> simp

def petSchema : Schema :=
  ⟨"Pet", "pets", [⟨"id", some .int⟩, ⟨"age", some .int⟩, ⟨"vaccinated", some .bool⟩]⟩

def petWhitelist : Whitelist := .ofList [("age", [.gt]), ("vaccinated", [.gt, .not])]

/-- Pets may be asked for that are not marked above a word that is neither true nor false. -/
theorem filters_compile_pets :
    (∀ column ∈ petWhitelist.names, (petSchema.find? column).isSome) ∧
      ∃ d, clause petSchema registry (filterConjunction petWhitelist
        (.ofList [("age", .one "$gt:3"), ("vaccinated", .one "$not:$gt:maybe")])).toCondition =
          .ok d := by
  have hw : ∀ column ∈ petWhitelist.names, (petSchema.find? column).isSome := by decide
  refine ⟨hw, (Schema.filters_compile_iff hw _).1.2 ?_⟩
  decide +kernel

/-- No query asks for pets that are marked above true. -/
theorem pets_above_true :
    clause petSchema registry (filterConjunction petWhitelist
      (.ofList [("vaccinated", .one "$gt:true")])).toCondition = .error .unorderedOperand := by
  rw [← Outcome.fault?_eq_some, fault?_filterConjunction (by decide), if_pos (by decide +kernel)]

end Listing.Sql
