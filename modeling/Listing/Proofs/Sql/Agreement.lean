import Listing.Proofs.Memory.Operation
import Listing.Proofs.Sql.Rows
import Listing.Proofs.Sql.Tests

/-!
# Memory and database agree

On a table of integer and text columns, predicates that compare them with values of their kind have
the same truth on an item in memory as their clause has on its row (`Schema.Fits.agrees`), although
negation stays outside in memory and goes into the tests of a clause.
-/

namespace Listing

/-- The relation that a comparator asks for, if it compares with one value. -/
def Comparator.relation? : Comparator → Option Sql.Relation
  | eq => some .eq
  | gt => some .gt
  | ge => some .ge
  | lt => some .lt
  | le => some .le
  | _ => none

/-- A comparator with a relation is no logical one. -/
theorem Comparator.not_logical_of_relation? {comparator : Comparator} {r : Sql.Relation}
    (h : comparator.relation? = some r) :
    comparator ≠ .and ∧ comparator ≠ .or ∧ comparator ≠ .not := by
  cases comparator <;> first | (cases h; done) | simp

/-- A comparator with a relation is no test for absence. -/
theorem Comparator.bne_isNull_of_relation? {comparator : Comparator} {r : Sql.Relation}
    (h : comparator.relation? = some r) : (comparator != .isNull) = true := by
  cases comparator <;> first | rfl | cases h

namespace Sql

/-- The predicates that suit a table: comparisons of a column with a value that it takes, or with
one of several, tests for absence, and any combination of these. -/
inductive Schema.Fits (s : Schema) : Predicate → Prop
  | compare {column : String} {c : Column} {comparator : Comparator} {r : Relation} {v : Value}
      (hc : s.find? column = some c) (hr : comparator.relation? = some r) (hv : c.Takes v) :
      Fits s (.test column comparator v)
  | isIn {column : String} {c : Column} {v : Value} {vs : List Value}
      (hc : s.find? column = some c) (hvs : v.items? = some vs) (hne : vs ≠ [])
      (hv : ∀ w ∈ vs, c.Takes w) : Fits s (.test column .isIn v)
  | isNull {column : String} {c : Column} {v : Value} (hc : s.find? column = some c) :
      Fits s (.test column .isNull v)
  | negation {p : Predicate} (hp : Fits s p) : Fits s (.negation p)
  | all {ps : List Predicate} (hps : ∀ p ∈ ps, Fits s p) : Fits s (.all ps)
  | any {ps : List Predicate} (hps : ∀ p ∈ ps, Fits s p) : Fits s (.any ps)

/-- A value that a column takes is no tuple. -/
theorem Column.Takes.tupleToList_eq {c : Column} {v : Value} (h : c.Takes v) :
    v.tupleToList = v := by
  cases h <;> rfl

/-- A sequence of values is taken as a list. -/
theorem tupleToList_of_items {v : Value} {vs : List Value} (h : v.items? = some vs) :
    v.tupleToList = .list vs := by
  cases v <;> cases h <;> rfl

variable {s : Schema} {fields : List (String × Value)} {column : String} {c : Column} {v w : Value}

/-! ## Single tests in memory -/

/-- A comparison is evaluated on the value of its field, and is unknown if there is none. -/
theorem leafTruth_field {item : Value} (h : item.field column = w) (comparator : Comparator)
    (v : Value) :
    Condition.leafTruth Memory.registry item comparator (some (.text column)) v =
      if w.isNull && comparator != .isNull then .ok .unknown
      else Truth.ofBool <$> Memory.evaluate Memory.registry comparator w v := by
  show (if (item.field column).isNull && comparator != .isNull then _ else _) = _
  rw [h]
  split
  · rfl
  · cases Memory.evaluate Memory.registry comparator w v <;> rfl

/-- A comparison of a column is evaluated on its value in the item. -/
theorem leafTruth_record (hs : s.Flat) (hc : s.find? column = some c) (comparator : Comparator)
    (v : Value) :
    Condition.leafTruth Memory.registry (.record fields) comparator (some (.text column)) v =
      if (c.valueIn fields).isNull && comparator != .isNull then .ok .unknown
      else Truth.ofBool <$> Memory.evaluate Memory.registry comparator (c.valueIn fields) v := by
  obtain ⟨hmem, hname⟩ := Schema.of_find? hc
  have hpath : '.' ∉ column.toList := hname ▸ hs c hmem
  have hfield : (Value.record fields).field column = c.valueIn fields := by
    rw [Value.field_record hpath, ← hname]
    rfl
  exact leafTruth_field hfield comparator v

theorem ordered_eq_ok (hv : c.Holds v) (hw : c.Takes w) (hne : v.isNull = false)
    (accepted : Ordering → Bool) :
    Memory.ordered accepted v w =
      .ok (accepted ((Cell.ofScalar v).order (.ofScalar (c.cast w)))) := by
  rw [Memory.ordered, hne, hw.castLike_eq_cast hv hne,
    hv.order?_eq_ok hw.holds_cast hne hw.cast_isNull]
  rfl

theorem equals_eq_ok (hv : c.Holds v) (hw : c.Takes w) (hne : v.isNull = false) :
    Memory.equals v w = .ok ((Cell.ofScalar v).order (.ofScalar (c.cast w)) == .eq) := by
  rw [Memory.equals, hw.castLike_eq_cast hv hne, hv.equal_eq_ok hw.holds_cast hne hw.cast_isNull]

/-- A comparison in memory is that of the cells. -/
theorem evaluate_eq_ok {comparator : Comparator} {r : Relation}
    (hr : comparator.relation? = some r) (hv : c.Holds v) (hw : c.Takes w)
    (hne : v.isNull = false) :
    Memory.evaluate Memory.registry comparator v w =
      .ok (r.accepts ((Cell.ofScalar v).order (.ofScalar (c.cast w)))) := by
  cases comparator <;> cases hr
  · exact equals_eq_ok hv hw hne
  · exact ordered_eq_ok hv hw hne _
  · exact ordered_eq_ok hv hw hne _
  · exact ordered_eq_ok hv hw hne _
  · exact ordered_eq_ok hv hw hne _

/-- A value is one of several when its cell is one of theirs. -/
theorem equalsOne_eq_ok {vs : List Value} (hv : c.Holds v) (hvs : ∀ w ∈ vs, c.Takes w)
    (hne : v.isNull = false) :
    Memory.equalsOne v vs =
      .ok (vs.any fun w => (Cell.ofScalar v).order (.ofScalar (c.cast w)) == .eq) :=
  Memory.equalsOne_eq_any fun w hw => equals_eq_ok hv (hvs w hw) hne

/-! ## Single tests in the database -/

/-- A value that has an order in the database: neither nothing nor true or false. -/
def Orderable (v : Value) : Prop := v.isNull = false ∧ ∀ b, v ≠ .bool b

theorem orderable_text (text : String) : Orderable (.text text) :=
  ⟨rfl, fun b hb => by cases hb⟩

/-- What a column takes is neither nothing nor a truth, even after it was cast. -/
theorem Column.Takes.orderable (hw : c.Takes w) : Orderable (c.cast w) := by
  refine ⟨hw.cast_isNull, ?_⟩
  intro b hbool
  have hholds := hw.holds_cast
  rw [hbool] at hholds
  cases hholds

/-- Equality with such a value is one test. -/
theorem equals_eq_test (h : Orderable (c.cast w)) :
    equals c w = .ok (.compare c .eq (c.cast w)) := by
  obtain ⟨hnull, hbool⟩ := h
  unfold equals
  generalize c.cast w = u at *
  -- nothing and truths become tests of their own
  cases u with
  | null => cases hnull
  | bool b => exact absurd rfl (hbool b)
  | _ => rfl

/-- An order with such a value is one test. -/
theorem ordered_eq_test (h : Orderable (c.cast w)) (r : Relation) :
    ordered r c w = .ok (.compare c r (c.cast w)) := by
  obtain ⟨hnull, hbool⟩ := h
  unfold ordered
  generalize c.cast w = u at *
  cases u with
  | null => cases hnull
  | bool b => exact absurd rfl (hbool b)
  | _ => rfl

/-- The test of a column that a comparison with one value becomes. -/
theorem leafTest_eq_ok {comparator : Comparator} {r : Relation} (hc : s.find? column = some c)
    (hr : comparator.relation? = some r) (hw : Orderable (c.cast w)) :
    leafTest s registry comparator.symbol (some (.text column)) w =
      .ok (.compare c r (c.cast w)) := by
  show s.column column >>= _ = _
  rw [Schema.column_eq_ok hc, Outcome.ok_bind]
  cases comparator <;> cases hr
  · exact equals_eq_test hw
  · exact ordered_eq_test hw .gt
  · exact ordered_eq_test hw .lt
  · exact ordered_eq_test hw .ge
  · exact ordered_eq_test hw .le

/-! ## Predicates -/

/-- The truth of a test on the row of an item. -/
def Test.truthOn (s : Schema) (fields : List (String × Value)) (t : Test Value) : Truth :=
  (t.map .ofScalar).truth (s.row fields)

/-- Negation goes into a test. -/
theorem Test.truthOn_negate (t : Test Value) :
    t.negate.truthOn s fields = (t.truthOn s fields).not := by
  rw [truthOn, map_negate, truth_negate]
  rfl

/-- A condition is compiled to a clause that has its truth on every item of a table. -/
def Schema.Agrees (s : Schema) (q : Condition) : Prop :=
  ∃ d, clause s registry q = .ok d ∧ d.Forall Test.Typed ∧
    ∀ fields, s.Holds fields →
      q.truth Memory.registry (.record fields) = .ok (d.eval (Test.truthOn s fields))

/-- A comparison on the row of an item is one of cells, and unknown for a missing value. -/
theorem truthOn_compare (hc : c ∈ s.columns) (hf : s.Holds fields) (hw : c.Takes w)
    (r : Relation) :
    (Test.compare c r (c.cast w)).truthOn s fields =
      if (c.valueIn fields).isNull then .unknown
      else .ofBool (r.accepts
        ((Cell.ofScalar (c.valueIn fields)).order (.ofScalar (c.cast w)))) := by
  show compareCells c r ((s.row fields).cell c) _ = _
  rw [Schema.cell_row hc, (hf c hc).compareCells_eq hw.holds_cast hw.cast_isNull]

/-- A comparison with several values on the row of an item is true just when the value of the column
is one of them, and unknown if that is missing. -/
theorem truthOn_oneOf {vs : List Value} (hc : c ∈ s.columns) (hf : s.Holds fields) (hne : vs ≠ [])
    (hvs : ∀ w ∈ vs, c.Takes w) :
    (Test.oneOf c false (vs.map c.cast)).truthOn s fields =
      if (c.valueIn fields).isNull then .unknown
      else .ofBool (vs.any fun w =>
        (Cell.ofScalar (c.valueIn fields)).order (.ofScalar (c.cast w)) == .eq) := by
  -- the test is true when one of the comparisons is
  have hone : (Test.oneOf c false (vs.map c.cast)).truthOn s fields =
      .any (vs.map fun w => (Test.compare c .eq (c.cast w)).truthOn s fields) := by
    simp only [Test.truthOn, Test.map, Test.truth, negatedIf, List.map_map, Function.comp_def]
    rfl
  have heach : vs.map (fun w => (Test.compare c .eq (c.cast w)).truthOn s fields) =
      vs.map fun w => if (c.valueIn fields).isNull then .unknown
        else .ofBool ((Cell.ofScalar (c.valueIn fields)).order (.ofScalar (c.cast w)) == .eq) :=
    List.map_congr_left fun w hw => truthOn_compare hc hf (hvs w hw) .eq
  rw [hone, heach]
  -- without a value each comparison is unknown, and there is at least one
  split
  · exact Truth.any_map_unknown hne
  · exact Truth.any_map_ofBool _ vs

/-- A comparison becomes its test.  The three logical comparators make no comparison. -/
theorem clause_leaf (reg : Registry Operation) {comparator : Comparator}
    (hlogic : comparator ≠ .and ∧ comparator ≠ .or ∧ comparator ≠ .not) (column : String)
    (v : Value) :
    clause s reg (.leaf comparator column v) =
      Clause.test <$> leafTest s reg comparator.symbol (some (.text column)) v := by
  rw [Condition.leaf, clause, Condition.name_symbol, Outcome.ok_bind,
    Comparator.ofSymbol?_symbol]
  cases leafTest s reg comparator.symbol (some (.text column)) v <;>
    cases comparator <;> first | rfl | simp at hlogic

/-- A comparison agrees if its test does. -/
theorem Schema.Agrees.leaf {comparator : Comparator}
    (hlogic : comparator ≠ .and ∧ comparator ≠ .or ∧ comparator ≠ .not) {t : Test Value}
    (htest : leafTest s registry comparator.symbol (some (.text column)) v = .ok t)
    (ht : t.Typed)
    (htruth : ∀ fields, s.Holds fields →
      Condition.leafTruth Memory.registry (.record fields) comparator (some (.text column)) v =
        .ok (t.truthOn s fields)) :
    s.Agrees (.leaf comparator column v) := by
  refine ⟨.test t, by rw [clause_leaf registry hlogic, htest]; rfl, ht, fun fields hf => ?_⟩
  rw [Condition.truth_leaf hlogic, htruth fields hf]
  rfl

/-- A comparison of a column with a value that it takes agrees. -/
theorem Schema.agrees_compare {comparator : Comparator} {r : Relation} (hs : s.Flat)
    (hc : s.find? column = some c) (hr : comparator.relation? = some r) (hw : c.Takes w) :
    s.Agrees (.leaf comparator column w) := by
  have hmem := (Schema.of_find? hc).1
  have htyped : (Test.compare c r (c.cast w)).Typed := ⟨hw.holds_cast, hw.cast_isNull⟩
  refine .leaf (Comparator.not_logical_of_relation? hr) (leafTest_eq_ok hc hr hw.orderable)
    htyped ?_
  intro fields hf
  rw [leafTruth_record hs hc, Comparator.bne_isNull_of_relation? hr, Bool.and_true,
    truthOn_compare hmem hf hw]
  cases hne : (c.valueIn fields).isNull with
  | true => rfl
  | false =>
    rw [evaluate_eq_ok hr (hf c hmem) hw hne]
    rfl

/-- A comparison with several values that a column takes agrees, as long as there is one. -/
theorem Schema.agrees_isIn {vs : List Value} (hs : s.Flat) (hc : s.find? column = some c)
    (hne : vs ≠ []) (hvs : ∀ w ∈ vs, c.Takes w) :
    s.Agrees (.leaf .isIn column (.list vs)) := by
  have hmem := (Schema.of_find? hc).1
  have htest : leafTest s registry "in" (some (.text column)) (.list vs) =
      .ok (.oneOf c false (vs.map c.cast)) := by
    show s.column column >>= _ = _
    rw [column_eq_ok hc]
    rfl
  have htyped : (Test.oneOf c false (vs.map c.cast)).Typed := by
    intro u hu
    obtain ⟨w, hw, rfl⟩ := List.mem_map.1 hu
    exact ⟨(hvs w hw).holds_cast, (hvs w hw).cast_isNull⟩
  refine .leaf (by decide) htest htyped ?_
  intro fields hf
  rw [leafTruth_record hs hc, truthOn_oneOf hmem hf hne hvs]
  cases hnull : (c.valueIn fields).isNull with
  | true => rfl
  | false =>
    show Truth.ofBool <$> Memory.equalsOne (c.valueIn fields) vs = _
    rw [equalsOne_eq_ok (hf c hmem) hvs hnull]
    rfl

theorem Schema.agrees_isNull (hs : s.Flat) (hc : s.find? column = some c) (v : Value) :
    s.Agrees (.leaf .isNull column v) := by
  have hmem := (Schema.of_find? hc).1
  have htest : leafTest s registry "is_null" (some (.text column)) v = .ok (.null c false) := by
    show s.column column >>= _ = _
    rw [column_eq_ok hc]
    rfl
  refine .leaf (by decide) htest trivial ?_
  intro fields hf
  have hcell : ((s.row fields).cell c == .null) = (c.valueIn fields).isNull := by
    rw [cell_row hmem, (hf c hmem).isNull_ofScalar]
  have htruth : (Test.null c false).truthOn s fields = .ofBool (c.valueIn fields).isNull :=
    congrArg Truth.ofBool hcell
  have habsent : (Comparator.isNull != .isNull) = false := rfl
  rw [leafTruth_record hs hc, htruth, habsent, Bool.and_false]
  rfl

/-- Conditions that agree have clauses with their truths. -/
theorem Schema.exists_clauses {qs : List Condition} (h : ∀ q ∈ qs, s.Agrees q) :
    ∃ ds, clauses s registry qs = .ok ds ∧ (∀ d ∈ ds, d.Forall Test.Typed) ∧
      ∀ fields, s.Holds fields → Condition.truths Memory.registry (.record fields) qs =
        .ok (ds.map (Clause.eval (Test.truthOn s fields))) := by
  -- member by member, as both sides go through them from left to right
  induction qs with
  | nil => exact ⟨[], rfl, by simp, fun fields hf => rfl⟩
  | cons q qs ih =>
    obtain ⟨d, hd, htyped, htruth⟩ := h q List.mem_cons_self
    obtain ⟨ds, hds, htypeds, htruths⟩ := ih fun p hp => h p (List.mem_cons_of_mem q hp)
    refine ⟨d :: ds, ?_, List.forall_mem_cons.2 ⟨htyped, htypeds⟩, fun fields hf => ?_⟩
    · rw [clauses, hd, Outcome.ok_bind, hds]
      rfl
    · rw [Condition.truths, htruth fields hf, Outcome.ok_bind, htruths fields hf]
      rfl

/-- A conjunction is built of its members, with the neutral constant in front. -/
theorem clause_and (reg : Registry Operation) (qs : List Condition) :
    clause s reg (.group .and qs) =
      (fun ds => .conjunction (.constant true :: ds)) <$> clauses s reg qs := by
  rw [Condition.group, clause, Condition.name_symbol, Outcome.ok_bind,
    Comparator.ofSymbol?_symbol]
  cases clauses s reg qs <;> rfl

theorem clause_or (reg : Registry Operation) (qs : List Condition) :
    clause s reg (.group .or qs) =
      (fun ds => .disjunction (.constant false :: ds)) <$> clauses s reg qs := by
  rw [Condition.group, clause, Condition.name_symbol, Outcome.ok_bind,
    Comparator.ofSymbol?_symbol]
  cases clauses s reg qs <;> rfl

/-- A group of conditions that agree does too, if both sides combine truths in one way. -/
theorem Schema.Agrees.group {comparator : Comparator} {neutral : Bool}
    {combine : List Truth → Truth} {build : List (Clause Value) → Clause Value}
    {qs : List Condition} (hf : Truth.Folds neutral combine)
    (hclause : clause s registry (.group comparator qs) =
      (fun ds => build (.constant neutral :: ds)) <$> clauses s registry qs)
    (htruth : ∀ item, Condition.truth Memory.registry item (.group comparator qs) =
      combine <$> Condition.truths Memory.registry item qs)
    (hforall : ∀ {ds}, (∀ d ∈ ds, d.Forall Test.Typed) → (build ds).Forall Test.Typed)
    (heval : ∀ ev ds, (build ds).eval ev = combine (ds.map (Clause.eval ev)))
    (h : ∀ q ∈ qs, s.Agrees q) : s.Agrees (.group comparator qs) := by
  obtain ⟨ds, hds, htyped, htruths⟩ := exists_clauses h
  have hmembers : ∀ d ∈ Clause.constant neutral :: ds, d.Forall Test.Typed :=
    List.forall_mem_cons.2 ⟨trivial, htyped⟩
  refine ⟨build (.constant neutral :: ds), by rw [hclause, hds]; rfl, hforall hmembers, ?_⟩
  intro fields hfields
  -- the constant in front makes no difference
  rw [htruth, htruths fields hfields, heval, List.map_cons]
  exact congrArg Except.ok (hf.cons_neutral _).symm

/-- A negation has one member, and negates the conjunction of it alone. -/
theorem clause_not (reg : Registry Operation) (q : Condition) :
    clause s reg (.group .not [q]) =
      (fun d => (Clause.conjunction [d]).negate) <$> clause s reg q := by
  rw [Condition.group, clause, Condition.name_symbol, Outcome.ok_bind,
    Comparator.ofSymbol?_symbol]
  rw [clauses, clauses]
  cases clause s reg q <;> rfl

theorem Schema.Agrees.not {q : Condition} (h : s.Agrees q) : s.Agrees (.group .not [q]) := by
  obtain ⟨d, hd, htyped, htruth⟩ := h
  -- in the database the one member stands in a conjunction first
  have hone : ∀ e ∈ [d], e.Forall Test.Typed := List.forall_mem_singleton.2 htyped
  refine ⟨(Clause.conjunction [d]).negate, by rw [clause_not, hd]; rfl, ?_, ?_⟩
  · exact Clause.forall_negate (fun t ht => ht.negate) (Clause.forall_conjunction hone)
  · intro fields hf
    rw [Condition.truth_not, htruth fields hf, Clause.eval_negate Test.truthOn_negate,
      Clause.eval_conjunction]
    exact congrArg (fun t => Except.ok (Truth.not t)) (Truth.folds_all.single _).symm

/-- Predicates that suit a table have the same truth in memory and in the database. -/
theorem Schema.Fits.agrees (hs : s.Flat) {p : Predicate} (h : s.Fits p) :
    s.Agrees p.toCondition := by
  -- on how a predicate is built: its comparisons agree, and so does what is made of parts that do
  induction h with
  | compare hc hr hv =>
    rw [Predicate.toCondition, hv.tupleToList_eq]
    exact agrees_compare hs hc hr hv
  | isIn hc hvs hne hv =>
    rw [Predicate.toCondition, tupleToList_of_items hvs]
    exact agrees_isIn hs hc hne hv
  | isNull hc => exact agrees_isNull hs hc _
  | negation _ ih => exact ih.not
  | all _ ih =>
    rw [Predicate.toCondition, Predicate.toConditions_eq_map]
    exact .group Truth.folds_all (clause_and _ _) (fun _ => Condition.truth_and _)
      Clause.forall_conjunction Clause.eval_conjunction (List.forall_mem_map.2 ih)
  | any _ ih =>
    rw [Predicate.toCondition, Predicate.toConditions_eq_map]
    exact .group Truth.folds_any (clause_or _ _) (fun _ => Condition.truth_or _)
      Clause.forall_disjunction Clause.eval_disjunction (List.forall_mem_map.2 ih)

end Sql

end Listing
