import Listing.Proofs.Sql.Agreement

/-!
# Rows that a condition selects

The database selects a row for a condition if a query fetches it (`Schema.selects`).  A comparison
and its negation select a row just when they are true of an item in memory (`Schema.SelectsAlike`)
if the test of the row and the comparison of the item have one truth (`selectsAlike_leaf_iff`).
-/

namespace Listing

/-- A truth is known from whether it holds and whether its negation does. -/
theorem Truth.eq_iff_holds {a b : Truth} :
    a = b ↔ a.holds = b.holds ∧ a.not.holds = b.not.holds := by
  cases a <;> cases b <;> decide

namespace Sql

variable {s : Schema}

/-- Whether a query of a table that has just this row fetches it. -/
def Schema.selects (s : Schema) (q : Condition) (row : Row) : Outcome Bool := do
  let (rows, _) ← fetch ⟨s, [row]⟩ .everything registry ⟨q, [], none, none⟩
  return !rows.isEmpty

/-- A condition and its negation select a row of a table just when they hold of an item in memory,
and neither side is at fault. -/
def Schema.SelectsAlike (s : Schema) (q : Condition) (item : Value) (row : Row) : Prop :=
  ∃ alone negated : Bool,
    s.selects q row = .ok alone ∧ q.holds Memory.registry item = .ok alone ∧
    s.selects (.group .not [q]) row = .ok negated ∧
    (Condition.group .not [q]).holds Memory.registry item = .ok negated

/-! ## In the database -/

/-- Negation does not touch the parameters of a test. -/
theorem Test.traverse_negate {α β : Type} (f : α → Outcome β) (t : Test α) :
    t.negate.traverse f = Test.negate <$> t.traverse f := by
  cases t with
  | compare c r v => cases h : f v <;> simp [negate, traverse, h]
  | oneOf c negated vs => cases h : vs.mapM f <;> simp [negate, traverse, h]
  | _ => rfl

theorem Test.convert_negate (t : Test Value) : t.negate.convert = Test.negate <$> t.convert := by
  cases t with
  | compare c r v => exact traverse_negate _ (.compare c r v)
  | oneOf c negated vs =>
    -- without alternatives nothing is converted
    cases vs with
    | nil => rfl
    | cons v vs => exact traverse_negate _ (.oneOf c negated (v :: vs))
  | _ => rfl

/-- A test whose parameters are brought into cells. -/
def Test.bound (t : Test Value) : Outcome (Test Cell) := do
  let converted ← t.convert
  converted.traverse Cell.ofValue

theorem Test.bound_negate (t : Test Value) : t.negate.bound = Test.negate <$> t.bound := by
  unfold bound
  rw [convert_negate]
  cases t.convert with
  | error fault => rfl
  | ok converted => exact traverse_negate Cell.ofValue converted

/-- A query of one test has the test with its parameters bound. -/
theorem prepare_test {t : Test Value} {u : Test Cell} (h : t.bound = .ok u) :
    prepare [.test t] = .ok [.test u] := by
  obtain ⟨converted, hconvert, hvalue⟩ := Outcome.bind_eq_ok.1 h
  have hfirst : Clause.traverseMembers Test.convert [.test t] = .ok [.test converted] := by
    rw [Clause.traverseMembers, Clause.traverse, hconvert]
    rfl
  rw [prepare, hfirst, Outcome.ok_bind, Clause.traverseMembers, Clause.traverse, hvalue]
  rfl

/-- A query whose clause is one test selects the rows of which the test is true. -/
theorem Schema.selects_eq_ok {q : Condition} {t : Test Value} {u : Test Cell}
    (hclause : clause s registry q = .ok (.test t)) (hbound : t.bound = .ok u) (row : Row) :
    s.selects q row = .ok (u.truth row).holds := by
  have htruth : Truth.all (memberTruths row [.test u]) = u.truth row := Truth.folds_all.single _
  have hfetch : fetch ⟨s, [row]⟩ .everything registry ⟨q, [], none, none⟩ =
      .ok (if (u.truth row).holds then ([row], 1) else ([], 0)) := by
    rw [fetch, hclause, Outcome.ok_bind]
    show prepare [.test t] >>= _ = _
    rw [prepare_test hbound, Outcome.ok_bind, List.filter_singleton, htruth]
    show Except.ok (sliceRows none none (sortRows [] _), _) = _
    cases (u.truth row).holds <;> simp [sortRows, sliceRows]
  rw [selects, hfetch, Outcome.ok_bind]
  cases (u.truth row).holds <;> rfl

variable {comparator : Comparator} {column : String} {v item : Value} {t : Test Value}
  {u : Test Cell} {truth : Truth}

/-- A comparison selects the rows of which its test is true, and its negation those of which the
test is definitely false. -/
theorem Schema.selects_leaf (hlogic : comparator ≠ .and ∧ comparator ≠ .or ∧ comparator ≠ .not)
    (htest : leafTest s registry comparator.symbol (some (.text column)) v = .ok t)
    (hbound : t.bound = .ok u) (row : Row) :
    s.selects (.leaf comparator column v) row = .ok (u.truth row).holds ∧
      s.selects (.group .not [.leaf comparator column v]) row =
        .ok (u.truth row).not.holds := by
  have hclause : clause s registry (.leaf comparator column v) = .ok (.test t) := by
    rw [clause_leaf registry hlogic, htest]
    rfl
  -- the negation of a clause with one test is the negated test
  have hnot : clause s registry (.group .not [.leaf comparator column v]) =
      .ok (.test t.negate) := by
    rw [clause_not, hclause]
    rfl
  have hnegated : t.negate.bound = .ok u.negate := by
    rw [Test.bound_negate, hbound]
    rfl
  rw [← Test.truth_negate]
  exact ⟨selects_eq_ok hclause hbound row, selects_eq_ok hnot hnegated row⟩

/-! ## In memory -/

/-- A comparison holds of an item if it is true, and its negation if it is definitely false. -/
theorem holds_leaf (hlogic : comparator ≠ .and ∧ comparator ≠ .or ∧ comparator ≠ .not)
    (htruth : Condition.leafTruth Memory.registry item comparator (some (.text column)) v =
      .ok truth) :
    (Condition.leaf comparator column v).holds Memory.registry item = .ok truth.holds ∧
      (Condition.group .not [.leaf comparator column v]).holds Memory.registry item =
        .ok truth.not.holds := by
  have hleaf : (Condition.leaf comparator column v).truth Memory.registry item = .ok truth := by
    rw [Condition.truth_leaf hlogic, htruth]
  constructor
  · rw [Condition.holds, hleaf]
    rfl
  · rw [Condition.holds, Condition.truth_not, hleaf]
    rfl

/-! ## On both sides -/

/-- A comparison and its negation select a row just when they hold of an item if the test of the row
has the truth of the comparison on the item. -/
theorem Schema.selectsAlike_leaf_iff
    (hlogic : comparator ≠ .and ∧ comparator ≠ .or ∧ comparator ≠ .not)
    (htest : leafTest s registry comparator.symbol (some (.text column)) v = .ok t)
    (hbound : t.bound = .ok u)
    (htruth : Condition.leafTruth Memory.registry item comparator (some (.text column)) v =
      .ok truth) (row : Row) :
    s.SelectsAlike (.leaf comparator column v) item row ↔ u.truth row = truth := by
  obtain ⟨hselects, hselectsNot⟩ := selects_leaf hlogic htest hbound row
  obtain ⟨hholds, hholdsNot⟩ := holds_leaf hlogic htruth
  rw [SelectsAlike, hselects, hselectsNot, hholds, hholdsNot, Truth.eq_iff_holds]
  constructor
  · rintro ⟨alone, negated, ha, hb, hc, hd⟩
    cases ha
    cases hc
    exact ⟨(Except.ok.inj hb).symm, (Except.ok.inj hd).symm⟩
  · rintro ⟨ha, hb⟩
    exact ⟨_, _, rfl, congrArg Except.ok ha.symm, rfl, congrArg Except.ok hb.symm⟩

/-! ## One value on both sides -/

/-- An item and a row that have one value in a column: nothing, an integer or a text. -/
structure Column.Shares (c : Column) (v : Value) (item : Value) (row : Row) : Prop where
  field : item.field c.name = v
  cell : row.cell c = .ofScalar v

/-- There are an item and a row for every value. -/
theorem Column.exists_shares {c : Column} (hpath : '.' ∉ c.name.toList) (v : Value) :
    ∃ item row, c.Shares v item row := by
  refine ⟨.record [(c.name, v)], [(c.name, .ofScalar v)], ?_, ?_⟩
  · rw [Value.field_record hpath, List.lookup_cons_self]
    rfl
  · rw [Row.cell, List.lookup_cons_self]
    rfl

end Sql

end Listing
