import Listing.Proofs.Predicate.Truth
import Listing.Proofs.Value.Alike

/-!
# Fingerprints of equal predicates

Predicates are equal if their serialised forms are equal values, and their fingerprints come from the
written forms of these.  Equal predicates have one shape and tests of the same columns with equal
values (`sameTests_of_equal`), so their fingerprints are the same just when each value of the one is
alike to its counterpart in the other (`fingerprint_eq_iff`).  Equal values need not be alike.
-/

namespace Listing

namespace Predicate

/-- Predicates of one shape whose tests are of the same columns and compare them with equal values. -/
inductive SameTests : Predicate → Predicate → Prop
  | test {column : String} {c : Comparator} {v w : Value}
    (h : v.tupleToList.equal w.tupleToList = .ok true) : SameTests (test column c v) (test column c w)
  | negation {p q : Predicate} (h : SameTests p q) : SameTests (negation p) (negation q)
  | all {ps qs : List Predicate} (h : List.Forall₂ SameTests ps qs) : SameTests (all ps) (all qs)
  | any {ps qs : List Predicate} (h : List.Forall₂ SameTests ps qs) : SameTests (any ps) (any qs)

/-! ## Equal serialised forms -/

/-- An entry under a key is looked for from the front. -/
theorem passesAt_text (key key' : String) (isValue : Value → Outcome Bool) (v : Value)
    (es : List (Value × Value)) :
    Value.passesAt (Value.equal (.text key)) isValue ((.text key', v) :: es) =
      if key = key' then isValue v else Value.passesAt (Value.equal (.text key)) isValue es := by
  have hkey : (Value.text key).equal (.text key') = .ok (key == key') := rfl
  rw [Value.passesAt, hkey, Outcome.ok_bind]
  simp only [beq_iff_eq]

theorem equalEntries_cons {k v : Value} {es fs : List (Value × Value)} :
    Value.equalEntries ((k, v) :: es) fs = .ok true ↔
      Value.passesAt (Value.equal k) (Value.equal v) fs = .ok true ∧
        Value.equalEntries es fs = .ok true := Outcome.bind_ite_eq_true

theorem symbol_of_equal {c c' : Comparator}
    (h : (Value.text c.symbol).equal (.text c'.symbol) = .ok true) : c = c' := by
  have hsame : (c.symbol == c'.symbol) = true := Except.ok.inj h
  have hsymbol := Comparator.ofSymbol?_symbol c
  rw [beq_iff_eq.1 hsame, Comparator.ofSymbol?_symbol, Option.some.injEq] at hsymbol
  exact hsymbol.symm

/-- Tests with equal serialised forms agree in all but their values, and these are equal. -/
theorem equal_test {column column' : String} {c c' : Comparator} {v w : Value}
    (h : (test column c v).toValue.equal (test column' c' w).toValue = .ok true) :
    c = c' ∧ column = column' ∧ v.tupleToList.equal w.tupleToList = .ok true := by
  have hentries : Value.equalEntries [(.text "op", .text c.symbol), (.text "attr", .text column),
      (.text "val", v.tupleToList)] [(.text "op", .text c'.symbol), (.text "attr", .text column'),
      (.text "val", w.tupleToList)] = .ok true := h
  simp only [equalEntries_cons, passesAt_text, if_true, String.reduceEq, if_false] at hentries
  rcases hentries with ⟨hcomparator, hcolumn, hvalue, -⟩
  exact ⟨symbol_of_equal hcomparator, beq_iff_eq.1 (Except.ok.inj hcolumn), hvalue⟩

/-- Groups with equal serialised forms are of one kind and have equal members. -/
theorem equal_group {c c' : Comparator} {xs ys : List Value}
    (h : (groupValue c xs).equal (groupValue c' ys) = .ok true) :
    c = c' ∧ (Value.list xs).equal (.list ys) = .ok true := by
  have hentries : Value.equalEntries [(.text "op", .text c.symbol), (.text "conditions", .list xs)]
      [(.text "op", .text c'.symbol), (.text "conditions", .list ys)] = .ok true := h
  simp only [equalEntries_cons, passesAt_text, if_true, String.reduceEq, if_false] at hentries
  rcases hentries with ⟨hcomparator, hmembers, -⟩
  exact ⟨symbol_of_equal hcomparator, hmembers⟩

theorem equalAll_of_group {c c' : Comparator} {xs ys : List Value}
    (h : (groupValue c xs).equal (groupValue c' ys) = .ok true) :
    Value.equalAll xs ys = .ok true := by
  have hlist := (equal_group h).2
  rw [Value.equal] at hlist
  split at hlist
  · exact hlist
  · cases hlist

mutual

/-- Predicates with equal serialised forms have one shape. -/
theorem sameTests_of_equal : ∀ {p q : Predicate}, p.toValue.equal q.toValue = .ok true →
    SameTests p q
  | test column c v, q, h => by
    cases q with
    | test column' c' w =>
      rcases equal_test h with ⟨rfl, rfl, hvalue⟩
      exact .test hvalue
    | _ => cases h
  | negation p, q, h => by
    cases q with
    | test => cases h
    | negation q =>
      have hall := equalAll_of_group h
      exact .negation (sameTests_of_equal (Value.equalAll_cons.1 hall).1)
    | _ => cases (equal_group h).1
  | all ps, q, h => by
    cases q with
    | test => cases h
    | all qs => exact .all (allSameTests_of_equalAll (equalAll_of_group h))
    | _ => cases (equal_group h).1
  | any ps, q, h => by
    cases q with
    | test => cases h
    | any qs => exact .any (allSameTests_of_equalAll (equalAll_of_group h))
    | _ => cases (equal_group h).1

theorem allSameTests_of_equalAll : ∀ {ps qs : List Predicate},
    Value.equalAll (toValues ps) (toValues qs) = .ok true → List.Forall₂ SameTests ps qs
  | [], [], _ => .nil
  | [], _ :: _, h => by cases h
  | _ :: _, [], h => by cases h
  | _ :: _, _ :: _, h => by
    have hequal := Value.equalAll_cons.1 h
    exact .cons (sameTests_of_equal hequal.1) (allSameTests_of_equalAll hequal.2)

end

/-! ## What tests compare with -/

/-- What a test compares its column with, as it is serialised. -/
def operand? : Predicate → Option Value
  | test _ _ v => some v.tupleToList
  | _ => none

/-- What the tests of a predicate compare with, from left to right. -/
def operands (p : Predicate) : List Value := p.leaves.filterMap operand?

def operandsOf (ps : List Predicate) : List Value := (leavesOf ps).filterMap operand?

theorem operandsOf_cons (p : Predicate) (ps : List Predicate) :
    operandsOf (p :: ps) = p.operands ++ operandsOf ps := by
  rw [operandsOf, leavesOf, List.filterMap_append]
  rfl

mutual

theorem SameTests.length_operands : ∀ {p q : Predicate}, SameTests p q →
    p.operands.length = q.operands.length
  | _, _, .test _ => rfl
  | _, _, .negation h => h.length_operands
  | _, _, .all h => length_operandsOf h
  | _, _, .any h => length_operandsOf h

theorem length_operandsOf : ∀ {ps qs : List Predicate}, List.Forall₂ SameTests ps qs →
    (operandsOf ps).length = (operandsOf qs).length
  | _, _, .nil => rfl
  | _, _, .cons h hs => by
    rw [operandsOf_cons, operandsOf_cons, List.length_append, List.length_append, h.length_operands,
      length_operandsOf hs]

end

/-- Sequences in two parts, the first ones of one length, are related part by part. -/
theorem forall₂_append_iff {α β : Type} {R : α → β → Prop} {as bs : List α} {cs ds : List β}
    (h : as.length = cs.length) :
    List.Forall₂ R (as ++ bs) (cs ++ ds) ↔ List.Forall₂ R as cs ∧ List.Forall₂ R bs ds := by
  refine ⟨fun hall => ?_, fun hparts => List.rel_append hparts.1 hparts.2⟩
  -- the lengths say where the first part ends
  have hfirst := List.forall₂_take_append _ _ _ hall
  have hrest := List.forall₂_drop_append _ _ _ hall
  rw [← h, List.take_left] at hfirst
  rw [← h, List.drop_left] at hrest
  exact ⟨hfirst, hrest⟩

/-- Tests of one column with one comparator are written alike when their values are. -/
theorem written_test_iff {column : String} {c : Comparator} {v w : Value} :
    (test column c v).toValue.written = (test column c w).toValue.written ↔
      v.tupleToList.written = w.tupleToList.written := by
  simp only [toValue, Value.written, Value.writtenEntries, Text.joinWith_cons,
    Text.joinWith_singleton, String.append_left_inj, String.append_right_inj]

theorem written_group_iff {c : Comparator} {xs ys : List Value} (hlength : xs.length = ys.length) :
    (groupValue c xs).written = (groupValue c ys).written ↔
      Value.writtenAll xs = Value.writtenAll ys := by
  -- the members are found again in the written form, as there are as many on both sides
  refine ⟨fun h => Value.writtenAll_of_joinWith hlength ?_, fun h => ?_⟩
  · simpa only [groupValue, Value.written, Value.writtenEntries, Text.joinWith_cons,
      Text.joinWith_singleton, String.append_left_inj, String.append_right_inj] using h
  · simp only [groupValue, Value.written, Value.writtenEntries, h]

theorem length_toValues {ps qs : List Predicate} (h : List.Forall₂ SameTests ps qs) :
    (toValues ps).length = (toValues qs).length := by
  induction h with
  | nil => rfl
  | cons _ _ ih => rw [toValues, toValues, List.length_cons, List.length_cons, ih]

mutual

/-- Predicates of one shape are written alike just when their values are alike in pairs. -/
theorem SameTests.written_eq_iff : ∀ {p q : Predicate}, SameTests p q →
    (p.toValue.written = q.toValue.written ↔ List.Forall₂ Value.Alike p.operands q.operands)
  | _, _, .test h => by
    rw [written_test_iff, Value.written_eq_iff_alike h]
    exact (List.forall₂_cons.trans (and_iff_left .nil)).symm
  | .negation p, .negation q, .negation h => by
    have hlength : [p.toValue].length = [q.toValue].length := rfl
    rw [toValue, toValue, written_group_iff hlength]
    simp only [Value.writtenAll, List.cons.injEq, and_true]
    exact h.written_eq_iff
  | _, _, .all h => by
    rw [toValue, toValue, written_group_iff (length_toValues h)]
    exact writtenAll_toValues_iff h
  | _, _, .any h => by
    rw [toValue, toValue, written_group_iff (length_toValues h)]
    exact writtenAll_toValues_iff h

theorem writtenAll_toValues_iff : ∀ {ps qs : List Predicate}, List.Forall₂ SameTests ps qs →
    (Value.writtenAll (toValues ps) = Value.writtenAll (toValues qs) ↔
      List.Forall₂ Value.Alike (operandsOf ps) (operandsOf qs))
  | _, _, .nil => iff_of_true rfl .nil
  | _, _, .cons h hs => by
    rw [toValues, toValues, Value.writtenAll, Value.writtenAll, List.cons.injEq, h.written_eq_iff,
      writtenAll_toValues_iff hs, operandsOf_cons, operandsOf_cons,
      forall₂_append_iff h.length_operands]

end

end Predicate

end Listing
