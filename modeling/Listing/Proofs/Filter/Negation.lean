import Listing.Proofs.Filter.Spelling
import Listing.Proofs.Predicate.Filling

/-!
# A statement and its negation

A comparison of a column and its negation part the items on which the column is there: just one of
the two is true of each (`Predicate.xor_isTrue_negation`).  Where the column is missing neither is,
unless it is the absence that is tested.  A statement compiles to such a comparison and the statement
with `$not:` in front of it to the negation, whatever text it compares with (`compile_negated`).
-/

namespace Listing

namespace Predicate

variable {reg : Registry Memory.Operation} {item : Value} {column : String} {c : Comparator}
  {v : Value}

/-- A predicate with a definite truth is true or its negation is, and not both. -/
theorem xor_isTrue_of_isDefinite {p : Predicate} (he : p.Evaluates reg item)
    (h : (p.value reg item).IsDefinite) :
    Xor (p.IsTrue reg item) ((negation p).IsTrue reg item) := by
  have htruth : ∀ q : Predicate, q.Evaluates reg item →
      (q.IsTrue reg item ↔ q.value reg item = .yes) := by
    intro q hq
    rw [IsTrue, Condition.IsTrue, hq.truth_eq, Except.ok.injEq]
  rw [htruth p he, htruth _ (evaluates_negation.2 he), he.negation_value]
  rcases h with ⟨b, hb⟩
  rw [hb]
  cases b
  · exact Or.inr ⟨rfl, by decide⟩
  · exact Or.inl ⟨rfl, by decide⟩

/-- A test of a value that is there, or for absence, is true or its negation is. -/
theorem xor_isTrue_negation (h : c ≠ .isNull → item.field column ≠ .null)
    (he : (test column c v).Evaluates reg item) :
    Xor ((test column c v).IsTrue reg item) ((negation (test column c v)).IsTrue reg item) := by
  apply xor_isTrue_of_isDefinite he
  apply isDefinite_test _ he
  intro hc
  rw [← Bool.not_eq_true, Value.isNull_iff]
  exact h hc

/-- No comparison of a missing value is true, and neither is its negation. -/
theorem not_isTrue_of_null (hc : c ≠ .and ∧ c ≠ .or ∧ c ≠ .not) (habsent : c ≠ .isNull)
    (h : item.field column = .null) :
    ¬(test column c v).IsTrue reg item ∧ ¬(negation (test column c v)).IsTrue reg item := by
  -- both sides of a negation are unknown together
  have hunknown : (test column c v).toCondition.truth reg item = .ok .unknown :=
    truth_missing hc habsent h v
  constructor
  · rw [IsTrue, Condition.IsTrue, hunknown]
    simp
  · rw [IsTrue, Condition.IsTrue, toCondition, Condition.truth_not, hunknown]
    simp [Truth.not]

/-- Two predicates on a column part the items on which it is there; on an item on which it is missing
neither is true.  Both evaluate on the same items. -/
structure Opposed (column : String) (p q : Predicate) (item : Value) : Prop where
  evaluates : q.Evaluates Memory.registry item ↔ p.Evaluates Memory.registry item
  there : p.Evaluates Memory.registry item → item.field column ≠ .null →
    Xor (p.IsTrue Memory.registry item) (q.IsTrue Memory.registry item)
  missing : p.Evaluates Memory.registry item → item.field column = .null →
    ¬p.IsTrue Memory.registry item ∧ ¬q.IsTrue Memory.registry item

/-- A comparison is opposed to its negation. -/
theorem opposed_negation (hc : c ≠ .and ∧ c ≠ .or ∧ c ≠ .not) (habsent : c ≠ .isNull)
    (item : Value) : Opposed column (test column c v) (negation (test column c v)) item where
  evaluates := evaluates_negation
  there he hthere := xor_isTrue_negation (fun _ => hthere) he
  missing _ hmissing := not_isTrue_of_null hc habsent hmissing

end Predicate

namespace Filter

open Statement

variable {whitelist : Whitelist} {column raw : String} {allowed : List Operator} {p : Predicate}

/-- The operators that compare a column with the text behind them. -/
def comparing : List Operator := [.eq, .gt, .gte, .lt, .lte, .isIn]

/-- Such an operator makes a test for which the column has to be there. -/
theorem exists_test_of_comparing {o : Operator} (ho : o ∈ comparing) (column v : String) :
    ∃ c w, o.onValue column (operandValue o (some v)) = .test column c w ∧
      (c ≠ .and ∧ c ≠ .or ∧ c ≠ .not) ∧ c ≠ .isNull := by
  cases o with
  | null => simp [comparing] at ho
  | not => simp [comparing] at ho
  | eq | gt | gte | lt | lte | isIn => exact ⟨_, _, rfl, by decide, by decide⟩

/-- A statement and its negation part the items on which their column is there, and match no other
item.  The test for absence and its negation part all items.  A negated text means that the column
does not equal it. -/
theorem compile_negated (hcolumn : whitelist.lookup column = some allowed) (hnot : .not ∈ allowed) :
    (∀ o ∈ comparing, o ∈ allowed → ∀ v : String, Unmarked v.toList → v ≠ "$null" →
      ∃ p q, compile whitelist (.ofList [(column, .one (o.symbol ++ ":" ++ v))]) = [(column, p)] ∧
        compile whitelist (.ofList [(column, .one ("$not:" ++ (o.symbol ++ ":" ++ v)))]) =
          [(column, q)] ∧
        ∀ item, Predicate.Opposed column p q item) ∧
    (.null ∈ allowed →
      ∃ p q, compile whitelist (.ofList [(column, .one "$null")]) = [(column, p)] ∧
        compile whitelist (.ofList [(column, .one "$not:$null")]) = [(column, q)] ∧
        ∀ item, Xor (p.IsTrue Memory.registry item) (q.IsTrue Memory.registry item)) ∧
    (.eq ∈ allowed → ∀ v : String, Unmarked v.toList → v ≠ "$null" →
      ∃ p, compile whitelist (.ofList [(column, .one ("$not:" ++ v))]) = [(column, p)] ∧
        compile whitelist (.ofList [(column, .one ("$not:$eq:" ++ v))]) = [(column, p)]) := by
  refine ⟨?_, ?_, ?_⟩
  · intro o ho hallowed v hv hne
    have hplain : compileStatement column allowed (o.symbol ++ ":" ++ v) =
        .ok (o.onValue column (operandValue o (some v))) :=
      compileStatement_inner hallowed (read?_symbol o hv hne)
    have hnegated : compileStatement column allowed ("$not:" ++ (o.symbol ++ ":" ++ v)) =
        .ok (.negation (o.onValue column (operandValue o (some v)))) :=
      compileStatement_not hnot hallowed (read?_symbols .not o hv)
    refine ⟨_, _, compile_single hcolumn rfl hplain, compile_single hcolumn rfl hnegated, ?_⟩
    rcases exists_test_of_comparing ho column v with ⟨c, w, htest, hlogical, habsent⟩
    rw [htest]
    exact Predicate.opposed_negation hlogical habsent
  · intro hallowed
    have hplain : compileStatement column allowed "$null" = .ok (.test column .isNull .null) :=
      compileStatement_of_spells .null (by simpa using hallowed)
    have hnegated : compileStatement column allowed "$not:$null" =
        .ok (.negation (.test column .isNull .null)) :=
      compileStatement_of_spells .notNull (by simpa using ⟨hnot, hallowed⟩)
    refine ⟨_, _, compile_single hcolumn rfl hplain, compile_single hcolumn rfl hnegated, ?_⟩
    intro item
    -- absence is the one test that needs no field
    apply Predicate.xor_isTrue_negation
    · exact fun h => absurd rfl h
    · rw [Predicate.Evaluates, Condition.Evaluates, Predicate.truth_comparison (by decide),
        if_neg (by simp)]
      exact ⟨_, rfl⟩
  · intro hallowed v hv hne
    -- without an operator behind it, a negation is one of an equality
    have hshort : compileStatement column allowed ("$not:" ++ v) =
        .ok (.negation (.test column .eq (.text v))) :=
      compileStatement_of_spells (.notValue hv hne) (by simpa using hnot)
    have hlong : compileStatement column allowed ("$not:$eq:" ++ v) =
        .ok (.negation (.test column .eq (.text v))) :=
      compileStatement_not hnot hallowed (read?_symbols .not .eq hv)
    exact ⟨_, compile_single hcolumn rfl hshort, compile_single hcolumn rfl hlong⟩

def readingWhitelist : Whitelist := .ofList [("level", [.lte, .isIn, .not]), ("site", [.eq])]

/-- A reading without a level is neither at most 3 nor above it, and a level of 4 is above. -/
theorem compile_negated_readings :
    readingWhitelist.lookup "level" = some [.lte, .isIn, .not] ∧
      ∃ p q, compile readingWhitelist (.ofList [("level", .one "$lte:3")]) = [("level", p)] ∧
        compile readingWhitelist (.ofList [("level", .one "$not:$lte:3")]) = [("level", q)] ∧
        Xor (p.IsTrue Memory.registry (.record [("level", .int 4)]))
          (q.IsTrue Memory.registry (.record [("level", .int 4)])) ∧
        ¬p.IsTrue Memory.registry (.record [("level", .null)]) ∧
        ¬q.IsTrue Memory.registry (.record [("level", .null)]) := by
  have hlookup : readingWhitelist.lookup "level" = some [.lte, .isIn, .not] := by decide
  rcases (compile_negated hlookup (by decide)).1 .lte (by decide) (by decide) "3" (by decide)
    (by decide) with ⟨p, q, hp, hq, hopposed⟩
  have hgiven : compile readingWhitelist (.ofList [("level", .one "$lte:3")]) =
      [("level", .test "level" .le (.text "3"))] := by
    have hspells : Spells "level" [.lte] "$lte:3" (.test "level" .le (.text "3")) :=
      @Spells.compare "level" .lte .le "3" (by decide) (by decide) (by decide)
    exact compile_single hlookup rfl (compileStatement_of_spells hspells (by decide))
  -- what the text compiles to is known, and it is the `p` of the theorem
  have hsame : [("level", .test "level" .le (.text "3"))] = [("level", p)] := hgiven.symm.trans hp
  rw [List.singleton_inj, Prod.mk.injEq] at hsame
  rcases hsame with ⟨-, rfl⟩
  refine ⟨hlookup, _, q, hgiven, hq, ?_, ?_⟩
  · exact (hopposed _).there (by decide +kernel) (by simp [Value.field_record])
  · exact (hopposed _).missing (by decide +kernel) (Value.isNull_iff.1 (by decide +kernel))

end Filter

end Listing
