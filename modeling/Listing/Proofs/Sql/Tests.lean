import Listing.Proofs.Memory.Truth
import Listing.Proofs.Sql.Clause
import Listing.Proofs.Sql.Typed

/-!
# Tests of integer and text columns

A test whose parameters its column may hold is handed over to the database as it is
(`prepare_eq_ok`), and its negation holds just when the test does not (`Test.truth_negate`).
-/

namespace Listing.Sql

/-- The comparison of a column's value with a parameter in the database: unknown if there is none,
else by the order of the cells. -/
theorem Column.Holds.compareCells_eq {c : Column} {v w : Value} (hv : c.Holds v) (hw : c.Holds w)
    (hne : w.isNull = false) (r : Relation) :
    compareCells c r (.ofScalar v) (.ofScalar w) =
      if v.isNull then .unknown
      else .ofBool (r.accepts ((Cell.ofScalar v).order (.ofScalar w))) := by
  rw [← hv.isNull_ofScalar]
  rw [← hw.isNull_ofScalar] at hne
  unfold compareCells
  rw [hw.compared_ofScalar]
  -- the parameter is there, so only the column may have nothing
  cases Cell.ofScalar v with
  | null => rfl
  | _ =>
    cases hcell : Cell.ofScalar w with
    | null => rw [hcell] at hne; cases hne
    | _ => rfl

namespace Test

def map {α β : Type} (f : α → β) : Test α → Test β
  | compare c r v => compare c r (f v)
  | flag c negated b => flag c negated b
  | null c negated => null c negated
  | oneOf c negated vs => oneOf c negated (vs.map f)
  | like c negated pattern => like c negated pattern

theorem map_negate {α β : Type} (f : α → β) (t : Test α) : t.negate.map f = (t.map f).negate := by
  cases t <;> rfl

/-- The columns of a test may hold its parameters, of which none is missing. -/
def Typed : Test Value → Prop
  | compare c _ v => c.Holds v ∧ v.isNull = false
  | oneOf c _ vs => ∀ v ∈ vs, c.Holds v ∧ v.isNull = false
  | _ => True

theorem Typed.negate {t : Test Value} (h : t.Typed) : t.negate.Typed := by
  cases t <;> exact h

/-- What a column holds is not converted. -/
theorem Typed.convert_eq_ok {t : Test Value} (h : t.Typed) : t.convert = .ok t := by
  cases t with
  | compare c r v =>
    rw [convert, h.1.mannerOf_eq_plain h.2, traverse]
    cases v <;> rfl
  | oneOf c negated vs =>
    cases vs with
    | nil => rfl
    | cons v vs =>
      -- the manner of the first alternative is that of all
      have hplain : ∀ w ∈ v :: vs, Manner.plain.convert w = .ok (id w) := by
        intro w hw
        cases w <;> rfl
      have hv := h v List.mem_cons_self
      rw [convert, hv.1.mannerOf_eq_plain hv.2, traverse, Outcome.mapM_eq_ok hplain, List.map_id]
      rfl
  | _ => rfl

theorem Typed.ofValue_eq_ok {t : Test Value} (h : t.Typed) :
    t.traverse Cell.ofValue = .ok (t.map .ofScalar) := by
  cases t with
  | compare c r v =>
    rw [traverse, h.1.ofValue_eq_ok]
    rfl
  | oneOf c negated vs =>
    rw [traverse, Outcome.mapM_eq_ok fun v hv => (h v hv).1.ofValue_eq_ok]
    rfl
  | _ => rfl

end Test

/-- Typed tests become cells as they are. -/
theorem prepare_eq_ok {c : Clause Value} (h : c.Forall Test.Typed) :
    prepare [c] = .ok [c.map (Test.map .ofScalar)] := by
  have hs : Clause.ForallMembers Test.Typed [c] := ⟨h, trivial⟩
  have hconvert := Clause.traverseMembers_eq_ok
    (f := Test.convert) (g := id) (fun t ht => Test.Typed.convert_eq_ok ht) [c] hs
  have hvalue := Clause.traverseMembers_eq_ok
    (f := Test.traverse Cell.ofValue) (fun t ht => Test.Typed.ofValue_eq_ok ht) [c] hs
  rw [prepare, hconvert, Clause.mapMembers_id, Outcome.ok_bind, hvalue]
  rfl

/-! ## Negation -/

/-- The opposite relation holds where the relation does not, and both are unknown together. -/
theorem compareCells_negate (c : Column) (r : Relation) (a b : Cell) :
    compareCells c r.negate a b = (compareCells c r a b).not := by
  unfold compareCells
  split
  · rfl
  · rfl
  · rw [Relation.accepts_negate]
    exact Truth.ofBool_not _

theorem negatedIf_not (negated : Bool) (t : Truth) :
    negatedIf (!negated) t = (negatedIf negated t).not := by
  cases negated with
  | false => rfl
  | true => exact (Truth.not_not t).symm

/-- The negation of a test holds just when the test does not. -/
theorem Test.truth_negate (row : Row) (t : Test Cell) :
    t.negate.truth row = (t.truth row).not := by
  cases t with
  | compare c r v => exact compareCells_negate c r _ v
  | _ => exact negatedIf_not _ _

end Listing.Sql
