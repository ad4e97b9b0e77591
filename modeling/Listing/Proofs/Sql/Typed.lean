import Listing.Memory.Sort
import Listing.Memory.Operation
import Listing.Proofs.Outcome
import Listing.Proofs.Sql.Order

/-!
# Values of integer and text columns

What a column of integers of 64 bits or of texts holds is a cell just as it is (`Cell.ofScalar`),
and nothing converts it any further.  On such values the comparisons in memory are those of the
cells (`Holds.equal_eq_ok`, `Holds.order?_eq_ok`, `Holds.precedes_eq_ok`).
-/

namespace Listing.Sql

/-- The cell of an integer or a text; there is nothing in the cell of any other value. -/
def Cell.ofScalar : Value → Cell
  | .int n => integer n
  | .text s => text s
  | .symbol o => text o.symbol
  | _ => null

theorem Cell.isPlain_ofScalar (v : Value) : (ofScalar v).IsPlain := by
  cases v <;> exact trivial

/-- What is a text for memory is one in its cell. -/
theorem Cell.ofScalar_of_asText {v : Value} {s : String} (h : v.asText? = some s) :
    ofScalar v = text s := by
  cases v <;> cases h <;> rfl

namespace Column

/-- A value that a column may hold: nothing, an integer of 64 bits, or a text. -/
inductive Holds (c : Column) : Value → Prop
  | null : Holds c .null
  | integer {n : Int} (hc : c.kind = some .int) (hn : fitsWord n = true) : Holds c (.int n)
  | text {s : String} (hc : c.kind = some .text) : Holds c (.text s)
  | symbol {o : Operator} (hc : c.kind = some .text) : Holds c (.symbol o)

/-- A value that a column may be compared with: an integer of 64 bits or a text that reads as one
for a column of integers, any text for a column of texts. -/
inductive Takes (c : Column) : Value → Prop
  | integer {n : Int} (hc : c.kind = some .int) (hn : fitsWord n = true) : Takes c (.int n)
  | numeral {s : String} {n : Int} (hc : c.kind = some .int)
      (hs : Numeral.whole? s.toList = some n) (hn : fitsWord n = true) : Takes c (.text s)
  | text {s : String} (hc : c.kind = some .text) : Takes c (.text s)
  | symbol {o : Operator} (hc : c.kind = some .text) : Takes c (.symbol o)

variable {c : Column} {v w : Value}

/-! ## On the way into the database -/

theorem Holds.ofValue_eq_ok (h : c.Holds v) : Cell.ofValue v = .ok (.ofScalar v) := by
  cases h with
  | integer hc hn => exact if_pos hn
  | _ => rfl

/-- The cell of what a column holds has nothing in it just when that is missing. -/
theorem Holds.isNull_ofScalar (h : c.Holds v) : (Cell.ofScalar v == .null) = v.isNull := by
  cases h <;> rfl

/-- What a column holds is not converted as a parameter of a query. -/
theorem Holds.mannerOf_eq_plain (h : c.Holds v) (hv : v.isNull = false) :
    c.mannerOf v = .plain := by
  -- an operator is text in a column of texts
  cases h with
  | null => cases hv
  | symbol hc => simp [mannerOf, manner, hc]
  | _ => rfl

theorem Holds.convert_eq_ok (h : c.Holds v) : c.manner.convert v = .ok v := by
  cases h with
  | null => cases c.manner <;> rfl
  | integer hc hn => simp [manner, hc, Manner.convert]
  | text hc => simp [manner, hc, Manner.convert]
  | symbol hc => simp [manner, hc, Manner.convert]

/-- The affinity of the column leaves its cell as it is when it is stored. -/
theorem Holds.stored_ofScalar (h : c.Holds v) :
    (Cell.ofScalar v).stored c.affinity = .ofScalar v := by
  cases h with
  | null => cases c.affinity <;> rfl
  | integer hc hn => simp only [affinity, hc]; rfl
  | text hc => simp only [affinity, hc]; rfl
  | symbol hc => simp only [affinity, hc]; rfl

theorem Holds.compared_ofScalar (h : c.Holds v) :
    (Cell.ofScalar v).compared c.affinity = .ofScalar v := by
  cases h with
  | null => cases c.affinity <;> rfl
  | integer hc hn => simp only [affinity, hc]; rfl
  | text hc => simp only [affinity, hc]; rfl
  | symbol hc => simp only [affinity, hc]; rfl

/-- What a column is compared with is cast to something that it may hold. -/
theorem Takes.holds_cast (h : c.Takes v) : c.Holds (c.cast v) := by
  cases h with
  | integer hc hn =>
    rw [Column.cast, hc]
    exact .integer hc hn
  | numeral hc hs hn =>
    -- the only text that is changed
    rw [Column.cast, hc, Value.castTo, Value.cast, Kind.read?, hs]
    exact .integer hc hn
  | text hc =>
    rw [Column.cast, hc]
    exact .text hc
  | symbol hc =>
    rw [Column.cast, hc]
    exact .symbol hc

/-- What a column is compared with is there after it was cast. -/
theorem Takes.cast_isNull (h : c.Takes v) : (c.cast v).isNull = false := by
  cases h with
  | numeral hc hs hn =>
    rw [Column.cast, hc, Value.castTo, Value.cast, Kind.read?, hs]
    rfl
  | _ => simp [Column.cast, Value.castTo, Value.cast, Kind.read?, Value.isNull, *]

/-! ## In memory -/

theorem equal_of_asText {s t : String} (hs : v.asText? = some s) (ht : w.asText? = some t) :
    v.equal w = .ok (s == t) := by
  cases v <;> cases hs <;> cases w <;> cases ht <;> rfl

/-- Texts and operators are in the order of their texts. -/
theorem order?_of_asText {s t : String} (hs : v.asText? = some s) (ht : w.asText? = some t) :
    v.order? w = .ok (some (compare s t)) := by
  cases v <;> cases hs <;> cases w <;> cases ht <;> rfl

/-- In memory a value is cast to the kind of the field it is compared with, which is that of the
column. -/
theorem Takes.castLike_eq_cast (hw : c.Takes w) (hv : c.Holds v) (hne : v.isNull = false) :
    w.castLike v = c.cast w := by
  cases hv with
  | null => cases hne
  | integer hc hn => rw [Value.castLike, Column.cast, hc]; rfl
  | text hc => rw [Value.castLike, Column.cast, hc]; rfl
  | symbol hc =>
    -- an operator has no kind, and no text is changed for a column of texts
    rw [Value.castLike, Column.cast, hc]
    cases hw with
    | integer hc' hn => rfl
    | numeral hc' hs hn => rw [hc] at hc'; cases hc'
    | text hc' => rfl
    | symbol hc' => rfl

/-- A value of a column is an integer or a text, by the kind of the column. -/
theorem Holds.scalar (hv : c.Holds v) (hne : v.isNull = false) :
    (c.kind = some .int ∧ ∃ n, v = .int n) ∨ (c.kind = some .text ∧ ∃ s, v.asText? = some s) := by
  cases hv with
  | null => cases hne
  | integer hc hn => exact Or.inl ⟨hc, _, rfl⟩
  | text hc => exact Or.inr ⟨hc, _, rfl⟩
  | symbol hc => exact Or.inr ⟨hc, _, rfl⟩

/-- Two values of one column that are there are both integers or both texts. -/
theorem Holds.both (hv : c.Holds v) (hw : c.Holds w) (hne : v.isNull = false)
    (hne' : w.isNull = false) :
    (∃ m n, v = .int m ∧ w = .int n) ∨ ∃ s t, v.asText? = some s ∧ w.asText? = some t := by
  rcases hv.scalar hne with ⟨hc, m, rfl⟩ | ⟨hc, s, hs⟩
  · rcases hw.scalar hne' with ⟨-, n, rfl⟩ | ⟨hc', -⟩
    · exact Or.inl ⟨m, n, rfl, rfl⟩
    · -- the column would be of both kinds
      rw [hc] at hc'
      cases hc'
  · rcases hw.scalar hne' with ⟨hc', -⟩ | ⟨-, t, ht⟩
    · rw [hc] at hc'
      cases hc'
    · exact Or.inr ⟨s, t, hs, ht⟩

/-- Two values of a column are equal just when their cells are. -/
theorem Holds.equal_eq_ok (hv : c.Holds v) (hw : c.Holds w) (hne : v.isNull = false)
    (hne' : w.isNull = false) :
    v.equal w = .ok ((Cell.ofScalar v).order (.ofScalar w) == .eq) := by
  rcases hv.both hw hne hne' with ⟨m, n, rfl, rfl⟩ | ⟨s, t, hs, ht⟩
  · rfl
  · rw [equal_of_asText hs ht, Cell.ofScalar_of_asText hs, Cell.ofScalar_of_asText ht, Cell.order]
    have hst : (s == t) = (compare s t == .eq) := by
      rw [Bool.eq_iff_iff, beq_iff_eq, beq_iff_eq, Std.LawfulEqOrd.compare_eq_iff_eq]
    rw [hst]

/-- Two values of a column have the order of their cells. -/
theorem Holds.order?_eq_ok (hv : c.Holds v) (hw : c.Holds w) (hne : v.isNull = false)
    (hne' : w.isNull = false) :
    v.order? w = .ok (some ((Cell.ofScalar v).order (.ofScalar w))) := by
  rcases hv.both hw hne hne' with ⟨m, n, rfl, rfl⟩ | ⟨s, t, hs, ht⟩
  · rfl
  · rw [order?_of_asText hs ht, Cell.ofScalar_of_asText hs, Cell.ofScalar_of_asText ht, Cell.order]

/-- Sorting in memory takes values of a column in the order of their cells. -/
theorem Holds.precedes_eq_ok (hv : c.Holds v) (hw : c.Holds w) :
    Memory.precedes v w = .ok ((Cell.ofScalar v).plainOrder (.ofScalar w) == .lt) := by
  rw [← Cell.order_eq_plainOrder (Cell.isPlain_ofScalar v) (Cell.isPlain_ofScalar w)]
  -- nothing comes first on both sides; only two values that are there are compared
  unfold Memory.precedes
  cases hne : v.isNull with
  | true =>
    rw [← hv.isNull_ofScalar, beq_iff_eq] at hne
    rw [hne, ← hw.isNull_ofScalar]
    cases Cell.ofScalar w <;> rfl
  | false =>
    cases hne' : w.isNull with
    | true =>
      rw [← hw.isNull_ofScalar, beq_iff_eq] at hne'
      rw [hne']
      cases Cell.ofScalar v <;> rfl
    | false =>
      rw [hv.equal_eq_ok hw hne hne', hv.order?_eq_ok hw hne hne']
      cases (Cell.ofScalar v).order (.ofScalar w) <;> rfl

end Column

end Listing.Sql
