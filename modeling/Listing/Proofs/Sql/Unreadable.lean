import Listing.Proofs.Memory.Operation
import Listing.Proofs.Sql.Selection
import Mathlib.Tactic.SplitIfs

/-!
# Text that is no integer against a column of integers

A text that is not read as an integer stays a text.  In memory no integer is comparable with it.  The
database reads it as a number of its own, and puts every integer below it if it is none
(`Relation.acceptsText`).  Both sides select a row alike just when the database does not take its
integer to stand in the relation to the text (`Schema.unreadable_alike_iff`).
-/

namespace Listing.Sql

/-- Whether the database takes an integer to stand in a relation to a text: to the number that the
text reads as, or else as below the text. -/
def Relation.acceptsText (r : Relation) (n : Int) (text : String) : Bool :=
  match Cell.ofNumeral? text with
  | some x => r.accepts ((Cell.integer n).order x)
  | none => r.accepts .lt

variable {c : Column} {r : Relation} {n : Int} {text : String}

/-! ## In the database -/

theorem Cell.ofNumeral?_ne_null {x : Cell} (h : Cell.ofNumeral? text = some x) : x ≠ .null := by
  rintro rfl
  obtain ⟨⟨coefficient, exponent⟩, -, hx⟩ := Option.bind_eq_some_iff.1 h
  -- what a numeral reads as is an integer or a real number
  dsimp only at hx
  split_ifs at hx <;> cases hx

/-- An integer is compared with a text as a number, or is below it. -/
theorem compareCells_text (hk : c.kind = some .int) (r : Relation) (n : Int) (text : String) :
    compareCells c r (.integer n) (.text text) = .ofBool (r.acceptsText n text) := by
  have haffinity : c.affinity = .integer := by rw [Column.affinity, hk]
  have hcompared : (Cell.text text).compared .integer =
      (Cell.ofNumeral? text).getD (.text text) := rfl
  unfold compareCells Relation.acceptsText
  rw [haffinity, hcompared]
  -- the text reads as a number, or stays a text above all numbers
  cases hx : Cell.ofNumeral? text with
  | none => rfl
  | some x =>
    cases x with
    | null => exact absurd rfl (Cell.ofNumeral?_ne_null hx)
    | _ => rfl

/-! ## In memory -/

/-- An integer is not made to be compared with a text that is not read as one. -/
theorem incomparable_unreadable (h : Numeral.whole? text.toList = none) (n : Int) :
    Memory.Incomparable (.int n) text := by
  have hcast : (Value.text text).castLike (.int n) = .text text := by
    show ((Numeral.whole? text.toList).map Value.int).getD (.text text) = _
    rw [h]
    rfl
  rw [Memory.Incomparable, hcast]
  rfl

/-- No comparison with a text holds of a field that is not made to be compared with it. -/
theorem evaluate_incomparable {comparator : Comparator} {field : Value}
    (hr : comparator.relation? = some r) (h : Memory.Incomparable field text)
    (hfield : field.isOrdinary = true) :
    Memory.evaluate Memory.registry comparator field (.text text) = .ok false := by
  cases comparator <;> cases hr
  · exact h.equals_eq hfield
  · exact h.ordered_eq _
  · exact h.ordered_eq _
  · exact h.ordered_eq _
  · exact h.ordered_eq _

variable {s : Schema} {column : String} {comparator : Comparator} {v item : Value} {row : Row}

/-- In memory a comparison with such a text is false, and its negation is true. -/
theorem holds_unreadable (hr : comparator.relation? = some r)
    (htext : Numeral.whole? text.toList = none) (hfield : item.field column = .int n) :
    (Condition.leaf comparator column (.text text)).holds Memory.registry item = .ok false ∧
      (Condition.group .not [.leaf comparator column (.text text)]).holds Memory.registry item =
        .ok true := by
  have hfalse := evaluate_incomparable hr (incomparable_unreadable htext n) rfl
  have htruth := leafTruth_field hfield comparator (.text text)
  rw [hfalse] at htruth
  exact holds_leaf (Comparator.not_logical_of_relation? hr) htruth

/-! ## Queries of the database -/

/-- A text that is not read as an integer stays a text. -/
theorem cast_unreadable (hk : c.kind = some .int) (h : Numeral.whole? text.toList = none) :
    c.cast (.text text) = .text text := by
  rw [Column.cast, hk, Value.castTo, Value.cast, Kind.read?, h]
  rfl

/-- The test of a column of integers against a text that is not read as an integer. -/
theorem leafTest_unreadable (hc : s.find? column = some c) (hk : c.kind = some .int)
    (hr : comparator.relation? = some r) (h : Numeral.whole? text.toList = none) :
    leafTest s registry comparator.symbol (some (.text column)) (.text text) =
      .ok (.compare c r (.text text)) := by
  have hcast := cast_unreadable hk h
  have hordered : Orderable (c.cast (.text text)) := by
    rw [hcast]
    exact orderable_text text
  rw [leafTest_eq_ok hc hr hordered, hcast]

theorem bound_text (c : Column) (r : Relation) (text : String) :
    (Test.compare c r (.text text)).bound = .ok (.compare c r (.text text)) := rfl

/-- In the database a row is selected as its integer stands to the text. -/
theorem Schema.selects_unreadable (hc : s.find? column = some c) (hk : c.kind = some .int)
    (hr : comparator.relation? = some r) (htext : Numeral.whole? text.toList = none)
    (hcell : row.cell c = .integer n) :
    s.selects (.leaf comparator column (.text text)) row = .ok (r.acceptsText n text) ∧
      s.selects (.group .not [.leaf comparator column (.text text)]) row =
        .ok (!r.acceptsText n text) := by
  have hselects := selects_leaf (Comparator.not_logical_of_relation? hr)
    (leafTest_unreadable hc hk hr htext) (bound_text c r text) row
  -- the answer is definite, so its negation is the opposite
  rw [Test.truth, hcell, compareCells_text hk] at hselects
  cases haccepted : r.acceptsText n text with
  | true => rwa [haccepted] at hselects
  | false => rwa [haccepted] at hselects

-- scaling loses that the first text is nearer to the number below; the twentieth digit is left out
example : Relation.eq.acceptsText 8615 "8614.99999999999909" = true ∧
    Relation.lt.acceptsText 9007199254740993 "9007199254740993.0001" = false := by
  decide +kernel

/-! ## On both sides -/

/-- A comparison with nothing is unknown on both sides. -/
theorem Schema.unreadable_alike_null (hc : s.find? column = some c) (hk : c.kind = some .int)
    (hr : comparator.relation? = some r) (htext : Numeral.whole? text.toList = none)
    (hshares : c.Shares .null item row) :
    s.SelectsAlike (.leaf comparator column (.text text)) item row := by
  have hfield : item.field column = .null := (Schema.of_find? hc).2 ▸ hshares.field
  have htruth := leafTruth_field hfield comparator (.text text)
  rw [Comparator.bne_isNull_of_relation? hr] at htruth
  refine (selectsAlike_leaf_iff (Comparator.not_logical_of_relation? hr)
    (leafTest_unreadable hc hk hr htext) (bound_text c r text) htruth row).2 ?_
  rw [Test.truth, hshares.cell]
  rfl

/-- For a text that is not read as an integer, memory and database select a row of a column of
integers alike, alone and negated, unless the database takes the integer to stand in the relation to
the text.  Then the comparison selects the row in the database only, and its negation in memory
only. -/
theorem Schema.unreadable_alike_iff (hc : s.find? column = some c) (hk : c.kind = some .int)
    (hr : comparator.relation? = some r) (htext : Numeral.whole? text.toList = none)
    (hv : c.Holds v) (hshares : c.Shares v item row) :
    (s.SelectsAlike (.leaf comparator column (.text text)) item row ↔
      ∀ n, v = .int n → r.acceptsText n text = false) ∧
    ∀ n, v = .int n → r.acceptsText n text = true →
      s.selects (.leaf comparator column (.text text)) row = .ok true ∧
      (Condition.leaf comparator column (.text text)).holds Memory.registry item = .ok false ∧
      s.selects (.group .not [.leaf comparator column (.text text)]) row = .ok false ∧
      (Condition.group .not [.leaf comparator column (.text text)]).holds Memory.registry item =
        .ok true := by
  cases hv with
  | null =>
    refine ⟨iff_of_true (unreadable_alike_null hc hk hr htext hshares) ?_, ?_⟩
    · intro n hn
      cases hn
    · intro n hn
      cases hn
  | @integer n _ _ =>
    have hfield : item.field column = .int n := (Schema.of_find? hc).2 ▸ hshares.field
    obtain ⟨hselects, hselectsNot⟩ := selects_unreadable hc hk hr htext hshares.cell
    obtain ⟨hholds, hholdsNot⟩ := holds_unreadable hr htext hfield
    rw [SelectsAlike, hselects, hselectsNot, hholds, hholdsNot]
    constructor
    · constructor
      · rintro ⟨alone, negated, haccepted, hfalse, -, -⟩ m hm
        cases hm
        cases hfalse
        exact Except.ok.inj haccepted
      · intro hrejected
        have haccepted := hrejected n rfl
        exact ⟨false, true, by rw [haccepted], rfl, by rw [haccepted]; rfl, rfl⟩
    · intro m hm haccepted
      cases hm
      rw [haccepted]
      exact ⟨rfl, rfl, rfl, rfl⟩
  | text hk' =>
    rw [hk] at hk'
    cases hk'
  | symbol hk' =>
    rw [hk] at hk'
    cases hk'

def catSchema : Schema := ⟨"Cat", "cats", [⟨"id", some .int⟩, ⟨"age", some .int⟩]⟩

/-- No cat is as old as a word, or older. -/
theorem unreadable_alike_cats :
    Numeral.whole? "old".toList = none ∧ Relation.ge.acceptsText 4 "old" = false ∧
      catSchema.SelectsAlike (.leaf .ge "age" (.text "old")) (.record [("age", .int 4)])
        [("age", .integer 4)] := by
  have hc : catSchema.find? "age" = some ⟨"age", some .int⟩ := rfl
  have hr : Comparator.ge.relation? = some .ge := rfl
  have htext : Numeral.whole? "old".toList = none := by decide +kernel
  have haccepted : Relation.ge.acceptsText 4 "old" = false := by decide +kernel
  have hholds : Column.Holds ⟨"age", some .int⟩ (.int 4) := .integer rfl rfl
  have hshares : Column.Shares ⟨"age", some .int⟩ (.int 4) (.record [("age", .int 4)])
      [("age", .integer 4)] := ⟨rfl, rfl⟩
  have halike := Schema.unreadable_alike_iff hc rfl hr htext hholds hshares
  exact ⟨htext, haccepted, halike.1.2 fun n hn => by cases hn; exact haccepted⟩

/-- In the database every cat is younger than a word. -/
theorem cat_below_text :
    catSchema.selects (.leaf .lt "age" (.text "old")) [("age", .integer 4)] = .ok true ∧
      (Condition.leaf .lt "age" (.text "old")).holds Memory.registry
        (.record [("age", .int 4)]) = .ok false := by
  have hc : catSchema.find? "age" = some ⟨"age", some .int⟩ := rfl
  have hr : Comparator.lt.relation? = some .lt := rfl
  have htext : Numeral.whole? "old".toList = none := by decide +kernel
  have haccepted : Relation.lt.acceptsText 4 "old" = true := by decide +kernel
  have hcell : Row.cell [("age", .integer 4)] ⟨"age", some .int⟩ = .integer 4 := rfl
  have hselects := (Schema.selects_unreadable hc rfl hr htext hcell).1
  rw [haccepted] at hselects
  exact ⟨hselects, (holds_unreadable hr htext rfl).1⟩

end Listing.Sql
