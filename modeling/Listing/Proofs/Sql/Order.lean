import Listing.Sql.Fetch

/-!
# The order of rows

Cells without real numbers are in a linear order (`Cell.plainOrder`), and rows of such cells in one
by each list of columns (`plainRowOrder`).  Sorting puts rows in that order (`sortRows_pairwise`),
and rows that are equal in it have equal cells in these columns (`cell_eq_of_plainRowOrder`).
-/

namespace Listing.Sql

open Std

namespace Cell

def IsPlain : Cell → Prop
  | real _ => False
  | _ => True

/-- The place of a cell's kind in the order. -/
def rank : Cell → Nat
  | null => 0
  | text _ => 2
  | _ => 1

def wholePart : Cell → Int
  | integer n => n
  | _ => 0

def textPart : Cell → String
  | text s => s
  | _ => ""

/-- The order of cells that are no real numbers: by kind, then by what is in them. -/
def plainOrder : Cell → Cell → Ordering :=
  compareLex (compareOn rank) (compareLex (compareOn wholePart) (compareOn textPart))

instance : TransCmp plainOrder :=
  inferInstanceAs (TransCmp (compareLex (compareOn rank)
    (compareLex (compareOn wholePart) (compareOn textPart))))

/-- Without real numbers this is the order of cells. -/
theorem order_eq_plainOrder {a b : Cell} (ha : a.IsPlain) (hb : b.IsPlain) :
    a.order b = a.plainOrder b := by
  cases a with
  | real x => exact ha.elim
  | null => cases b <;> rfl
  | integer m =>
    cases b with
    | real x => exact hb.elim
    | integer n => simp [order, plainOrder, compareLex, compareOn, rank, wholePart, textPart]
    | _ => rfl
  | text s =>
    cases b with
    | real x => exact hb.elim
    | text t => simp [order, plainOrder, compareLex, compareOn, rank, wholePart, textPart]
    | _ => rfl

theorem eq_of_plainOrder {a b : Cell} (ha : a.IsPlain) (hb : b.IsPlain)
    (h : a.plainOrder b = .eq) : a = b := by
  rw [← order_eq_plainOrder ha hb] at h
  cases a <;> cases b <;> simp_all [IsPlain, order]

end Cell

/-- No cell of a row is a real number. -/
def Row.IsPlain (r : Row) : Prop := ∀ c : Column, (r.cell c).IsPlain

/-- The order of two rows by one column, upwards or downwards. -/
def columnOrder (key : Column × Bool) (a b : Row) : Ordering :=
  if key.2 then (b.cell key.1).plainOrder (a.cell key.1)
  else (a.cell key.1).plainOrder (b.cell key.1)

instance (key : Column × Bool) : TransCmp (columnOrder key) where
  eq_swap := by
    intro a b
    unfold columnOrder
    split <;> exact OrientedCmp.eq_swap
  isLE_trans := by
    intro a b c hab hbc
    unfold columnOrder at *
    split at hab
    · -- downwards, the order from `c` to `a`
      next h =>
      rw [if_pos h] at hbc ⊢
      exact TransCmp.isLE_trans hbc hab
    · next h =>
      rw [if_neg h] at hbc ⊢
      exact TransCmp.isLE_trans hab hbc

/-- The order of two rows of plain cells by some columns, of which the first decides. -/
def plainRowOrder : List (Column × Bool) → Row → Row → Ordering
  | [] => fun _ _ => .eq
  | key :: keys => compareLex (columnOrder key) (plainRowOrder keys)

instance (keys : List (Column × Bool)) : TransCmp (plainRowOrder keys) := by
  induction keys with
  | nil => exact { eq_swap := rfl, isLE_trans := fun _ _ => rfl }
  | cons key keys ih => exact inferInstanceAs (TransCmp (compareLex _ _))

theorem rowOrder_eq_plainRowOrder {keys : List (Column × Bool)} {a b : Row} (ha : a.IsPlain)
    (hb : b.IsPlain) : rowOrder keys a b = plainRowOrder keys a b := by
  induction keys with
  | nil => rfl
  | cons key keys ih =>
    obtain ⟨c, down⟩ := key
    have hswap : (b.cell c).plainOrder (a.cell c) = ((a.cell c).plainOrder (b.cell c)).swap :=
      OrientedCmp.eq_swap
    rw [rowOrder, ih, Cell.order_eq_plainOrder (ha c) (hb c), ← hswap]
    rfl

/-- Sorting puts rows of plain cells in order. -/
theorem sortRows_pairwise {keys : List (Column × Bool)} {rows : List Row}
    (h : ∀ r ∈ rows, r.IsPlain) :
    (sortRows keys rows).Pairwise fun a b => (plainRowOrder keys a b).isLE = true := by
  have hplain : ∀ a ∈ rows, ∀ b ∈ rows,
      (rowOrder keys a b != .gt) = (plainRowOrder keys a b).isLE := by
    intro a ha b hb
    rw [rowOrder_eq_plainRowOrder (h a ha) (h b hb)]
    cases plainRowOrder keys a b <;> rfl
  -- the sort is stable, but all that matters here is what it sorts by
  have hsort : sortRows keys rows = rows.mergeSort fun a b => (plainRowOrder keys a b).isLE := by
    have hmap := List.map_mergeSort (s := fun a b => (plainRowOrder keys a b).isLE) (f := id) hplain
    rw [List.map_id, List.map_id] at hmap
    exact hmap
  rw [hsort]
  apply List.pairwise_mergeSort
  · intro a b c hab hbc
    exact TransCmp.isLE_trans hab hbc
  · intro a b
    have hswap : plainRowOrder keys b a = (plainRowOrder keys a b).swap := OrientedCmp.eq_swap
    rw [hswap]
    cases plainRowOrder keys a b <;> rfl

/-- Rows that are equal in the order of some columns have equal cells there. -/
theorem cell_eq_of_plainRowOrder {keys : List (Column × Bool)} {a b : Row} (ha : a.IsPlain)
    (hb : b.IsPlain) (h : plainRowOrder keys a b = .eq) {key : Column × Bool} (hk : key ∈ keys) :
    a.cell key.1 = b.cell key.1 := by
  induction keys with
  | nil => exact absurd hk List.not_mem_nil
  | cons k keys ih =>
    obtain ⟨hfirst, hrest⟩ := Ordering.then_eq_eq.1 h
    rcases List.mem_cons.1 hk with rfl | hk
    · -- upwards or downwards, it is the same two cells that are equal
      unfold columnOrder at hfirst
      split at hfirst
      · exact (Cell.eq_of_plainOrder (hb _) (ha _) hfirst).symm
      · exact Cell.eq_of_plainOrder (ha _) (hb _) hfirst
    · exact ih hrest hk

end Listing.Sql
