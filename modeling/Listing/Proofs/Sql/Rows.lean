import Mathlib.Data.List.Nodup
import Listing.Proofs.Memory.Fetching
import Listing.Proofs.Sql.Typed

/-!
# Rows of a table

An item is a list of named values, and the table of a schema stores its values by column
(`Schema.row`).  Memory and the table sort by the same keys into the same order
(`Schema.exists_sortByKeys`), if the identifier is one of the keys.
-/

namespace Listing

namespace Sql

variable {s : Schema} {fields : List (String × Value)}

/-- The value of a column in an item. -/
def Column.valueIn (c : Column) (fields : List (String × Value)) : Value :=
  (fields.lookup c.name).getD .null

/-- The columns of a table may hold the values of an item. -/
def Schema.Holds (s : Schema) (fields : List (String × Value)) : Prop :=
  ∀ c ∈ s.columns, c.Holds (c.valueIn fields)

/-- The row of an item. -/
def Schema.row (s : Schema) (fields : List (String × Value)) : Row :=
  s.columns.map fun c => (c.name, .ofScalar (c.valueIn fields))

/-- No column's name has a point in it, as names of attributes have none: each is the path of one
field. -/
def Schema.Flat (s : Schema) : Prop := ∀ c ∈ s.columns, '.' ∉ c.name.toList

/-- The column of a name is a column of that name. -/
theorem Schema.of_find? {name : String} {c : Column} (h : s.find? name = some c) :
    c ∈ s.columns ∧ c.name = name :=
  ⟨List.mem_of_find?_eq_some h, by simpa using List.find?_some h⟩

theorem Schema.column_eq_ok {name : String} {c : Column} (h : s.find? name = some c) :
    s.column name = .ok c := by
  rw [column, h]
  rfl

/-- Among values that only depend on the name of their column, each column's is found by name. -/
theorem lookup_columns {β : Type} {g : Column → β} (hg : ∀ c d, c.name = d.name → g c = g d)
    {cs : List Column} {c : Column} (hc : c ∈ cs) :
    (cs.map fun c => (c.name, g c)).lookup c.name = some (g c) := by
  induction cs with
  | nil => exact absurd hc List.not_mem_nil
  | cons d ds ih =>
    rw [List.map_cons, List.lookup_cons]
    by_cases hname : c.name = d.name
    · have hbeq : (c.name == d.name) = true := beq_iff_eq.2 hname
      rw [hbeq, hg c d hname]
    · have hbeq : (c.name == d.name) = false := beq_eq_false_iff_ne.2 hname
      have hne : c ≠ d := fun h => hname (congrArg Column.name h)
      rw [hbeq]
      exact ih ((List.mem_cons.1 hc).resolve_left hne)

/-- The cell of a column holds the value of the column. -/
theorem Schema.cell_row {c : Column} (hc : c ∈ s.columns) :
    (s.row fields).cell c = .ofScalar (c.valueIn fields) := by
  have hname : ∀ c d : Column, c.name = d.name →
      Cell.ofScalar (c.valueIn fields) = .ofScalar (d.valueIn fields) := by
    intro c d h
    rw [Column.valueIn, h]
    rfl
  rw [row, Row.cell, lookup_columns hname hc]
  rfl

/-- A row is plain if its entries are, as a missing cell has nothing in it. -/
theorem Row.isPlain_of_forall {r : Row} (h : ∀ e ∈ r, e.2.IsPlain) : r.IsPlain := by
  intro c
  unfold cell
  induction r with
  | nil => exact trivial
  | cons e es ih =>
    rw [List.lookup_cons]
    split
    · exact h e List.mem_cons_self
    · exact ih fun d hd => h d (List.mem_cons_of_mem e hd)

theorem Schema.isPlain_row (s : Schema) (fields : List (String × Value)) :
    (s.row fields).IsPlain := by
  apply Row.isPlain_of_forall
  intro e he
  obtain ⟨c, -, rfl⟩ := List.mem_map.1 he
  exact Cell.isPlain_ofScalar _

/-! ## Storing -/

/-- Items that a table may hold are stored just as they are, in some order. -/
theorem Database.exists_ofFields {rows : List (List (String × Value))}
    (h : ∀ fields ∈ rows, s.Holds fields) :
    ∃ db, ofFields s rows = .ok db ∧ db.schema = s ∧ db.rows.Perm (rows.map s.row) := by
  -- nothing is converted on the way in
  have hconvert : ∀ fields ∈ rows, s.convertRow fields =
      .ok (s.columns.map fun c => (c, c.valueIn fields)) := by
    intro fields hf
    apply Outcome.mapM_eq_ok
    intro c hc
    have hconv : c.manner.convert (c.valueIn fields) = .ok (c.valueIn fields) :=
      (h fields hf c hc).convert_eq_ok
    show c.manner.convert (c.valueIn fields) >>= _ = _
    rw [hconv]
    rfl
  have hstore : ∀ fields ∈ rows, storeRow (s.columns.map fun c => (c, c.valueIn fields)) =
      .ok (s.row fields) := by
    intro fields hf
    unfold storeRow Schema.row
    rw [List.mapM_map]
    apply Outcome.mapM_eq_ok
    intro c hc
    have hc := h fields hf c hc
    show Cell.ofValue (c.valueIn fields) >>= _ = _
    rw [hc.ofValue_eq_ok, Outcome.ok_bind, hc.stored_ofScalar]
    rfl
  refine ⟨⟨s, sortRows [(⟨"id", some .int⟩, false)] (rows.map s.row)⟩, ?_, rfl,
    List.mergeSort_perm _ _⟩
  rw [ofFields, Outcome.mapM_eq_ok hconvert, Outcome.ok_bind, List.mapM_map,
    Outcome.mapM_eq_ok (f := storeRow ∘ _) hstore]
  rfl

/-! ## Sorting -/

/-- The identifier of an item. -/
def identifier (fields : List (String × Value)) : Cell :=
  .ofScalar ((fields.lookup "id").getD .null)

/-- The column of a key to sort by, and whether it is sorted downwards. -/
def Schema.keyColumn (s : Schema) (key : SortKey) : Column × Bool :=
  ((s.find? key.column).getD ⟨key.column, none⟩, key.direction == "DESC")

/-- A table has the columns of all keys. -/
def Schema.Sorts (s : Schema) (keys : List SortKey) : Prop :=
  ∀ key ∈ keys, (s.find? key.column).isSome

/-- The keys of a table are its columns, upwards or downwards. -/
theorem Schema.Sorts.orderColumns_eq_ok {keys : List SortKey} (h : s.Sorts keys) :
    s.orderColumns keys = .ok (keys.map s.keyColumn) := by
  apply Outcome.mapM_eq_ok
  intro key hk
  obtain ⟨c, hc⟩ := Option.isSome_iff_exists.1 (h key hk)
  rw [column_eq_ok hc, Outcome.ok_bind, keyColumn, hc]
  rfl

/-- The keys of a table rank items in memory in the order of their rows. -/
theorem Schema.precedesBy_eq_ok {key : SortKey} {x y : List (String × Value)} (hs : s.Flat)
    (hkey : (s.find? key.column).isSome) (hx : s.Holds x) (hy : s.Holds y) :
    Memory.precedesBy .record key x y =
      .ok (columnOrder (s.keyColumn key) (s.row x) (s.row y) == .lt) := by
  obtain ⟨c, hc⟩ := Option.isSome_iff_exists.1 hkey
  obtain ⟨hmem, hname⟩ := Schema.of_find? hc
  have hpath : '.' ∉ key.column.toList := hname ▸ hs c hmem
  have hfield : ∀ fields, (Value.record fields).field key.column = c.valueIn fields := by
    intro fields
    rw [Value.field_record hpath, ← hname]
    rfl
  have hcolumn : s.keyColumn key = (c, key.direction == "DESC") := by rw [keyColumn, hc]; rfl
  unfold Memory.precedesBy columnOrder
  rw [hcolumn, hfield, hfield, cell_row hmem, cell_row hmem]
  split
  · exact (hy c hmem).precedes_eq_ok (hx c hmem)
  · exact (hx c hmem).precedes_eq_ok (hy c hmem)

/-- Items in order by some keys have rows in that order. -/
theorem Schema.isLE_of_inOrder {keys : List SortKey} {x y : List (String × Value)} (hs : s.Flat)
    (hkeys : s.Sorts keys) (hx : s.Holds x) (hy : s.Holds y)
    (h : Memory.InOrder .record (fun _ _ => True) keys x y) :
    (plainRowOrder (keys.map s.keyColumn) (s.row x) (s.row y)).isLE = true := by
  induction keys with
  | nil => rfl
  | cons key keys ih =>
    have hkey : (s.find? key.column).isSome := hkeys key List.mem_cons_self
    have hrest : s.Sorts keys := fun k hk => hkeys k (List.mem_cons_of_mem key hk)
    obtain ⟨hback, hforth⟩ := h
    rw [precedesBy_eq_ok hs hkey hy hx, Except.ok.injEq, beq_eq_false_iff_ne] at hback
    rw [precedesBy_eq_ok hs hkey hx hy, Except.ok.injEq, beq_iff_eq] at hforth
    rw [List.map_cons, plainRowOrder, compareLex, Ordering.isLE_then_iff_and]
    rcases hforth with hlt | htie
    · exact ⟨Ordering.isLE_of_eq_lt hlt, Or.inl hlt⟩
    · -- not beaten under the first key, and in order by the others
      refine ⟨?_, Or.inr (ih hrest htie)⟩
      by_contra hle
      exact hback (Std.OrientedCmp.lt_of_not_isLE hle)

/-- Items whose rows are equal in an order with the identifier among its keys are the same, if no
two have the same identifier. -/
theorem Schema.eq_of_plainRowOrder {keys : List SortKey} {found : List (List (String × Value))}
    (hkeys : s.Sorts keys) (hid : ∃ key ∈ keys, key.column = "id")
    (hdistinct : (found.map identifier).Nodup) {x y : List (String × Value)} (hx : x ∈ found)
    (hy : y ∈ found)
    (h : plainRowOrder (keys.map s.keyColumn) (s.row x) (s.row y) = .eq) : x = y := by
  obtain ⟨key, hk, hkid⟩ := hid
  obtain ⟨c, hc⟩ := Option.isSome_iff_exists.1 (hkeys key hk)
  obtain ⟨hmem, hname⟩ := Schema.of_find? hc
  have hcolumn : (s.keyColumn key).1 = c := by rw [keyColumn, hc]; rfl
  have hident : ∀ fields, Cell.ofScalar (c.valueIn fields) = identifier fields := by
    intro fields
    rw [Column.valueIn, hname, hkid]
    rfl
  -- the identifier is one of the columns in which the rows are equal
  have hcell := cell_eq_of_plainRowOrder (s.isPlain_row x) (s.isPlain_row y) h
    (List.mem_map_of_mem hk)
  rw [hcolumn, cell_row hmem, cell_row hmem, hident, hident] at hcell
  exact List.inj_on_of_nodup_map hdistinct hx hy hcell

/-- Items that differ in their identifier can be sorted in memory by keys with the identifier among
them, and the table sorts their rows into the same order. -/
theorem Schema.exists_sortByKeys {keys : List SortKey} {rows : List Row}
    {found : List (List (String × Value))} (hs : s.Flat) (hkeys : s.Sorts keys)
    (hid : ∃ key ∈ keys, key.column = "id") (hfound : ∀ fields ∈ found, s.Holds fields)
    (hdistinct : (found.map identifier).Nodup) (hrows : rows.Perm (found.map s.row)) :
    ∃ sorted, Memory.sortByKeys .record keys found = .ok sorted ∧
      sortRows (keys.map s.keyColumn) rows = sorted.map s.row := by
  have hranks : ∀ key ∈ keys, Memory.Ranks (Memory.precedesBy .record key) found := fun key hk =>
    Memory.Ranks.of_order fun x hx y hy =>
      precedesBy_eq_ok hs (hkeys key hk) (hfound x hx) (hfound y hy)
  obtain ⟨sorted, hsorted, horder⟩ :=
    Memory.sortByKeys_pairwise (R := fun _ _ => True) hranks
      (List.pairwise_of_forall fun _ _ => trivial)
  have hperm : sorted.Perm found := Memory.sortByKeys_perm hsorted
  have hmem : ∀ r ∈ rows, ∃ fields ∈ found, s.row fields = r := fun r hr =>
    List.mem_map.1 (hrows.mem_iff.1 hr)
  -- both lists are in the order of the rows
  have htable : (sortRows (keys.map s.keyColumn) rows).Pairwise fun a b =>
      (plainRowOrder (keys.map s.keyColumn) a b).isLE = true := by
    apply sortRows_pairwise
    intro r hr
    obtain ⟨fields, -, rfl⟩ := hmem r hr
    exact s.isPlain_row fields
  have hmemory : (sorted.map s.row).Pairwise fun a b =>
      (plainRowOrder (keys.map s.keyColumn) a b).isLE = true := by
    rw [List.pairwise_map]
    refine horder.imp_of_mem ?_
    intro x y hx hy h
    exact isLE_of_inOrder hs hkeys (hfound x (hperm.mem_iff.1 hx)) (hfound y (hperm.mem_iff.1 hy)) h
  have hsame : (sortRows (keys.map s.keyColumn) rows).Perm (sorted.map s.row) :=
    ((List.mergeSort_perm _ _).trans hrows).trans (hperm.map s.row).symm
  refine ⟨sorted, hsorted, hsame.eq_of_pairwise ?_ htable hmemory⟩
  -- rows that do not come behind each other are those of one item
  intro a b ha hb hab hba
  obtain ⟨x, hx, rfl⟩ := hmem a ((List.mergeSort_perm _ _).mem_iff.1 ha)
  obtain ⟨y, hy, rfl⟩ := List.mem_map.1 hb
  have heq := Std.OrientedCmp.isLE_antisymm hab hba
  rw [eq_of_plainRowOrder hkeys hid hdistinct hx (hperm.mem_iff.1 hy) heq]

end Sql

end Listing
