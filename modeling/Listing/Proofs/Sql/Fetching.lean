import Listing.Proofs.Sql.Agreement

/-!
# The same page from memory and from the database

A plan that suits a table of integer and text columns fetches the same items in the same order from
memory as rows from the table, with the same total (`executors_agree`).
-/

namespace Listing.Sql

variable {s : Schema}

/-! ## Slices -/

/-- For bounds that are not negative the database slices like memory. -/
theorem sliceRows_eq_slice {α : Type} {p : Plan} (hlimit : ∀ n, p.limit = some n → 1 ≤ n)
    (hoffset : ∀ n, p.offset = some n → 0 ≤ n) (xs : List α) :
    sliceRows p.limit p.offset xs = p.toSelection.slice xs := by
  have hstart : 0 ≤ p.offset.getD 0 := by
    cases ho : p.offset with
    | none => exact Int.le_refl 0
    | some n => exact hoffset n ho
  show sliceRows p.limit p.offset xs =
    sliceOf (p.offset.getD 0) (p.limit.map (p.offset.getD 0 + ·)) xs
  unfold sliceRows
  generalize p.offset.getD 0 = start at hstart
  cases hl : p.limit with
  | none =>
    show xs.drop start.toNat = (xs.take xs.length).drop (slicePosition xs.length start)
    rw [List.take_length, slicePosition_of_nonneg hstart, List.drop_eq_drop_min]
  | some n =>
    have hn : 1 ≤ n := hlimit n hl
    have hsub : (start + n).toNat - start.toNat = n.toNat := by omega
    show (if n < 0 then _ else (xs.drop start.toNat).take n.toNat) =
      sliceOf start (some (start + n)) xs
    rw [if_neg (by omega), sliceOf_of_nonneg hstart (by omega), List.drop_take, hsub]

theorem sliceRows_map {α β : Type} (f : α → β) (limit offset : Option Int) (xs : List α) :
    sliceRows limit offset (xs.map f) = (sliceRows limit offset xs).map f := by
  unfold sliceRows
  cases limit with
  | none => exact List.map_drop.symm
  | some n =>
    show (if n < 0 then (xs.map f).drop _ else ((xs.map f).drop _).take n.toNat) =
      List.map f (if n < 0 then xs.drop _ else (xs.drop _).take n.toNat)
    split
    · exact List.map_drop.symm
    · rw [List.map_take, List.map_drop]

/-- A bound that fits a word is handed over as it is. -/
theorem bound?_eq_ok {n : Option Int} (h : ∀ m, n = some m → fitsWord m = true) :
    bound? n = .ok n := by
  cases n with
  | none => rfl
  | some m =>
    rw [bound?, if_pos (h m rfl)]
    rfl

/-! ## Queries -/

/-- The rows that a clause is true of. -/
def Database.matching (db : Database) (d : Clause Value) : List Row :=
  db.rows.filter fun row => (d.eval fun t => (t.map .ofScalar).truth row).holds

/-- What a query of the whole table gives: the slice of the sorted rows that its clause is true of,
and their number. -/
theorem fetch_eq_ok {db : Database} {q : Selection} {d : Clause Value}
    (hclause : clause db.schema registry q.condition = .ok d) (htyped : d.Forall Test.Typed)
    (hsorts : db.schema.Sorts q.orderBy) (hlimit : ∀ n, q.limit = some n → fitsWord n = true)
    (hoffset : ∀ n, q.offset = some n → fitsWord n = true) :
    fetch db .everything registry q =
      .ok (sliceRows q.limit q.offset
        (sortRows (q.orderBy.map db.schema.keyColumn) (db.matching d)),
        (db.matching d).length) := by
  have htruth : ∀ row, Truth.all (memberTruths row [d.map (Test.map .ofScalar)]) =
      d.eval fun t => (t.map .ofScalar).truth row := by
    intro row
    rw [memberTruths, memberTruths, Truth.folds_all.single, Clause.truth_eq_eval, Clause.eval_map]
  have hmatching : (db.rows.filter fun row =>
      (Truth.all (memberTruths row [d.map (Test.map .ofScalar)])).holds) = db.matching d := by
    simp only [htruth]
    rfl
  unfold fetch
  rw [hclause, Outcome.ok_bind]
  show prepare [d] >>= _ = _
  rw [prepare_eq_ok htyped, Outcome.ok_bind, hmatching, hsorts.orderColumns_eq_ok,
    Outcome.ok_bind, bound?_eq_ok hlimit, Outcome.ok_bind, bound?_eq_ok hoffset]
  rfl

/-- The rows that a clause is true of are those of the items that its condition is true of. -/
theorem Database.matching_perm {db : Database} {rows : List (List (String × Value))}
    {q : Condition} {d : Clause Value} (hstored : db.rows.Perm (rows.map s.row))
    (htruth : ∀ fields ∈ rows,
      q.truth Memory.registry (.record fields) = .ok (d.eval (Test.truthOn s fields))) :
    (db.matching d).Perm ((rows.filter fun x => decide
      (q.IsTrue Memory.registry (.record x))).map s.row) := by
  -- a row is kept just when the condition is definitely true of its item
  have hitem : ∀ x ∈ rows, (d.eval (Test.truthOn s x)).holds =
      decide (q.IsTrue Memory.registry (.record x)) := by
    intro x hx
    rw [Truth.holds, beq_eq_decide]
    congr 1
    rw [Condition.IsTrue, htruth x hx, Except.ok.injEq]
  refine (hstored.filter _).trans ?_
  rw [List.filter_map]
  exact .of_eq (congrArg (List.map s.row) (List.filter_congr hitem))

/-! ## Plans -/

/-- The items of a table: its columns may hold their values, and no two have one identifier. -/
structure Schema.Stores (s : Schema) (rows : List (List (String × Value))) : Prop where
  holds : ∀ fields ∈ rows, s.Holds fields
  distinct : (rows.map identifier).Nodup

/-- The plans that suit a table: its criteria do, it sorts by columns of the table with the
identifier among them, and its slice has no negative bound. -/
structure Schema.Plans (s : Schema) (p : Plan) : Prop where
  criteria : ∀ group ∈ p.groups, s.Fits group
  sorts : s.Sorts p.orderBy
  identified : ∃ key ∈ p.orderBy, key.column = "id"
  limit : ∀ n, p.limit = some n → 1 ≤ n ∧ fitsWord n = true
  offset : ∀ n, p.offset = some n → 0 ≤ n ∧ fitsWord n = true

def Row.identifier (r : Row) : Cell := (r.lookup "id").getD .null

/-- The row of an item has its identifier, as a plan sorts by it. -/
theorem Schema.Plans.identifier_row {p : Plan} (h : s.Plans p) (fields : List (String × Value)) :
    (s.row fields).identifier = identifier fields := by
  obtain ⟨key, hk, hkid⟩ := h.identified
  obtain ⟨c, hc⟩ := Option.isSome_iff_exists.1 (h.sorts key hk)
  obtain ⟨hmem, hname⟩ := Schema.of_find? hc
  have hcell : (s.row fields).cell c = .ofScalar (c.valueIn fields) := cell_row hmem
  rw [Row.cell, Column.valueIn, hname, hkid] at hcell
  exact hcell

/-- Memory and the database fetch the same items in the same order, and count the same total. -/
theorem executors_agree {rows : List (List (String × Value))} {p : Plan} (hs : s.Flat)
    (hrows : s.Stores rows) (hp : s.Plans p) :
    ∃ db page found total, Database.ofFields s rows = .ok db ∧
      executor db .everything p = .ok (page, total) ∧
      Memory.executor .record rows p = .ok (found, total) ∧
      page = found.map s.row ∧ page.map Row.identifier = found.map identifier := by
  obtain ⟨db, hdb, rfl, hstored⟩ := Database.exists_ofFields hrows.holds
  obtain ⟨d, hclause, htyped, htruth⟩ := Schema.Fits.agrees (p := p.criteria) hs (.all hp.criteria)
  have htruths : ∀ fields ∈ rows, p.criteria.toCondition.truth Memory.registry (.record fields) =
      .ok (d.eval (Test.truthOn db.schema fields)) := fun fields hf =>
    htruth fields (hrows.holds fields hf)
  -- the same items are found, in any order
  have hmatching := Database.matching_perm hstored htruths
  have hfound : (rows.filter fun x => decide
      (p.criteria.toCondition.IsTrue Memory.registry (.record x))).Sublist rows :=
    List.filter_sublist
  -- the identifier leaves no ties, so sorting makes the order the same too
  obtain ⟨sorted, hsorted, hsame⟩ := Schema.exists_sortByKeys hs hp.sorts hp.identified
    (fun x hx => hrows.holds x (hfound.subset hx)) (hrows.distinct.sublist (hfound.map identifier))
    hmatching
  have htotal : (db.matching d).length = sorted.length := by
    rw [hmatching.length_eq, List.length_map, (Memory.sortByKeys_perm hsorted).length_eq]
  have hslice := sliceRows_eq_slice (fun n hn => (hp.limit n hn).1)
    (fun n hn => (hp.offset n hn).1) sorted
  refine ⟨db, (p.toSelection.slice sorted).map db.schema.row, p.toSelection.slice sorted,
    sorted.length, hdb, ?_, ?_, rfl, ?_⟩
  · -- the database
    have hfetch := fetch_eq_ok (q := p.toSelection) hclause htyped hp.sorts
      (fun n hn => (hp.limit n hn).2) (fun n hn => (hp.offset n hn).2)
    rw [executor, hfetch, htotal, ← hslice, ← sliceRows_map, ← hsame]
    rfl
  · -- memory
    exact Memory.fetch_eq_ok.2
      ⟨fun x hx => ⟨_, htruths x hx⟩, sorted, hsorted, rfl, rfl⟩
  · rw [List.map_map]
    exact List.map_congr_left fun x _ => hp.identifier_row x

def stock : Schema :=
  ⟨"Part", "parts", [⟨"id", some .int⟩, ⟨"size", some .int⟩, ⟨"name", some .text⟩]⟩

/-- Four parts, one without a size and one without a name. -/
def stockRows : List (List (String × Value)) := [
  [("id", .int 1), ("size", .int 4), ("name", .text "bolt")],
  [("id", .int 2), ("size", .null), ("name", .text "nut")],
  [("id", .int 3), ("size", .int 7), ("name", .null)],
  [("id", .int 4), ("size", .int 12), ("name", .text "bolt")]]

/-- Parts that are not of size ten or more and have one of two names or none, by name. -/
def stockPlan : Plan where
  groups := [.negation (.test "size" .ge (.text " 10")),
    .any [.test "name" .isIn (.list [.text "bolt", .text "nut"]), .test "name" .isNull .null]]
  orderBy := [⟨"name", "ASC"⟩, ⟨"id", "DESC"⟩]
  limit := some 2
  offset := none

theorem stores_stock : stock.Stores stockRows where
  holds := by
    intro fields hf c hc
    simp only [stockRows, List.mem_cons, List.not_mem_nil, or_false] at hf
    simp only [stock, List.mem_cons, List.not_mem_nil, or_false] at hc
    rcases hf with rfl | rfl | rfl | rfl <;> rcases hc with rfl | rfl | rfl <;>
      first | exact .integer rfl (by decide) | exact .text rfl | exact .null
  distinct := by decide +kernel

theorem plans_stock : stock.Plans stockPlan where
  criteria := by
    -- the text is read as an integer, blank and all
    have hsize : stock.Fits (.negation (.test "size" .ge (.text " 10"))) :=
      .negation (.compare (c := ⟨"size", some .int⟩) rfl rfl
        (.numeral rfl (by decide +kernel : Numeral.whole? " 10".toList = some 10) (by decide)))
    have hname : stock.Fits (.any [.test "name" .isIn (.list [.text "bolt", .text "nut"]),
        .test "name" .isNull .null]) := by
      refine .any (List.forall_mem_cons.2 ⟨?_, List.forall_mem_singleton.2 ?_⟩)
      · refine .isIn (c := ⟨"name", some .text⟩) rfl rfl (by simp) ?_
        exact List.forall_mem_cons.2 ⟨.text rfl, List.forall_mem_singleton.2 (.text rfl)⟩
      · exact .isNull (c := ⟨"name", some .text⟩) rfl
    exact List.forall_mem_cons.2 ⟨hsize, List.forall_mem_singleton.2 hname⟩
  sorts := by unfold Schema.Sorts; decide
  identified := ⟨⟨"id", "DESC"⟩, by simp [stockPlan], rfl⟩
  limit n hn := by
    cases hn
    decide
  offset n hn := by cases hn

/-- A part without a name comes before one with a name; the size of another part is unknown. -/
theorem executors_agree_stock :
    ∃ db page, Database.ofFields stock stockRows = .ok db ∧
      executor db .everything stockPlan = .ok (page, 2) ∧
      page.map Row.identifier = [.integer 3, .integer 1] := by
  have hflat : stock.Flat := by unfold Schema.Flat; decide
  have hmemory : (Memory.executor .record stockRows stockPlan).toOption.map
      (fun fetched => (fetched.1.map identifier, fetched.2)) =
      some ([.integer 3, .integer 1], 2) := by decide +kernel
  obtain ⟨db, page, found, total, hdb, hpage, hfound, -, hids⟩ :=
    executors_agree hflat stores_stock plans_stock
  rw [hfound] at hmemory
  obtain ⟨hfound, htotal⟩ := Prod.mk.inj (Option.some.inj hmemory)
  exact ⟨db, page, hdb, htotal ▸ hpage, hids.trans hfound⟩

end Listing.Sql
