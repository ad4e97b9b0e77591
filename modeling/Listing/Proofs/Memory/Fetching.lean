import Listing.Memory.Fetch
import Listing.Proofs.Memory.Sorting
import Listing.Proofs.Memory.Truth

/-!
# What is fetched from memory

A fetch succeeds just when its condition evaluates on every item and the items it is true of can be
sorted; `fetch_eq_ok` says what it gives then.  Without a slice it gives all of these items, and a
page is the part of them between two positions (`slice_paged`).
-/

namespace Listing

/-! ## Slices -/

/-- A position that is not counted from the end is kept within the list. -/
theorem slicePosition_of_nonneg {i : Int} (hi : 0 ≤ i) (length : Nat) :
    slicePosition length i = min i.toNat length := by
  rw [slicePosition, if_neg (by omega)]

/-- Without bounds a slice is everything. -/
theorem sliceOf_everything {α : Type} (xs : List α) : sliceOf 0 none xs = xs := by
  simp [sliceOf, slicePosition]

/-- Between two positions from the start, a slice takes up to the one and drops up to the other. -/
theorem sliceOf_of_nonneg {α : Type} {start stop : Int} (hstart : 0 ≤ start) (hstop : 0 ≤ stop)
    (xs : List α) : sliceOf start (some stop) xs = (xs.take stop.toNat).drop start.toNat := by
  simp only [sliceOf, slicePosition_of_nonneg hstart, slicePosition_of_nonneg hstop]
  rw [← List.take_eq_take_min]
  by_cases hle : start.toNat ≤ xs.length
  · rw [Nat.min_eq_left hle]
  · -- nothing is left either way
    have hlen : (xs.take stop.toNat).length ≤ xs.length := List.length_take_le' _ _
    rw [List.drop_eq_nil_of_le (by omega), List.drop_eq_nil_of_le (by omega)]

/-- The items of one page of a list; the first page has number one. -/
def pageItems {α : Type} (xs : List α) (limit page : Int) : List α :=
  (xs.take (page * limit).toNat).drop ((page - 1) * limit).toNat

/-- A page ends as many items behind its start as it has room for. -/
theorem page_mul (page limit : Int) : page * limit = (page - 1) * limit + limit := by
  rw [Int.sub_mul, Int.one_mul, Int.sub_add_cancel]

namespace Selection

theorem slice_unsliced {α : Type} (p : Plan) (xs : List α) :
    p.unsliced.toSelection.slice xs = xs := sliceOf_everything xs

/-- The slice of a page. -/
theorem slice_paged {α : Type} (p : Plan) {page limit : Int} (hpage : 1 ≤ page) (hlimit : 0 < limit)
    (xs : List α) :
    (p.paged page limit).toSelection.slice xs = pageItems xs limit page := by
  have hstart : 0 ≤ (page - 1) * limit := Int.mul_nonneg (by omega) (by omega)
  have hpos : 0 ≤ page * limit := Int.mul_nonneg (by omega) (by omega)
  have hslice : (p.paged page limit).toSelection.slice xs =
      sliceOf ((page - 1) * limit) (some ((page - 1) * limit + limit)) xs := rfl
  rw [hslice, ← page_mul, sliceOf_of_nonneg hstart hpos, pageItems]

end Selection

namespace Memory

variable {α : Type} {r : Registry Operation} {view : α → Value}

/-- The items that a condition is true of are found when it evaluates on all items. -/
theorem matching_eq_ok {c : Condition} {items found : List α} :
    matching r view c items = .ok found ↔
      (∀ x ∈ items, c.Evaluates r (view x)) ∧
        found = items.filter fun x => decide (c.IsTrue r (view x)) := by
  induction items generalizing found with
  | nil => simp [matching, eq_comm]
  | cons x xs ih =>
    rw [matching, Outcome.bind_eq_ok, List.forall_mem_cons, List.filter_cons]
    constructor
    · -- every item is looked at, so one on which the condition fails is enough to fail
      rintro ⟨b, hb, h⟩
      obtain ⟨t, ht, hbt⟩ := Outcome.bind_eq_ok.1 hb
      obtain ⟨rest, hrest, hfound⟩ := Outcome.bind_eq_ok.1 h
      obtain ⟨hev, rfl⟩ := ih.1 hrest
      cases hbt
      cases hfound
      refine ⟨⟨⟨t, ht⟩, hev⟩, ?_⟩
      cases t <;> simp [Condition.IsTrue, Truth.holds, ht]
    · rintro ⟨⟨⟨t, ht⟩, hev⟩, rfl⟩
      refine ⟨t.holds, by rw [Condition.holds, ht]; rfl, ?_⟩
      rw [ih.2 ⟨hev, rfl⟩]
      cases t <;> simp [Condition.IsTrue, Truth.holds, ht]

/-- Conditions that evaluate and are true alike find the same items. -/
theorem matching_congr {c c' : Condition} {items found : List α}
    (hevaluates : ∀ x, c'.Evaluates r (view x) ↔ c.Evaluates r (view x))
    (htrue : ∀ x, c'.IsTrue r (view x) ↔ c.IsTrue r (view x)) :
    matching r view c' items = .ok found ↔ matching r view c items = .ok found := by
  have hsame : (items.filter fun x => decide (c'.IsTrue r (view x))) =
      items.filter fun x => decide (c.IsTrue r (view x)) := by
    apply List.filter_congr
    intro x _
    exact decide_eq_decide.2 (htrue x)
  rw [matching_eq_ok, matching_eq_ok, hsame]
  simp only [hevaluates]

/-- What a fetch that succeeds gives: the slice of the sorted items that its condition is true of,
and their number. -/
theorem fetch_eq_ok {items page : List α} {total : Int} {s : Selection} :
    fetch r view items s = .ok (page, total) ↔
      (∀ x ∈ items, s.condition.Evaluates r (view x)) ∧
        ∃ sorted, sortByKeys view s.orderBy
            (items.filter fun x => decide (s.condition.IsTrue r (view x))) = .ok sorted ∧
          page = s.slice sorted ∧ total = sorted.length := by
  rw [fetch, Outcome.bind_eq_ok]
  constructor
  · rintro ⟨found, hfound, h⟩
    obtain ⟨sorted, hsorted, hpage⟩ := Outcome.bind_eq_ok.1 h
    obtain ⟨hev, rfl⟩ := matching_eq_ok.1 hfound
    cases hpage
    exact ⟨hev, sorted, hsorted, rfl, rfl⟩
  · rintro ⟨hev, sorted, hsorted, rfl, rfl⟩
    exact ⟨_, matching_eq_ok.2 ⟨hev, rfl⟩, by rw [hsorted]; rfl⟩

/-- Selections that find the same items, in the same order and slice, fetch the same. -/
theorem fetch_congr {s s' : Selection} {items : List α} {fetched : List α × Int}
    (horder : s'.orderBy = s.orderBy) (hlimit : s'.limit = s.limit) (hoffset : s'.offset = s.offset)
    (hmatching : ∀ found, matching r view s'.condition items = .ok found ↔
      matching r view s.condition items = .ok found) :
    fetch r view items s' = .ok fetched ↔ fetch r view items s = .ok fetched := by
  have hslice : ∀ sorted : List α, s'.slice sorted = s.slice sorted := by
    intro sorted
    rw [Selection.slice, Selection.slice, hlimit, hoffset]
  unfold fetch
  simp only [Outcome.bind_eq_ok, hmatching, horder, hslice]

/-- A plan without its slice fetches everything that its pages are taken from. -/
theorem fetch_paged {items all : List α} {total : Int} {p : Plan}
    (h : fetch r view items p.unsliced.toSelection = .ok (all, total)) :
    total = all.length ∧ ∀ {page limit : Int}, 1 ≤ page → 0 < limit →
      fetch r view items (p.paged page limit).toSelection =
        .ok (pageItems all limit page, total) := by
  obtain ⟨hev, sorted, hsorted, hall, htotal⟩ := fetch_eq_ok.1 h
  rw [Selection.slice_unsliced] at hall
  subst hall
  refine ⟨htotal, fun hpage hlimit => ?_⟩
  exact fetch_eq_ok.2 ⟨hev, all, hsorted, (Selection.slice_paged p hpage hlimit all).symm, htotal⟩

end Memory

end Listing
