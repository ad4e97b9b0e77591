import Listing.Proofs.Memory.Fetching
import Listing.Proofs.Page.Answer

/-!
# Pages part a result

The pages of a result, one after the other, are the result: every page before the last one is full,
the last one has at least one item, and there is nothing behind it.  `paginate_parts` says that these
are the pages that requests for them are answered with, and that their counts and links fit.
-/

namespace Listing

/-! ## How many pages there are -/

/-- The pages have room for all items, and would not without the last one. -/
theorem pageCount_bounds {limit : Int} (h : 0 < limit) (total : Int) :
    total ≤ pageCount total limit * limit ∧ (pageCount total limit - 1) * limit < total := by
  have hdiv := Int.mul_ediv_add_emod (-total) limit
  have hlow := Int.emod_nonneg (-total) (Int.ne_of_gt h)
  have hhigh := Int.emod_lt_of_pos (-total) h
  have hcount : pageCount total limit = -(-total / limit) := by
    rw [pageCount, Int.fdiv_eq_ediv_of_nonneg _ (Int.le_of_lt h)]
  -- rounding up is rounding the negative down
  rw [Int.mul_comm] at hdiv
  rw [hcount, Int.sub_mul, Int.neg_mul]
  omega

/-- Pages that have room for all items are at least as many as there are. -/
theorem pageCount_le_iff {limit : Int} (h : 0 < limit) (total pages : Int) :
    pageCount total limit ≤ pages ↔ total ≤ pages * limit := by
  obtain ⟨hroom, hneeded⟩ := pageCount_bounds h total
  constructor
  · intro hle
    have hmul : pageCount total limit * limit ≤ pages * limit :=
      Int.mul_le_mul_of_nonneg_right hle (Int.le_of_lt h)
    omega
  · intro hle
    -- one page less than there are would have no room for all items
    have hmul : (pageCount total limit - 1) * limit < pages * limit := by omega
    have hlt := Int.lt_of_mul_lt_mul_right hmul (Int.le_of_lt h)
    omega

/-- No result has fewer than no pages. -/
theorem pageCount_nonneg {limit total : Int} (h : 0 < limit) (ht : 0 ≤ total) :
    0 ≤ pageCount total limit := by
  obtain ⟨hroom, -⟩ := pageCount_bounds h total
  exact Int.nonneg_of_mul_nonneg_left (Int.le_trans ht hroom) h

/-! ## The items of pages -/

section Items

variable {α : Type}

/-- The items of a page by how many items stand before it. -/
theorem pageItems_succ (xs : List α) (limit page : Nat) :
    pageItems xs limit (page + 1) = (xs.take ((page + 1) * limit)).drop (page * limit) := by
  -- the slices are computed with integers and taken with natural numbers
  have hstop : (((page : Int) + 1) * limit).toNat = (page + 1) * limit := by
    rw [show ((page : Int) + 1) * limit = (((page + 1) * limit : Nat) : Int) by push_cast; rfl]
    exact Int.toNat_natCast _
  have hstart : (((page : Int) + 1 - 1) * limit).toNat = page * limit := by
    rw [show ((page : Int) + 1 - 1) * limit = ((page * limit : Nat) : Int) by
      rw [Int.add_sub_cancel]; push_cast; rfl]
    exact Int.toNat_natCast _
  rw [pageItems, hstop, hstart]

/-- The first pages, one after the other, are as much of the list. -/
theorem flatMap_pageItems (xs : List α) (limit pages : Nat) :
    (List.range pages).flatMap (fun page : Nat => pageItems xs limit (page + 1)) =
      xs.take (pages * limit) := by
  induction pages with
  | zero => simp
  | succ pages ih =>
    have hle : pages * limit ≤ (pages + 1) * limit :=
      Nat.mul_le_mul_right limit (Nat.le_succ pages)
    have htake : (xs.take ((pages + 1) * limit)).take (pages * limit) =
        xs.take (pages * limit) := by
      rw [List.take_take, Nat.min_eq_left hle]
    rw [List.range_succ, List.flatMap_append, ih, List.flatMap_singleton, pageItems_succ, ← htake]
    exact List.take_append_drop _ _

/-- A page has as many items as fit between its start and the end of the list. -/
theorem length_pageItems (xs : List α) {limit page : Int} (hlimit : 0 < limit)
    (hpage : 1 ≤ page) :
    ((pageItems xs limit page).length : Int) =
      max 0 (min (page * limit) xs.length - (page - 1) * limit) := by
  have hstop : 0 ≤ page * limit := Int.mul_nonneg (by omega) (by omega)
  have hstart : 0 ≤ (page - 1) * limit := Int.mul_nonneg (by omega) (by omega)
  rw [pageItems, List.length_drop, List.length_take]
  omega

/-- A page has no items just when it is behind the last one. -/
theorem pageItems_eq_nil (xs : List α) {limit page : Int} (hlimit : 0 < limit)
    (hpage : 1 ≤ page) :
    pageItems xs limit page = [] ↔ pageCount xs.length limit < page := by
  have hlen := length_pageItems xs hlimit hpage
  have hcount := pageCount_le_iff hlimit xs.length (page - 1)
  have hstop := page_mul page limit
  -- an empty page starts at the end of the list or behind it
  rw [← List.length_eq_zero_iff]
  omega

/-- A page before the last one is full. -/
theorem length_pageItems_of_lt (xs : List α) {limit page : Int} (hlimit : 0 < limit)
    (hpage : 1 ≤ page) (hlt : page < pageCount xs.length limit) :
    ((pageItems xs limit page).length : Int) = limit := by
  have hlen := length_pageItems xs hlimit hpage
  have hcount := pageCount_le_iff hlimit xs.length page
  have hstop := page_mul page limit
  omega

/-- The last page has at least one item and at most as many as a full one. -/
theorem length_pageItems_last (xs : List α) {limit : Int} (hlimit : 0 < limit)
    (hsome : 1 ≤ pageCount xs.length limit) :
    1 ≤ (pageItems xs limit (pageCount xs.length limit)).length ∧
      ((pageItems xs limit (pageCount xs.length limit)).length : Int) ≤ limit := by
  have hlen := length_pageItems xs hlimit hsome
  obtain ⟨hroom, hneeded⟩ := pageCount_bounds hlimit xs.length
  have hstop := page_mul (pageCount xs.length limit) limit
  omega

/-- All pages, one after the other, are the list. -/
theorem flatMap_pages (xs : List α) {limit : Int} (hlimit : 0 < limit) :
    (List.range (pageCount xs.length limit).toNat).flatMap
      (fun page : Nat => pageItems xs limit (page + 1)) = xs := by
  have hpages := pageCount_nonneg hlimit (Int.natCast_nonneg xs.length)
  obtain ⟨hroom, -⟩ := pageCount_bounds hlimit xs.length
  obtain ⟨size, rfl⟩ := Int.eq_ofNat_of_zero_le (Int.le_of_lt hlimit)
  obtain ⟨pages, hp⟩ := Int.eq_ofNat_of_zero_le hpages
  rw [hp] at hroom ⊢
  rw [Int.toNat_natCast, flatMap_pageItems]
  apply List.take_of_length_le
  exact_mod_cast hroom

end Items

/-! ## The pages that are answered with -/

/-- A page is the one of a number among all items: its items, its counts, and the links that lead
somewhere. -/
structure IsPageOf {α : Type} (all : List α) (limit page : Int) (p : Page α) : Prop where
  items : p.items = pageItems all limit page
  totalItems : p.info.totalItems = all.length
  totalPages : p.info.totalPages = pageCount all.length limit
  currentPage : p.info.currentPage = page
  itemsPerPage : p.info.itemsPerPage = limit
  next : p.links.next.isSome ↔ pageItems all limit (page + 1) ≠ []
  previous : p.links.previous.isSome ↔ 1 < page
  first : p.links.first.isSome ↔ 1 < page
  last : p.links.last = none ↔ page = pageCount all.length limit

namespace Request

variable {α : Type} {reg : Registry Memory.Operation} {view : α → Value} {items all : List α}
  {total : Int} {c : Config} {r : Request} {q : Plan}

/-- The links of an answer are there just when they lead to a page. -/
theorem isPageOf_answer (r : Request) {page limit : Int} (hpage : 1 ≤ page) (hlimit : 0 < limit)
    (sortBy : List SortKey) (searchBy : List String) (all : List α) :
    IsPageOf all limit page
      (r.answer page limit sortBy searchBy (pageItems all limit page) all.length) where
  items := rfl
  totalItems := rfl
  totalPages := rfl
  currentPage := rfl
  itemsPerPage := rfl
  next := by
    have hnil := pageItems_eq_nil all hlimit (show 1 ≤ page + 1 by omega)
    rw [Ne, hnil]
    simp [answer, pageWith, Links.linked]
  previous := by
    simp only [answer, pageWith, Links.linked]
    split
    · simp; omega
    · simp; omega
  first := by
    simp only [answer, pageWith, Links.linked, bne_iff_ne]
    split
    · simp; omega
    · simp; omega
  last := by simp [answer, pageWith, Links.linked]

/-- A page of a request is answered with the items of that page, unless a number in its links has
too many digits. -/
theorem paginate_page (hplan : r.plan c = .ok q)
    (hfetch : Memory.fetch reg view items q.unsliced.toSelection = .ok (all, total)) (n : Int) :
    (Links.Writable (c.resolveLimit r.limit) ∧ Links.Writable (max n 1) ∧
        Links.Writable (pageCount total (c.resolveLimit r.limit)) →
      ∃ p, ({ r with page := some n }).paginate
          (fun p => Memory.fetch reg view items p.toSelection) c = .ok p ∧
        IsPageOf all (c.resolveLimit r.limit) (max n 1) p) ∧
    (¬(Links.Writable (c.resolveLimit r.limit) ∧ Links.Writable (max n 1) ∧
        Links.Writable (pageCount total (c.resolveLimit r.limit))) →
      ({ r with page := some n }).paginate
        (fun p => Memory.fetch reg view items p.toSelection) c = .error .tooManyDigits) := by
  obtain ⟨sortBy, hsort, rfl⟩ := plan_eq_ok.1 hplan
  obtain ⟨rfl, hpages⟩ := Memory.fetch_paged hfetch
  have hlimit := c.resolveLimit_pos r.limit
  -- the executor slices the list that it gives unsliced
  have hpage : Memory.fetch reg view items
      (({ r with page := some n }).planWith c (resolvePage (some n)) (c.resolveLimit r.limit)
        sortBy (c.resolveSearch r.searchBy)).toSelection =
      .ok (pageItems all (c.resolveLimit r.limit) (resolvePage (some n)), (all.length : Int)) :=
    hpages (one_le_resolvePage (some n)) hlimit
  have hsort' : c.resolveSort ({ r with page := some n }).sortBy = .ok sortBy := hsort
  obtain ⟨hok, herror⟩ :=
    paginate_of_fetched (fun p => Memory.fetch reg view items p.toSelection) hsort' hpage
  rw [← resolvePage_some]
  refine ⟨fun hw => ⟨_, hok hw, ?_⟩, herror⟩
  exact isPageOf_answer _ (one_le_resolvePage (some n)) hlimit sortBy _ all

/-- Pages part the result.  Whatever number is asked for, the answer is the page of that number, or
the first page for numbers below one.  Pages one to the last, one after the other, are all items;
each page before the last one is full, and there is nothing behind it.  Only numbers with more
digits than are written make an answer fail, and they always do. -/
theorem paginate_parts (hplan : r.plan c = .ok q)
    (hfetch : Memory.fetch reg view items q.unsliced.toSelection = .ok (all, total)) :
    let limit := c.resolveLimit r.limit
    let pages := pageCount total limit
    let ask (n : Int) : Outcome (Page α) :=
      ({ r with page := some n }).paginate (fun p => Memory.fetch reg view items p.toSelection) c
    total = all.length ∧ totalPages total limit = .ok pages ∧
    (∀ n, Links.Writable limit ∧ Links.Writable (max n 1) ∧ Links.Writable pages →
      ∃ p, ask n = .ok p ∧ IsPageOf all limit (max n 1) p) ∧
    (∀ n, ¬(Links.Writable limit ∧ Links.Writable (max n 1) ∧ Links.Writable pages) →
      ask n = .error .tooManyDigits) ∧
    (Links.Writable limit ∧ Links.Writable pages →
      ∃ answers, (List.range pages.toNat).mapM (fun page : Nat => ask (page + 1)) = .ok answers ∧
        answers.flatMap Page.items = all) ∧
    (∀ n, 1 ≤ n → n < pages → ((pageItems all limit n).length : Int) = limit) ∧
    (1 ≤ pages → 1 ≤ (pageItems all limit pages).length ∧
      ((pageItems all limit pages).length : Int) ≤ limit) ∧
    ∀ n, 1 ≤ n → pages < n → pageItems all limit n = [] := by
  intro limit pages ask
  have hlimit : 0 < limit := c.resolveLimit_pos r.limit
  obtain ⟨rfl, -⟩ := Memory.fetch_paged hfetch
  have hask : ∀ n, Links.Writable limit ∧ Links.Writable (max n 1) ∧ Links.Writable pages →
      ∃ p, ask n = .ok p ∧ IsPageOf all limit (max n 1) p := fun n =>
    (paginate_page hplan hfetch n).1
  refine ⟨rfl, totalPages_eq hlimit _, hask, ?_, ?_, ?_, ?_, ?_⟩
  · -- numbers that cannot be written
    intro n hw
    exact (paginate_page hplan hfetch n).2 hw
  · rintro ⟨hwl, hwp⟩
    -- every page up to the last one has a number with no more digits
    have hanswer : ∀ page ∈ List.range pages.toNat, ∃ p, ask ((page : Nat) + 1) = .ok p ∧
        p.items = pageItems all limit (page + 1) := by
      intro page hpage
      have hlt := List.mem_range.1 hpage
      have hmax : max ((page : Int) + 1) 1 = page + 1 := by omega
      have hw : Links.Writable (max ((page : Int) + 1) 1) := hwp.of_le (by omega)
      obtain ⟨p, hp, hof⟩ := hask (page + 1) ⟨hwl, hw, hwp⟩
      rw [hmax] at hof
      exact ⟨p, hp, hof.items⟩
    obtain ⟨answers, hanswers, hitems⟩ := Outcome.exists_mapM_eq_ok hanswer
    refine ⟨answers, hanswers, ?_⟩
    rw [List.flatMap_def, hitems, ← List.flatMap_def]
    exact flatMap_pages all hlimit
  · -- before the last page
    intro n hn hlt
    exact length_pageItems_of_lt all hlimit hn hlt
  · -- the last page
    intro hsome
    exact length_pageItems_last all hlimit hsome
  · -- behind the last page
    intro n hn hlt
    exact (pageItems_eq_nil all hlimit hn).2 hlt

def numbered (n : Nat) : Value := .record [("id", .int n)]

def numberedConfig : Config where
  sortable := ["id"]
  searchable := none
  maxLimit := 100
  defaultSort := none
  defaultLimit := 2
  criteria := none
  filterable := .empty
  maxLimit_pos := by decide
  defaultLimit_pos := by decide

def numberedPlan : Plan := ⟨[], [⟨"id", "DESC"⟩], some 2, some 0⟩

theorem fetch_numbered :
    Memory.fetch Memory.registry numbered [1, 2, 3] numberedPlan.unsliced.toSelection =
      .ok ([3, 2, 1], 3) := by
  have hfound : [1, 2, 3].filter (fun x => decide
      (numberedPlan.unsliced.toSelection.condition.IsTrue Memory.registry (numbered x))) =
      [1, 2, 3] := by decide +kernel
  refine Memory.fetch_eq_ok.2 ⟨by decide +kernel, [3, 2, 1], ?_, rfl, rfl⟩
  rw [hfound]
  rfl

/-- The second of two pages of three items has the last one. -/
theorem paginate_parts_numbered :
    let r : Request := ⟨"/numbers", none, none, some [⟨"id", "DESC"⟩], none, none, none⟩
    r.plan numberedConfig = .ok numberedPlan ∧
      Memory.fetch Memory.registry numbered [1, 2, 3] numberedPlan.unsliced.toSelection =
        .ok ([3, 2, 1], 3) ∧
      ∃ p, ({ r with page := some 2 }).paginate
          (fun p => Memory.fetch Memory.registry numbered [1, 2, 3] p.toSelection)
          numberedConfig = .ok p ∧
        IsPageOf [3, 2, 1] 2 2 p := by
  intro r
  have hplan : r.plan numberedConfig = .ok numberedPlan := rfl
  have htwo : Links.Writable 2 := Links.Writable.of_lt_ten (by decide)
  exact ⟨hplan, fetch_numbered, (paginate_parts hplan fetch_numbered).2.2.1 2 ⟨htwo, htwo, htwo⟩⟩

/-- A page behind the last one has no answer if its number has one digit too many. -/
theorem paginate_far_page :
    let r : Request := ⟨"/numbers", none, none, some [⟨"id", "DESC"⟩], none, none, none⟩
    r.plan numberedConfig = .ok numberedPlan ∧
      Memory.fetch Memory.registry numbered [1, 2, 3] numberedPlan.unsliced.toSelection =
        .ok ([3, 2, 1], 3) ∧
      ({ r with page := some (Nat.pow 10 Numeral.maxDigits) }).paginate
          (fun p => Memory.fetch Memory.registry numbered [1, 2, 3] p.toSelection)
          numberedConfig = .error .tooManyDigits := by
  intro r
  have hplan : r.plan numberedConfig = .ok numberedPlan := rfl
  refine ⟨hplan, fetch_numbered, (paginate_page hplan fetch_numbered _).2 ?_⟩
  rintro ⟨-, hw, -⟩
  have hlt := hw.lt_bound
  omega

end Request

end Listing
