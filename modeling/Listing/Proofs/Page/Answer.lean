import Listing.Page.Basic
import Listing.Proofs.Page.Links

/-!
# What a request is answered with

`paginate_eq` says all that answering a request does: its sort keys are resolved, the executor is
asked for one plan, and the answer is put together from what it gives.  The answer can only fail
then for numbers in its links that have too many digits.
-/

namespace Listing

/-! ## Page numbers and page sizes -/

theorem resolvePage_some (n : Int) : resolvePage (some n) = max n 1 := rfl

theorem one_le_resolvePage (requested : Option Int) : 1 ≤ resolvePage requested :=
  Int.le_max_right _ 1

/-- There is room for an item on every page, also if a request asks for none. -/
theorem Config.resolveLimit_pos (c : Config) (requested : Option Int) :
    0 < c.resolveLimit requested := by
  have hmax := c.maxLimit_pos
  have hdefault := c.defaultLimit_pos
  unfold resolveLimit
  cases requested with
  | none => simp only; omega
  | some n =>
    simp only
    split <;> omega

/-- A page size that was resolved stays as it is. -/
theorem Config.resolveLimit_resolveLimit (c : Config) (requested : Option Int) :
    c.resolveLimit (some (c.resolveLimit requested)) = c.resolveLimit requested := by
  have hpos := c.resolveLimit_pos requested
  have hle : c.resolveLimit requested ≤ c.maxLimit := Int.min_le_right _ _
  generalize c.resolveLimit requested = limit at hpos hle
  simp only [resolveLimit, hpos, if_true]
  exact Int.min_eq_left hle

/-- The number of pages that some items take up. -/
def pageCount (total limit : Int) : Int := -((-total).fdiv limit)

theorem totalPages_eq {limit : Int} (h : 0 < limit) (total : Int) :
    totalPages total limit = .ok (pageCount total limit) := by
  have hne : limit ≠ 0 := by omega
  rw [totalPages, if_neg hne]
  rfl

namespace Request

variable {α : Type}

/-- The parameters that the links of a page carry, written out. -/
def linkParameters (r : Request) (limit : Int) (sortBy : List SortKey) (searchBy : List String) :
    List (String × String) :=
  Links.parameters limit sortBy r.search (r.searchBy.map fun _ => searchBy)
    ((r.filter.map Table.entries).getD [])

/-- The page that answers a request whose parts are resolved, with its links written out. -/
def answer (r : Request) (page limit : Int) (sortBy : List SortKey) (searchBy : List String)
    (items : List α) (total : Int) : Page α :=
  r.pageWith page limit sortBy searchBy items total (pageCount total limit)
    (Links.linked r.path page (pageCount total limit)
      (Links.suffix (r.linkParameters limit sortBy searchBy)))

/-- The links can be written just when the numbers in them can. -/
theorem linksWith_eq {page : Int} (hpage : 1 ≤ page) (r : Request) (limit : Int)
    (sortBy : List SortKey) (searchBy : List String) (pages : Int) :
    r.linksWith page limit sortBy searchBy pages =
      if Links.Writable limit ∧ Links.Writable page ∧ Links.Writable pages then
        .ok (Links.linked r.path page pages
          (Links.suffix (r.linkParameters limit sortBy searchBy)))
      else .error .tooManyDigits := by
  rw [linksWith, linkPairs, Links.pairs_eq]
  -- the page size is written first, so its digits are the first to be too many
  by_cases hlimit : Links.Writable limit
  · rw [if_pos hlimit, Outcome.ok_bind, Links.around_eq hpage]
    simp [hlimit, linkParameters]
  · simp [hlimit]

/-- What answering a request does, once its sort keys are resolved. -/
theorem paginate_eq {r : Request} {c : Config} {sortBy : List SortKey}
    (hsort : c.resolveSort r.sortBy = .ok sortBy) (executor : Executor α) :
    r.paginate executor c =
      executor (r.planWith c (resolvePage r.page) (c.resolveLimit r.limit) sortBy
          (c.resolveSearch r.searchBy)) >>= fun fetched =>
        if Links.Writable (c.resolveLimit r.limit) ∧ Links.Writable (resolvePage r.page) ∧
            Links.Writable (pageCount fetched.2 (c.resolveLimit r.limit)) then
          .ok (r.answer (resolvePage r.page) (c.resolveLimit r.limit) sortBy
            (c.resolveSearch r.searchBy) fetched.1 fetched.2)
        else .error .tooManyDigits := by
  rw [paginate, hsort, Outcome.ok_bind]
  -- both sides ask the executor first and differ only in what they do with its answer
  apply bind_congr
  rintro ⟨items, total⟩
  show (totalPages total (c.resolveLimit r.limit) >>= fun pages => _) = _
  rw [totalPages_eq (c.resolveLimit_pos r.limit), Outcome.ok_bind,
    linksWith_eq (one_le_resolvePage r.page)]
  split <;> rfl

/-- The same by what the executor gives: an answer if all numbers can be written, a fault if not. -/
theorem paginate_of_fetched {r : Request} {c : Config} {sortBy : List SortKey}
    {items : List α} {total : Int} (executor : Executor α)
    (hsort : c.resolveSort r.sortBy = .ok sortBy)
    (hfetch : executor (r.planWith c (resolvePage r.page) (c.resolveLimit r.limit) sortBy
      (c.resolveSearch r.searchBy)) = .ok (items, total)) :
    (Links.Writable (c.resolveLimit r.limit) ∧ Links.Writable (resolvePage r.page) ∧
        Links.Writable (pageCount total (c.resolveLimit r.limit)) →
      r.paginate executor c = .ok (r.answer (resolvePage r.page) (c.resolveLimit r.limit) sortBy
        (c.resolveSearch r.searchBy) items total)) ∧
    (¬(Links.Writable (c.resolveLimit r.limit) ∧ Links.Writable (resolvePage r.page) ∧
        Links.Writable (pageCount total (c.resolveLimit r.limit))) →
      r.paginate executor c = .error .tooManyDigits) := by
  rw [paginate_eq hsort, hfetch, Outcome.ok_bind]
  exact ⟨fun hw => if_pos hw, fun hw => if_neg hw⟩

/-- An answer that is there was put together from what the executor gave for the plan. -/
theorem eq_answer_of_paginate {r : Request} {c : Config} {executor : Executor α} {p : Page α}
    (h : r.paginate executor c = .ok p) :
    ∃ keys items total, c.resolveSort r.sortBy = .ok keys ∧
      executor (r.planWith c (resolvePage r.page) (c.resolveLimit r.limit) keys
        (c.resolveSearch r.searchBy)) = .ok (items, total) ∧
      (Links.Writable (c.resolveLimit r.limit) ∧ Links.Writable (resolvePage r.page) ∧
        Links.Writable (pageCount total (c.resolveLimit r.limit))) ∧
      p = r.answer (resolvePage r.page) (c.resolveLimit r.limit) keys
        (c.resolveSearch r.searchBy) items total := by
  obtain ⟨keys, hkeys, -⟩ := Outcome.bind_eq_ok.1 h
  rw [paginate_eq hkeys] at h
  obtain ⟨⟨items, total⟩, hfetch, hanswer⟩ := Outcome.bind_eq_ok.1 h
  split at hanswer
  · next hw =>
    cases hanswer
    exact ⟨keys, items, total, hkeys, hfetch, hw, rfl⟩
  · cases hanswer

/-- A request without an order that is allowed has no plan and no answer. -/
theorem plan_eq_ok {r : Request} {c : Config} {q : Plan} :
    r.plan c = .ok q ↔ ∃ sortBy, c.resolveSort r.sortBy = .ok sortBy ∧
      q = r.planWith c (resolvePage r.page) (c.resolveLimit r.limit) sortBy
        (c.resolveSearch r.searchBy) := by
  rw [plan, Outcome.bind_eq_ok]
  constructor
  · rintro ⟨sortBy, hsort, hq⟩
    cases hq
    exact ⟨sortBy, hsort, rfl⟩
  · rintro ⟨sortBy, hsort, rfl⟩
    exact ⟨sortBy, hsort, rfl⟩

end Request

end Listing
