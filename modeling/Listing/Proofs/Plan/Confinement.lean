import Listing.Plan.Resolve
import Listing.Proofs.Memory.Fetching
import Listing.Proofs.Predicate.Truth

/-!
# What a request can reach

A plan has up to three groups of criteria: the base criteria of the listing, the search and the
filters.  An item is admitted if each of the three holds of it by itself (`Request.Admits`), and the
criteria of the plan are true of just the items that are admitted (`isTrue_criteria`).  So whatever
a request searches or filters for, it reaches only items that meet the base criteria, and narrowing
a request never adds an item (`fetch_planned`).
-/

namespace Listing

namespace Request

variable {reg : Registry Memory.Operation} {item : Value}

/-- The search of a request in some columns holds of an item: there is no term, or no column, or one
of the columns contains the term. -/
def Finds (r : Request) (columns : List String) (reg : Registry Memory.Operation) (item : Value) :
    Prop :=
  r.search.getD "" = "" ∨ columns = [] ∨
    ∃ column ∈ columns,
      (Predicate.test column .contains (.text (r.search.getD ""))).IsTrue reg item

/-- What a request asks for holds of an item, and so does what the listing asks for itself: the base
criteria, the search in the resolved columns, and the predicate of each filtered column. -/
structure Admits (r : Request) (c : Config) (columns : List String)
    (reg : Registry Memory.Operation) (item : Value) : Prop where
  base : ∀ p ∈ c.criteria, p.IsTrue reg item
  search : r.Finds columns reg item
  filter : ∀ f ∈ r.filter, ∀ e ∈ Filter.compile c.filterable f, e.2.IsTrue reg item

instance (r : Request) (columns : List String) (reg : Registry Memory.Operation) (item : Value) :
    Decidable (r.Finds columns reg item) :=
  inferInstanceAs (Decidable (_ ∨ _ ∨ _))

instance (r : Request) (c : Config) (columns : List String) (reg : Registry Memory.Operation)
    (item : Value) : Decidable (r.Admits c columns reg item) :=
  decidable_of_iff
    ((∀ p ∈ c.criteria.toList, p.IsTrue reg item) ∧ r.Finds columns reg item ∧
      ∀ f ∈ r.filter.toList, ∀ e ∈ Filter.compile c.filterable f, e.2.IsTrue reg item)
    ⟨fun h => ⟨by simpa using h.1, h.2.1, by simpa using h.2.2⟩,
      fun h => ⟨by simpa using h.base, h.search, by simpa using h.filter⟩⟩

/-- A request that asks for everything that another one asks for: its search, if that has a term,
and each column of its filter with the same statements. -/
structure Narrows (r' r : Request) : Prop where
  search : r.search.getD "" = "" ∨ r'.search = r.search
  filter : ∀ f ∈ r.filter, ∃ f' ∈ r'.filter, ∀ e ∈ f.entries, e ∈ f'.entries

/-- Whatever a narrower request admits is admitted already. -/
theorem Admits.of_narrows {r r' : Request} {c : Config} {columns : List String}
    (hn : r'.Narrows r) (h : r'.Admits c columns reg item) : r.Admits c columns reg item := by
  constructor
  · exact h.base
  · rcases hn.search with hs | hs
    · exact Or.inl hs
    · have hfinds := h.search
      rw [Finds, hs] at hfinds
      exact hfinds
  · intro f hf e he
    -- the column has the same statements there, and so the same predicate
    obtain ⟨f', hf', hsub⟩ := hn.filter f hf
    obtain ⟨entry, hentry, hpred⟩ := List.mem_filterMap.1 he
    exact h.filter f' hf' e (List.mem_filterMap.2 ⟨entry, hsub entry hentry, hpred⟩)

/-! ## Each source by itself -/

theorem isTrue_baseGroup {c : Config} :
    (∀ p ∈ baseGroup c, p.IsTrue reg item) ↔ ∀ p ∈ c.criteria, p.IsTrue reg item := by
  cases hc : c.criteria with
  | none => simp [baseGroup, hc]
  | some p => simp [baseGroup, hc, Predicate.isTrue_all]

/-- The group of a search that evaluates holds just when it finds something. -/
theorem isTrue_searchGroup {r : Request} {columns : List String}
    (he : ∀ p ∈ r.searchGroup columns, p.Evaluates reg item) :
    (∀ p ∈ r.searchGroup columns, p.IsTrue reg item) ↔ r.Finds columns reg item := by
  unfold searchGroup at he ⊢
  cases hs : r.search with
  | none => simp [Finds, hs]
  | some term =>
    rw [hs] at he
    by_cases hempty : (term.isEmpty || columns.isEmpty) = true
    · -- there is no group then
      have hno : term = "" ∨ columns = [] := by simpa using hempty
      have hfinds : r.Finds columns reg item := by
        rcases hno with h | h
        · exact Or.inl (by simp [hs, h])
        · exact Or.inr (Or.inl h)
      simp [hempty, hfinds]
    · have hterm : term ≠ "" ∧ columns ≠ [] := by simpa using hempty
      have hgroup : (searchPredicate term columns).Evaluates reg item :=
        he _ (by simp [hempty])
      simp only [hempty, Bool.false_eq_true, if_false, List.forall_mem_singleton]
      rw [searchPredicate, Predicate.isTrue_any hgroup]
      constructor
      · rintro ⟨p, hp, hpt⟩
        obtain ⟨column, hcolumn, rfl⟩ := List.mem_map.1 hp
        exact Or.inr (Or.inr ⟨column, hcolumn, by simpa [hs] using hpt⟩)
      · rintro (h | h | ⟨column, hcolumn, h⟩)
        · exact absurd (by simpa [hs] using h) hterm.1
        · exact absurd h hterm.2
        · exact ⟨_, List.mem_map_of_mem hcolumn, by simpa [hs] using h⟩

theorem isTrue_filterGroup {r : Request} {c : Config} :
    (∀ p ∈ r.filterGroup c, p.IsTrue reg item) ↔
      ∀ f ∈ r.filter, ∀ e ∈ Filter.compile c.filterable f, e.2.IsTrue reg item := by
  cases hf : r.filter with
  | none => simp [filterGroup, hf]
  | some f =>
    simp only [filterGroup, hf, Option.map_some, Option.toList_some, List.forall_mem_singleton,
      Predicate.isTrue_all, List.forall_mem_map]
    simp

/-- The criteria of a plan are true of just the items that the request admits. -/
theorem isTrue_criteria {r : Request} {c : Config} {page limit : Int} {sortBy : List SortKey}
    {columns : List String}
    (he : (r.planWith c page limit sortBy columns).criteria.Evaluates reg item) :
    (r.planWith c page limit sortBy columns).criteria.IsTrue reg item ↔
      r.Admits c columns reg item := by
  have hgroups : (r.planWith c page limit sortBy columns).criteria =
      .all (baseGroup c ++ r.searchGroup columns ++ r.filterGroup c) := rfl
  rw [hgroups, Predicate.evaluates_all] at he
  -- only the search needs to be known to evaluate, as one of its columns is enough
  have hs : ∀ p ∈ r.searchGroup columns, p.Evaluates reg item := fun p hp => he p (by simp [hp])
  rw [hgroups, Predicate.isTrue_all, List.forall_mem_append, List.forall_mem_append,
    isTrue_baseGroup, isTrue_searchGroup hs, isTrue_filterGroup]
  constructor
  · rintro ⟨⟨hbase, hsearch⟩, hfilter⟩
    exact ⟨hbase, hsearch, hfilter⟩
  · rintro ⟨hbase, hsearch, hfilter⟩
    exact ⟨⟨hbase, hsearch⟩, hfilter⟩

/-! ## What is fetched -/

variable {α : Type} {view : α → Value} {items : List α} {c : Config} {r r' : Request}
  {page limit : Int} {sortBy : List SortKey} {columns : List String}

/-- The items that a request admits. -/
def admitted (r : Request) (c : Config) (columns : List String) (reg : Registry Memory.Operation)
    (view : α → Value) (items : List α) : List α :=
  items.filter fun x => decide (r.Admits c columns reg (view x))

theorem mem_admitted {x : α} :
    x ∈ r.admitted c columns reg view items ↔ x ∈ items ∧ r.Admits c columns reg (view x) := by
  rw [admitted, List.mem_filter, decide_eq_true_eq]

/-- A narrower request admits the same among the items that are admitted already. -/
theorem admitted_admitted (hn : r'.Narrows r) :
    r'.admitted c columns reg view (r.admitted c columns reg view items) =
      r'.admitted c columns reg view items := by
  rw [admitted, admitted, admitted, List.filter_filter]
  apply List.filter_congr
  intro x _
  by_cases h : r'.Admits c columns reg (view x)
  · simp [h, h.of_narrows hn]
  · simp [h]

/-- The items that the criteria of a plan are true of are the admitted ones. -/
theorem filter_isTrue_criteria
    (he : ∀ x ∈ items, (r.planWith c page limit sortBy columns).criteria.Evaluates reg (view x)) :
    (items.filter fun x => decide
        ((r.planWith c page limit sortBy columns).criteria.IsTrue reg (view x))) =
      r.admitted c columns reg view items :=
  List.filter_congr fun x hx => decide_eq_decide.2 (isTrue_criteria (he x hx))

/-- A plan fetches the slice of the admitted items in order, and counts them all. -/
theorem fetch_planWith_eq_ok {found : List α} {total : Int} :
    Memory.fetch reg view items (r.planWith c page limit sortBy columns).toSelection =
        .ok (found, total) ↔
      (∀ x ∈ items, (r.planWith c page limit sortBy columns).criteria.Evaluates reg (view x)) ∧
        ∃ sorted,
          Memory.sortByKeys view sortBy (r.admitted c columns reg view items) = .ok sorted ∧
          found = (r.planWith c page limit sortBy columns).toSelection.slice sorted ∧
          total = sorted.length := by
  rw [Memory.fetch_eq_ok]
  apply and_congr_right
  intro he
  rw [← filter_isTrue_criteria he]
  rfl

/-- The same without the slice. -/
theorem fetch_unsliced_eq_ok {found : List α} {total : Int} :
    Memory.fetch reg view items (r.planWith c page limit sortBy columns).unsliced.toSelection =
        .ok (found, total) ↔
      (∀ x ∈ items, (r.planWith c page limit sortBy columns).criteria.Evaluates reg (view x)) ∧
        Memory.sortByKeys view sortBy (r.admitted c columns reg view items) = .ok found ∧
        total = found.length := by
  rw [Memory.fetch_eq_ok]
  apply and_congr_right
  intro he
  have hplan : ∀ x ∈ items,
      (r.planWith c page limit sortBy columns).criteria.Evaluates reg (view x) := he
  rw [← filter_isTrue_criteria hplan]
  constructor
  · rintro ⟨sorted, hsorted, hslice, htotal⟩
    rw [Selection.slice_unsliced] at hslice
    subst hslice
    exact ⟨hsorted, htotal⟩
  · rintro ⟨hsorted, htotal⟩
    exact ⟨found, hsorted, (Selection.slice_unsliced _ _).symm, htotal⟩

/-- What a narrower request fetches is what it admits of the items fetched before. -/
theorem fetch_narrowed {found found' : List α} {total' page' limit' : Int}
    {sortBy' : List SortKey} (hn : r'.Narrows r)
    (hsorted : Memory.sortByKeys view sortBy (r.admitted c columns reg view items) = .ok found)
    (hfetch : Memory.fetch reg view items
      (r'.planWith c page' limit' sortBy' columns).unsliced.toSelection = .ok (found', total')) :
    found'.Perm (r'.admitted c columns reg view found) ∧ total' ≤ found.length := by
  obtain ⟨-, hsorted', rfl⟩ := fetch_unsliced_eq_ok.1 hfetch
  -- sorting the first result only changes the order of what is admitted again
  have hfound : (r'.admitted c columns reg view items).Perm
      (r'.admitted c columns reg view found) := by
    rw [← admitted_admitted hn]
    exact (Memory.sortByKeys_perm hsorted).symm.filter _
  have hperm := (Memory.sortByKeys_perm hsorted').trans hfound
  refine ⟨hperm, ?_⟩
  rw [hperm.length_eq]
  exact Int.ofNat_le.2 (List.length_filter_le _ found)

/-- Base criteria are never escaped, and each source stays by itself.  On items that the criteria of
a plan evaluate on, what there is without a slice are the admitted items, each as often as before,
and all of them are counted.  So they all meet the base criteria, whatever was searched or filtered
for, and a narrower request fetches only items that were there already. -/
theorem fetch_planned
    (he : ∀ x ∈ items, (r.planWith c page limit sortBy columns).criteria.Evaluates reg (view x)) :
    let plan := r.planWith c page limit sortBy columns
    (∀ found total,
      Memory.fetch reg view items plan.unsliced.toSelection = .ok (found, total) ↔
        Memory.sortByKeys view sortBy (r.admitted c columns reg view items) = .ok found ∧
        total = found.length) ∧
    ∀ found total, Memory.fetch reg view items plan.unsliced.toSelection = .ok (found, total) →
      (∀ x, x ∈ found ↔ x ∈ items ∧ r.Admits c columns reg (view x)) ∧
      found.Perm (r.admitted c columns reg view items) ∧
      total = (r.admitted c columns reg view items).length ∧
      Memory.fetch reg view items plan.toSelection =
        .ok (plan.toSelection.slice found, total) ∧
      (∀ x ∈ found, ∀ p ∈ c.criteria, p.IsTrue reg (view x)) ∧
      ∀ (r' : Request) (page' limit' : Int) (sortBy' : List SortKey) found' total',
        r'.Narrows r →
        Memory.fetch reg view items
          (r'.planWith c page' limit' sortBy' columns).unsliced.toSelection =
            .ok (found', total') →
        found'.Perm (r'.admitted c columns reg view found) ∧ total' ≤ total := by
  intro plan
  have hiff : ∀ found total,
      Memory.fetch reg view items plan.unsliced.toSelection = .ok (found, total) ↔
        Memory.sortByKeys view sortBy (r.admitted c columns reg view items) = .ok found ∧
        total = found.length := by
    intro found total
    rw [fetch_unsliced_eq_ok]
    exact and_iff_right he
  refine ⟨hiff, ?_⟩
  intro found total hfetch
  obtain ⟨hsorted, rfl⟩ := (hiff found total).1 hfetch
  have hperm := Memory.sortByKeys_perm hsorted
  have hmem : ∀ x, x ∈ found ↔ x ∈ items ∧ r.Admits c columns reg (view x) := by
    intro x
    rw [hperm.mem_iff, mem_admitted]
  -- the slice, the base criteria and narrower requests all rest on the same list
  refine ⟨hmem, hperm, by rw [hperm.length_eq], ?_, ?_, ?_⟩
  · exact fetch_planWith_eq_ok.2 ⟨he, found, hsorted, rfl, rfl⟩
  · intro x hx
    exact ((hmem x).1 hx).2.base
  · intro r' page' limit' sortBy' found' total' hn hfetch'
    exact fetch_narrowed hn hsorted hfetch'

def ticket (place : Nat) : Value :=
  [.record [("id", .int 1), ("title", .text "Disk full"), ("state", .text "open")],
    .record [("id", .int 2), ("title", .text "Disk lost"), ("state", .null)],
    .record [("id", .int 3), ("title", .text "No network"), ("state", .text "open")],
    .record [("id", .int 4), ("title", .text "Disk slow"), ("state", .text "closed")]].getD place
      .null

def ticketConfig : Config where
  sortable := ["id"]
  searchable := some ["title"]
  maxLimit := 50
  defaultSort := none
  defaultLimit := 20
  criteria := some (.negation (.test "state" .eq (.text "closed")))
  filterable := .empty
  maxLimit_pos := by decide
  defaultLimit_pos := by decide

/-- A search reaches neither a closed ticket nor one whose state is unknown. -/
theorem fetch_planned_tickets :
    let r : Request := ⟨"/tickets", none, none, none, some "disk", none, none⟩
    let plan := r.planWith ticketConfig 1 20 [⟨"id", "ASC"⟩] ["title"]
    (∀ place ∈ [0, 1, 2, 3], plan.criteria.Evaluates Memory.registry (ticket place)) ∧
      Memory.fetch Memory.registry ticket [0, 1, 2, 3] plan.unsliced.toSelection =
        .ok ([0], 1) := by
  intro r plan
  have he : ∀ place ∈ [0, 1, 2, 3], plan.criteria.Evaluates Memory.registry (ticket place) := by
    decide +kernel
  have hadmitted : r.admitted ticketConfig ["title"] Memory.registry ticket [0, 1, 2, 3] = [0] := by
    decide +kernel
  have hsorted : Memory.sortByKeys ticket [⟨"id", "ASC"⟩]
      (r.admitted ticketConfig ["title"] Memory.registry ticket [0, 1, 2, 3]) = .ok [0] := by
    rw [hadmitted]
    rfl
  exact ⟨he, ((fetch_planned he).1 [0] 1).2 ⟨hsorted, rfl⟩⟩

end Request

end Listing
