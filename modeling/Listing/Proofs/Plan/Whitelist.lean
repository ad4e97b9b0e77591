import Listing.Proofs.Page.Answer
import Listing.Proofs.Predicate.Truth

/-!
# What a request can put into a plan

Whatever a request says, the plan made of it stays within what the listing allows: it is ordered by
keys that are allowed, it searches only in searched columns, it filters only on columns of the
whitelist with the operators allowed there, and it asks for a page of a size that is allowed.
`Plan.Confined` says all of this of a plan, and `paginate_confined` says it of the one plan that an
executor is asked for.
-/

namespace Listing

/-! ## Order -/

/-- A sort key that a listing lets a request choose. -/
def SortKey.Qualifies (sortable : List String) (k : SortKey) : Prop :=
  k.column ∈ sortable ∧ (k.direction = "ASC" ∨ k.direction = "DESC")

theorem SortKey.isAllowed_iff {sortable : List String} {k : SortKey} :
    k.isAllowed sortable = true ↔ k.Qualifies sortable := by
  simp [isAllowed, Qualifies, directions]

namespace Config

/-- The orders that a listing answers a request for some keys in. -/
inductive OrdersBy (c : Config) (requested : List SortKey) : List SortKey → Prop
  /-- Those of the requested keys that qualify, in the order in which they were requested. -/
  | requested {keys : List SortKey} (ne_nil : keys ≠ []) (sublist : keys.Sublist requested)
      (qualify : ∀ k ∈ keys, k.Qualifies c.sortable)
      (complete : ∀ k ∈ requested, k.Qualifies c.sortable → k ∈ keys) : OrdersBy c requested keys
  /-- The order of the listing, as no requested key qualifies. -/
  | default {keys : List SortKey} (none : ∀ k ∈ requested, ¬k.Qualifies c.sortable)
      (given : c.defaultSort = some keys) (ne_nil : keys ≠ []) : OrdersBy c requested keys
  /-- The first column upwards, as the listing has no order of its own either. -/
  | first {column : String} {columns : List String}
      (none : ∀ k ∈ requested, ¬k.Qualifies c.sortable) (absent : ∀ keys ∈ c.defaultSort, keys = [])
      (sortable : c.sortable = column :: columns) : OrdersBy c requested [⟨column, "ASC"⟩]

variable {c : Config} {requested keys : List SortKey}

theorem OrdersBy.ne_nil (h : c.OrdersBy requested keys) : keys ≠ [] := by
  cases h with
  | requested hne _ _ _ => exact hne
  | default _ _ hne => exact hne
  | first _ _ _ => exact List.cons_ne_nil _ _

/-- A listing falls back to its own order, or to its first column. -/
theorem ordersBy_fallbackSort {column : String} {columns : List String}
    (hs : c.sortable = column :: columns) (hnone : ∀ k ∈ requested, ¬k.Qualifies c.sortable) :
    c.OrdersBy requested (c.fallbackSort column) := by
  unfold fallbackSort
  cases hd : c.defaultSort with
  | none => exact .first hnone (by simp [hd]) hs
  | some keys =>
    cases keys with
    | nil => exact .first hnone (by simp [hd]) hs
    | cons k keys => exact .default hnone hd (List.cons_ne_nil k keys)

/-- A listing with a sortable column has an order for every request. -/
theorem exists_resolveSort (h : c.sortable ≠ []) (requested : Option (List SortKey)) :
    ∃ keys, c.resolveSort requested = .ok keys ∧ c.OrdersBy (requested.getD []) keys := by
  unfold resolveSort
  generalize requested.getD [] = wanted
  cases hs : c.sortable with
  | nil => exact absurd hs h
  | cons column columns =>
    have hallowed : ∀ k : SortKey, k.isAllowed (column :: columns) = true ↔
        k.Qualifies c.sortable := by
      intro k
      rw [hs]
      exact SortKey.isAllowed_iff
    -- either no requested key is allowed or those that are make up the order
    cases hf : wanted.filter (·.isAllowed (column :: columns)) with
    | nil =>
      have hnone : ∀ k ∈ wanted, ¬k.Qualifies c.sortable := by
        intro k hk hq
        have hmem := List.mem_filter.2 ⟨hk, (hallowed k).2 hq⟩
        rw [hf] at hmem
        cases hmem
      exact ⟨_, rfl, ordersBy_fallbackSort hs hnone⟩
    | cons k keys =>
      refine ⟨_, rfl, ?_⟩
      rw [← hf]
      refine .requested ?_ List.filter_sublist ?_ ?_
      · rw [hf]
        exact List.cons_ne_nil k keys
      · intro l hl
        exact (hallowed l).1 (List.mem_filter.1 hl).2
      · intro l hl hq
        exact List.mem_filter.2 ⟨hl, (hallowed l).2 hq⟩

theorem resolveLimit_le (c : Config) (requested : Option Int) :
    c.resolveLimit requested ≤ c.maxLimit := Int.min_le_right _ _

end Config

/-! ## Filters -/

/-- The comparator that an operator stands for.  Negation stands for none. -/
def Operator.comparator? : Operator → Option Comparator
  | eq => some .eq
  | gt => some .gt
  | gte => some .ge
  | isIn => some .isIn
  | null => some .isNull
  | lt => some .lt
  | lte => some .le
  | not => none

namespace Predicate

/-- A predicate that tests one column only, by what some operators allow. -/
inductive KeepsTo (column : String) (allowed : List Operator) : Predicate → Prop
  /-- A comparison is that of an operator that is allowed. -/
  | test {o : Operator} {comparator : Comparator} (v : Value) (mem : o ∈ allowed)
      (image : o.comparator? = some comparator) : KeepsTo column allowed (test column comparator v)
  /-- A negated value means that the column differs from it, which needs only the negation. -/
  | differs (v : Value) (mem : .not ∈ allowed) :
      KeepsTo column allowed (negation (test column .eq v))
  | negation {p : Predicate} (mem : .not ∈ allowed) (inner : KeepsTo column allowed p) :
      KeepsTo column allowed (negation p)

/-- An operator that is allowed makes a predicate that is. -/
theorem keepsTo_onValue (column : String) {allowed : List Operator} {o : Operator}
    (h : o ∈ allowed) (v : Value) : (o.onValue column v).KeepsTo column allowed := by
  -- negation and absence have no operand of their own, the others compare with it
  cases o with
  | not => exact .differs v h
  | null => exact .test .null h rfl
  | eq | gt | gte | isIn | lt | lte => exact .test v h rfl

/-- A group that searches: each of its leaves looks for the term in one of the columns. -/
def SearchesOnly (term : String) (columns : List String) (g : Predicate) : Prop :=
  ∀ leaf ∈ g.leaves, ∃ column ∈ columns, leaf = test column .contains (.text term)

/-- A group that filters: one predicate for each of some columns of a whitelist. -/
def FiltersOnly (whitelist : Whitelist) (g : Predicate) : Prop :=
  ∃ entries : List (String × Predicate), g = all (entries.map Prod.snd) ∧
    (entries.map Prod.fst).Nodup ∧
    ∀ e ∈ entries, ∃ allowed, whitelist.lookup e.1 = some allowed ∧ e.2.KeepsTo e.1 allowed

end Predicate

namespace Filter

variable {column : String} {allowed : List Operator}

/-- A statement is compiled only if each of its operators is allowed. -/
theorem compileStatement_keepsTo {raw : String} {p : Predicate}
    (h : compileStatement column allowed raw = .ok p) : p.KeepsTo column allowed := by
  -- each branch that gives a predicate has checked the operators it uses
  unfold compileStatement at h
  split at h
  · cases h
  · next s _ =>
    split at h
    · cases h
    · next inner _ =>
      split at h
      · cases h
      · next hinner =>
        have hmem : inner ∈ allowed := by simpa using hinner
        have hkeeps := Predicate.keepsTo_onValue column hmem
          (operandValue inner s.value)
        simp only at h
        split at h
        · -- nothing stands outside the operator, or nothing that is one
          cases h
          exact hkeeps
        · next outer _ =>
          split at h
          · cases h
          · next houter =>
            split at h
            · next hnot =>
              subst hnot
              cases h
              exact .negation (by simpa using houter) hkeeps
            · cases h

/-- Each predicate that the statements of a column compile to is allowed for it. -/
theorem compileAll_keepsTo (raws : List String) :
    ∀ p ∈ (compileAll column allowed raws).1, p.KeepsTo column allowed := by
  induction raws with
  | nil => exact fun p hp => absurd hp List.not_mem_nil
  | cons raw raws ih =>
    intro p hp
    rw [compileAll] at hp
    cases hs : compileStatement column allowed raw with
    | error note =>
      rw [hs] at hp
      exact ih p hp
    | ok q =>
      rw [hs] at hp
      rcases List.mem_cons.1 hp with rfl | hp
      · exact compileStatement_keepsTo hs
      · exact ih p hp

/-- The predicate of a column is one that the whitelist allows for it. -/
theorem compileColumn_keepsTo {whitelist : Whitelist} {statements : Statements} {p : Predicate}
    (h : (compileColumn whitelist column statements).1 = some p) :
    ∃ allowed, whitelist.lookup column = some allowed ∧ p.KeepsTo column allowed := by
  rw [compileColumn] at h
  cases hl : whitelist.lookup column with
  | none =>
    rw [hl] at h
    cases h
  | some allowed =>
    rw [hl] at h
    exact ⟨allowed, rfl, compileAll_keepsTo statements.toList p (List.mem_of_getLast? h)⟩

/-- Columns are filtered on in the order of the filter, and each at most once. -/
theorem map_fst_compile_sublist (whitelist : Whitelist) (f : Filter) :
    ((compile whitelist f).map Prod.fst).Sublist f.names := by
  unfold compile Table.names
  induction f.entries with
  | nil => exact List.Sublist.refl []
  | cons e es ih =>
    cases hc : (compileColumn whitelist e.1 e.2).1 with
    | none =>
      rw [List.filterMap_cons_none (by simp [hc]), List.map_cons]
      exact ih.cons e.1
    | some p =>
      rw [List.filterMap_cons_some (b := (e.1, p)) (by simp [hc]), List.map_cons, List.map_cons]
      exact ih.cons_cons e.1

theorem filtersOnly_compile (whitelist : Whitelist) (f : Filter) :
    (Predicate.all ((compile whitelist f).map Prod.snd)).FiltersOnly whitelist := by
  refine ⟨compile whitelist f, rfl, ?_, ?_⟩
  · exact f.distinct.sublist (map_fst_compile_sublist whitelist f)
  · intro e he
    rcases List.mem_filterMap.1 he with ⟨entry, -, hentry⟩
    rcases Option.map_eq_some_iff.1 hentry with ⟨p, hp, rfl⟩
    exact compileColumn_keepsTo hp

end Filter

/-! ## Plans -/

/-- A plan that stays within what a listing allows, for some request. -/
structure Plan.Confined (plan : Plan) (r : Request) (c : Config) : Prop where
  order : c.OrdersBy (r.sortBy.getD []) plan.orderBy
  /-- There are at most a group of the base criteria, a group that searches and one that filters. -/
  groups : ∃ search filter : Option Predicate,
    plan.groups = Request.baseGroup c ++ search.toList ++ filter.toList ∧
    (∀ g ∈ search, ∃ term ∈ r.search, g.SearchesOnly term (c.searchable.getD [])) ∧
    ∀ g ∈ filter, g.FiltersOnly c.filterable
  /-- The slice is that of a page, which is not before the first. -/
  slice : ∃ limit, plan.limit = some limit ∧ 1 ≤ limit ∧ limit ≤ c.maxLimit ∧
    plan.offset = some ((resolvePage r.page - 1) * limit) ∧ 1 ≤ resolvePage r.page ∧
    0 ≤ (resolvePage r.page - 1) * limit

namespace Request

/-- A search looks for its term and in its columns only. -/
theorem searchesOnly_searchPredicate {term : String} {columns searched : List String}
    (h : ∀ column ∈ columns, column ∈ searched) :
    (searchPredicate term columns).SearchesOnly term searched := by
  intro leaf hleaf
  rw [searchPredicate, Predicate.leaves, Predicate.leavesOf_eq_flatMap] at hleaf
  rcases List.mem_flatMap.1 hleaf with ⟨p, hp, hleaf⟩
  rcases List.mem_map.1 hp with ⟨column, hcolumn, rfl⟩
  exact ⟨column, h column hcolumn, List.mem_singleton.1 hleaf⟩

/-- Whatever columns are requested, those that are searched are searched columns of the listing. -/
theorem mem_searchable_of_mem_resolveSearch (c : Config) (requested : Option (List String)) :
    ∀ column ∈ c.resolveSearch requested, column ∈ c.searchable.getD [] := by
  intro column hcolumn
  cases requested with
  | none => exact hcolumn
  | some columns =>
    have hcontains := (List.mem_filter.1 hcolumn).2
    exact List.contains_iff_mem.1 hcontains

theorem exists_searchGroup {r : Request} {columns searched : List String}
    (h : ∀ column ∈ columns, column ∈ searched) :
    ∃ search : Option Predicate, r.searchGroup columns = search.toList ∧
      ∀ g ∈ search, ∃ term ∈ r.search, g.SearchesOnly term searched := by
  unfold searchGroup
  cases hs : r.search with
  | none => exact ⟨none, rfl, fun g hg => absurd hg (by simp)⟩
  | some term =>
    simp only
    split
    · exact ⟨none, rfl, fun g hg => absurd hg (by simp)⟩
    · refine ⟨some (searchPredicate term columns), rfl, ?_⟩
      intro g hg
      cases hg
      exact ⟨term, rfl, searchesOnly_searchPredicate h⟩

theorem exists_filterGroup (r : Request) (c : Config) :
    ∃ filter : Option Predicate, r.filterGroup c = filter.toList ∧
      ∀ g ∈ filter, g.FiltersOnly c.filterable := by
  refine ⟨r.filter.map fun f => .all ((Filter.compile c.filterable f).map Prod.snd), rfl, ?_⟩
  intro g hg
  rcases Option.map_eq_some_iff.1 hg with ⟨f, -, rfl⟩
  exact Filter.filtersOnly_compile c.filterable f

/-- A plan with resolved parts stays within what the listing allows. -/
theorem confined_planWith {r : Request} {c : Config} {keys : List SortKey}
    (h : c.OrdersBy (r.sortBy.getD []) keys) :
    (r.planWith c (resolvePage r.page) (c.resolveLimit r.limit) keys
      (c.resolveSearch r.searchBy)).Confined r c := by
  have hpage := one_le_resolvePage r.page
  have hlimit := c.resolveLimit_pos r.limit
  -- a page that is not before the first starts at or behind the first item
  have hoffset : 0 ≤ (resolvePage r.page - 1) * c.resolveLimit r.limit :=
    Int.mul_nonneg (by omega) (by omega)
  rcases exists_searchGroup (r := r) (mem_searchable_of_mem_resolveSearch c r.searchBy) with
    ⟨search, hsearch, hsearches⟩
  rcases exists_filterGroup r c with ⟨filter, hfilter, hfilters⟩
  refine ⟨h, ⟨search, filter, ?_, hsearches, hfilters⟩, ?_⟩
  · rw [← hsearch, ← hfilter]
    rfl
  · exact ⟨_, rfl, hlimit, c.resolveLimit_le r.limit, rfl, hpage, hoffset⟩

/-- A listing with a sortable column asks an executor for one plan, and this plan stays within what
the listing allows, whatever was requested. -/
theorem paginate_confined {r : Request} {c : Config} (h : c.sortable ≠ []) :
    ∃ plan : Plan, r.plan c = .ok plan ∧ plan.Confined r c ∧ plan.orderBy ≠ [] ∧
      ∀ α : Type, ∃ finish : List α × Int → Outcome (Page α),
        ∀ executor : Executor α, r.paginate executor c = executor plan >>= finish := by
  rcases Config.exists_resolveSort h r.sortBy with ⟨keys, hkeys, horders⟩
  refine ⟨_, plan_eq_ok.2 ⟨keys, hkeys, rfl⟩, confined_planWith horders, horders.ne_nil, ?_⟩
  intro α
  exact ⟨_, fun executor => paginate_eq hkeys executor⟩

def accountConfig : Config where
  sortable := ["name", "state"]
  searchable := some ["name"]
  maxLimit := 40
  defaultSort := none
  defaultLimit := 15
  criteria := none
  filterable := .ofList [("state", [.eq, .not])]
  maxLimit_pos := by decide
  defaultLimit_pos := by decide

/-- A request for what a listing of accounts does not allow: a secret column to sort by, search and
filter on, an operator outside the whitelist, and a page that is too large. -/
def pryingRequest : Request :=
  ⟨"/accounts", some (-3), some 5000, some [⟨"secret", "ASC"⟩, ⟨"name", "asc"⟩], some "x",
    some ["secret", "name"],
    some (.ofList [("secret", .one "$eq:x"), ("state", .many ["$not:$eq:open", "$gt:a"])])⟩

/-- What is left of it is a plan for the first page by name. -/
theorem paginate_confined_prying :
    accountConfig.sortable ≠ [] ∧ ∃ plan : Plan, pryingRequest.plan accountConfig = .ok plan ∧
      plan.Confined pryingRequest accountConfig ∧ plan.orderBy = [⟨"name", "ASC"⟩] ∧
      plan.limit = some 40 ∧ plan.offset = some 0 := by
  have hsortable : accountConfig.sortable ≠ [] := by decide
  have hplan : pryingRequest.plan accountConfig =
      .ok (pryingRequest.planWith accountConfig 1 40 [⟨"name", "ASC"⟩] ["name"]) := rfl
  rcases paginate_confined (r := pryingRequest) hsortable with ⟨plan, hok, hconfined, -, -⟩
  rw [hplan] at hok
  cases hok
  exact ⟨hsortable, _, hplan, hconfined, rfl, rfl, rfl⟩

end Request

end Listing
