import Listing.Proofs.Memory.Fetching
import Listing.Proofs.Page.Reading
import Listing.Proofs.Plan.Resolving
import Listing.Proofs.Plan.Whitelist
import Listing.Proofs.Predicate.Truth

/-!
# What the link of a page searches

The link to the page itself is read as a request with the same search and the same filters, and so
the same items match (`matching_reread`) and as many are counted (`currentLink_searches`).  The
exception is a search that was limited to columns none of which may be searched (`LosesColumns`):
the page has no search at all then, its link has no columns to carry, and the request that is read
from it searches every column that may be.
-/

namespace Listing

open Links

/-! ## Filters -/

namespace Filter

/-- Columns without statements have no predicates. -/
theorem compile_filter_stated (whitelist : Whitelist) (f : Filter) :
    compile whitelist (f.filter fun statements => !statements.toList.isEmpty) =
      compile whitelist f := by
  show (f.entries.filter fun e => !e.2.toList.isEmpty).filterMap _ = f.entries.filterMap _
  rw [List.filterMap_filter]
  congr 1
  funext e
  split
  · rfl
  · next hempty =>
    -- no statements, no predicates: the last of them is none
    have hnil : e.2.toList = [] := by simpa using hempty
    rw [compileColumn]
    split
    · rfl
    · rw [hnil]
      rfl

/-- What a link carries of a filter has its predicates. -/
theorem compile_carried (whitelist : Whitelist) (f : Filter) :
    ((f.carried?.map (compile whitelist)).getD []) = compile whitelist f := by
  have hsame : compile whitelist ((f.filter fun statements =>
      !statements.toList.isEmpty).map Statements.collapse) = compile whitelist f := by
    -- neither dropping nor collapsing statements changes a predicate
    rw [compile_map_collapse, compile_filter_stated]
  rw [Filter.carried?]
  split
  · next hempty =>
    -- nothing is carried, so there was nothing to compile
    rw [← hsame]
    have hnil := List.isEmpty_iff.1 hempty
    show [] = List.filterMap _ _
    rw [hnil]
    rfl
  · exact hsame

end Filter

namespace Request

variable {α : Type} {r q : Request} {c : Config}

/-- The predicates of a request's filter. -/
def filterPredicates (r : Request) (c : Config) : List Predicate :=
  ((r.filter.map (Filter.compile c.filterable)).getD []).map Prod.snd

/-- A group of filters holds, or evaluates, when its predicates do, whether it is there or not. -/
theorem forall_mem_filterGroup {P : Predicate → Prop}
    (hall : ∀ ps, P (.all ps) ↔ ∀ p ∈ ps, P p) :
    (∀ g ∈ r.filterGroup c, P g) ↔ ∀ p ∈ r.filterPredicates c, P p := by
  unfold filterGroup filterPredicates
  cases r.filter with
  | none => simp
  | some f => simp [hall]

/-! ## The request of the link -/

/-- What the link to the page itself carries is written into an address as it is: the order and the
search columns as they were resolved, the search and the filters as they were sent. -/
structure LinkSafe (r : Request) (c : Config) : Prop where
  path : Address.IsPath r.path.toList
  sortBy : ∀ keys, c.resolveSort r.sortBy = .ok keys →
    ∀ k ∈ keys, Plain k.column ∧ Plain k.direction
  search : ∀ term ∈ r.search, Plain term
  searchBy : ∀ requested ∈ r.searchBy, ∀ column ∈ c.resolveSearch (some requested),
    Plain column ∧ IsColumn column
  filter : ∀ f ∈ r.filter, ∀ e ∈ f.entries,
    Plain e.1 ∧ '=' ∉ e.1.toList ∧ ∀ raw ∈ e.2.toList, Plain raw

/-- A search is limited to columns none of which may be searched, although others may be. -/
structure LosesColumns (r : Request) (c : Config) : Prop where
  search : ∃ term ∈ r.search, term ≠ ""
  searchBy : ∃ requested ∈ r.searchBy, c.resolveSearch (some requested) = []
  searchable : c.searchable.getD [] ≠ []

/-- The request that is read from the link to the page itself. -/
def reread (r : Request) (c : Config) (keys : List SortKey) : Request where
  path := r.path
  page := some (resolvePage r.page)
  limit := some (c.resolveLimit r.limit)
  sortBy := nonempty? ((keys.map keyText).filterMap readSortKey?)
  search := r.search.filter fun term => !term.isEmpty
  searchBy := nonempty? ((r.searchBy.map fun _ => c.resolveSearch r.searchBy).getD [])
  filter := r.filter.bind Filter.carried?

/-- What such a link carries can be read back. -/
theorem LinkSafe.verbatim {keys : List SortKey} (h : r.LinkSafe c)
    (hkeys : c.resolveSort r.sortBy = .ok keys) :
    Verbatim keys r.search (r.searchBy.map fun _ => c.resolveSearch r.searchBy) r.filter where
  sortBy := h.sortBy keys hkeys
  search := h.search
  searchBy columns hc column hcolumn := by
    cases hb : r.searchBy with
    | none =>
      rw [hb] at hc
      cases hc
    | some requested =>
      rw [hb] at hc
      cases hc
      exact h.searchBy requested hb column hcolumn
  filter := h.filter

/-- The filter that is read compiles to the same predicates. -/
theorem filterPredicates_reread (r : Request) (c : Config) (keys : List SortKey) :
    (r.reread c keys).filterPredicates c = r.filterPredicates c := by
  unfold filterPredicates reread
  cases r.filter with
  | none => rfl
  | some f =>
    rw [Option.bind_some, Filter.compile_carried]
    rfl

/-! ## The search of the link -/

/-- Without a term there is no group of the search. -/
theorem searchGroup_eq_nil (hs : ∀ term ∈ r.search, term = "") (columns : List String) :
    r.searchGroup columns = [] := by
  unfold searchGroup
  split
  · rfl
  · next term hterm => simp [hs term hterm]

/-- With a term there is one, if there is a column to search. -/
theorem searchGroup_eq {term : String} (hs : r.search = some term) (hterm : term ≠ "")
    (columns : List String) :
    r.searchGroup columns = if columns = [] then [] else [searchPredicate term columns] := by
  simp [searchGroup, hs, hterm]

/-- The search of the link is that of the page, unless there are no columns to carry. -/
theorem searchGroup_reread (h : ¬r.LosesColumns c) (keys : List SortKey) :
    (r.reread c keys).searchGroup (c.resolveSearch (r.reread c keys).searchBy) =
      r.searchGroup (c.resolveSearch r.searchBy) := by
  have hcolumns : c.resolveSearch (r.reread c keys).searchBy = _ :=
    Config.resolveSearch_carried c r.searchBy
  have hkept : (r.reread c keys).search = r.search.filter fun term => !term.isEmpty := rfl
  by_cases hsome : ∃ term ∈ r.search, term ≠ ""
  · obtain ⟨term, (hs : r.search = some term), hterm⟩ := hsome
    have hs' : (r.reread c keys).search = some term := by
      simp [hkept, hs, Option.filter, hterm]
    rw [searchGroup_eq hs' hterm, searchGroup_eq hs hterm, hcolumns]
    by_cases hnone : c.resolveSearch r.searchBy = []
    · -- no column is searched, and none may be, or the columns would be lost
      have hsearchable : c.searchable.getD [] = [] := by
        apply Classical.byContradiction
        intro hne
        refine h ⟨⟨term, hs, hterm⟩, ?_, hne⟩
        cases hb : r.searchBy with
        | none =>
          rw [hb] at hnone
          exact absurd hnone hne
        | some requested =>
          rw [hb] at hnone
          exact ⟨requested, rfl, hnone⟩
      rw [if_pos hnone, hsearchable, if_pos rfl, if_pos hnone]
    · rw [if_neg hnone, if_neg hnone]
  · have hblank : ∀ term ∈ r.search, term = "" := fun term hs =>
      Classical.byContradiction fun hterm => hsome ⟨term, hs, hterm⟩
    have hnone : ∀ term ∈ (r.reread c keys).search, term = "" := by
      intro term hterm
      rw [hkept] at hterm
      exact hblank term (Option.mem_filter_iff.1 hterm).1
    rw [searchGroup_eq_nil hnone, searchGroup_eq_nil hblank]

/-- A page without the search that was asked for has a link with all of it. -/
theorem LosesColumns.searchGroup_reread (h : r.LosesColumns c) (keys : List SortKey) :
    r.searchGroup (c.resolveSearch r.searchBy) = [] ∧
      ∃ term ∈ r.search,
        (r.reread c keys).searchGroup (c.resolveSearch (r.reread c keys).searchBy) =
          [searchPredicate term (c.searchable.getD [])] := by
  obtain ⟨⟨term, (hs : r.search = some term), hterm⟩,
    ⟨requested, (hb : r.searchBy = some requested), hnone⟩, hsearchable⟩ := h
  have hresolved : c.resolveSearch r.searchBy = [] := by
    rw [hb]
    exact hnone
  have hcolumns : c.resolveSearch (r.reread c keys).searchBy = c.searchable.getD [] :=
    (Config.resolveSearch_carried c r.searchBy).trans (if_pos hresolved)
  have hs' : (r.reread c keys).search = some term := by
    simp [reread, hs, Option.filter, hterm]
  constructor
  · rw [searchGroup_eq hs hterm, if_pos hresolved]
  · refine ⟨term, hs, ?_⟩
    rw [searchGroup_eq hs' hterm, hcolumns, if_neg hsearchable]

/-! ## The items that match -/

/-- The groups of a plan hold, or evaluate, when the base criteria, the search and the predicates of
the filters do. -/
theorem forall_mem_groups {P : Predicate → Prop} (hall : ∀ ps, P (.all ps) ↔ ∀ p ∈ ps, P p)
    (page limit : Int) (keys : List SortKey) (columns : List String) :
    (∀ g ∈ (r.planWith c page limit keys columns).groups, P g) ↔
      (∀ g ∈ baseGroup c, P g) ∧ (∀ g ∈ r.searchGroup columns, P g) ∧
        ∀ p ∈ r.filterPredicates c, P p := by
  have hgroups : (r.planWith c page limit keys columns).groups =
      baseGroup c ++ r.searchGroup columns ++ r.filterGroup c := rfl
  rw [hgroups, List.forall_mem_append, List.forall_mem_append, forall_mem_filterGroup hall,
    and_assoc]

/-- Criteria that cannot be told apart by what a conjunction has when all its members have it find
the same items: a conjunction evaluates when all its members do, and is true when they are. -/
theorem matching_iff_of_conjunctive {α : Type} {reg : Registry Memory.Operation} {view : α → Value}
    {items found : List α} {p p' : Plan}
    (h : ∀ P : Predicate → Prop, (∀ ps, P (.all ps) ↔ ∀ q ∈ ps, P q) →
      (P p'.criteria ↔ P p.criteria)) :
    Memory.matching reg view p'.toSelection.condition items = .ok found ↔
      Memory.matching reg view p.toSelection.condition items = .ok found := by
  apply Memory.matching_congr
  · intro x
    exact h (fun q => q.Evaluates reg (view x)) fun ps => Predicate.evaluates_all
  · intro x
    exact h (fun q => q.IsTrue reg (view x)) fun ps => Predicate.isTrue_all

/-- The same items match what is read from the link, when the search is the same. -/
theorem matching_reread {view : α → Value} {items found : List α} (h : ¬r.LosesColumns c)
    (keys : List SortKey) (page limit page' limit' : Int) (order order' : List SortKey) :
    Memory.matching Memory.registry view ((r.reread c keys).planWith c page' limit' order'
        (c.resolveSearch (r.reread c keys).searchBy)).toSelection.condition items = .ok found ↔
      Memory.matching Memory.registry view (r.planWith c page limit order
        (c.resolveSearch r.searchBy)).toSelection.condition items = .ok found := by
  -- the base criteria are the listing's own and no part of the request
  apply matching_iff_of_conjunctive
  intro P hall
  rw [Plan.criteria, Plan.criteria, hall, hall, forall_mem_groups hall, forall_mem_groups hall,
    searchGroup_reread h, filterPredicates_reread]

/-! ## The page of the link -/

/-- Once the items that match are found, what is left of fetching them is to sort them. -/
theorem executor_eq {view : α → Value} {items found : List α} {plan : Plan}
    (hfound : Memory.matching Memory.registry view plan.toSelection.condition items = .ok found) :
    Memory.executor view items plan =
      Memory.sortByKeys view plan.orderBy found >>= fun sorted =>
        .ok (plan.toSelection.slice sorted, (sorted.length : Int)) := by
  rw [Memory.executor, Memory.fetch, hfound]
  rfl

theorem resolvePage_reread (r : Request) (c : Config) (keys : List SortKey) :
    resolvePage (r.reread c keys).page = resolvePage r.page :=
  Int.max_eq_left (one_le_resolvePage r.page)

theorem resolveLimit_reread (r : Request) (c : Config) (keys : List SortKey) :
    c.resolveLimit (r.reread c keys).limit = c.resolveLimit r.limit :=
  c.resolveLimit_resolveLimit r.limit

/-- The request that is read from a link has a plan, as every request of its listing does. -/
theorem exists_plan_reread {keys : List SortKey} (hkeys : c.resolveSort r.sortBy = .ok keys) :
    ∃ keys', (r.reread c keys).plan c = .ok ((r.reread c keys).planWith c (resolvePage r.page)
        (c.resolveLimit r.limit) keys' (c.resolveSearch (r.reread c keys).searchBy)) ∧
      c.resolveSort (r.reread c keys).sortBy = .ok keys' := by
  -- the page itself has an order, so there is a sortable column
  have hsortable : c.sortable ≠ [] := by
    intro hnil
    rw [Config.resolveSort, hnil] at hkeys
    cases hkeys
  obtain ⟨keys', hkeys', -⟩ := Config.exists_resolveSort hsortable (r.reread c keys).sortBy
  refine ⟨keys', ?_, hkeys'⟩
  rw [plan, hkeys', Outcome.ok_bind, resolvePage_reread, resolveLimit_reread]
  rfl

/-- An answer from memory counts the items that match. -/
theorem totalItems_eq {view : α → Value} {items found : List α} {p : Page α} {plan : Plan}
    (hp : r.paginate (Memory.executor view items) c = .ok p) (hplan : r.plan c = .ok plan)
    (hfound : Memory.matching Memory.registry view plan.toSelection.condition items = .ok found) :
    p.info.totalItems = found.length ∧
      ∃ sorted, Memory.sortByKeys view plan.orderBy found = .ok sorted := by
  obtain ⟨keys, data, total, hkeys, hfetch, -, rfl⟩ := eq_answer_of_paginate hp
  obtain ⟨keys', hkeys', rfl⟩ := plan_eq_ok.1 hplan
  rw [hkeys] at hkeys'
  cases hkeys'
  rw [executor_eq hfound] at hfetch
  obtain ⟨sorted, hsorted, hdata⟩ := Outcome.bind_eq_ok.1 hfetch
  cases hdata
  refine ⟨?_, sorted, hsorted⟩
  show (sorted.length : Int) = found.length
  rw [(Memory.sortByKeys_perm hsorted).length_eq]

/-- The link of a page to itself is read as a request that searches and filters as the page does: the
same items match, as many are counted, and the link is answered whenever they can be put into its
order.  Only a search in columns none of which may be searched is lost, and the link searches all
that may be. -/
theorem currentLink_searches {view : α → Value} {items : List α} {p : Page α}
    (hsafe : r.LinkSafe c) (hp : r.paginate (Memory.executor view items) c = .ok p) :
    ∃ q plan plan', ofAddress p.links.current = .ok q ∧ r.plan c = .ok plan ∧ q.plan c = .ok plan' ∧
      plan.groups = baseGroup c ++ r.searchGroup (c.resolveSearch r.searchBy) ++
        r.filterGroup c ∧
      plan'.groups = baseGroup c ++ q.searchGroup (c.resolveSearch q.searchBy) ++
        q.filterGroup c ∧
      (r.LosesColumns c →
        r.searchGroup (c.resolveSearch r.searchBy) = [] ∧ ∃ term ∈ r.search,
          q.searchGroup (c.resolveSearch q.searchBy) =
            [searchPredicate term (c.searchable.getD [])]) ∧
      (¬r.LosesColumns c →
        q.searchGroup (c.resolveSearch q.searchBy) = r.searchGroup (c.resolveSearch r.searchBy) ∧
        ∃ found,
          Memory.matching Memory.registry view plan.toSelection.condition items = .ok found ∧
          Memory.matching Memory.registry view plan'.toSelection.condition items = .ok found ∧
          p.info.totalItems = found.length ∧
          (∀ p', q.paginate (Memory.executor view items) c = .ok p' →
            p'.info.totalItems = p.info.totalItems) ∧
          ((∃ p', q.paginate (Memory.executor view items) c = .ok p') ↔
            ∃ sorted, Memory.sortByKeys view plan'.orderBy found = .ok sorted)) := by
  obtain ⟨keys, data, total, hkeys, hfetch, ⟨hlimit, hpage, hpages⟩, hanswer⟩ :=
    eq_answer_of_paginate hp
  obtain ⟨keys', hplan', hkeys'⟩ := exists_plan_reread hkeys
  have hread : ofAddress p.links.current = .ok (r.reread c keys) := by
    rw [hanswer]
    exact ofAddress_verbatim hsafe.path hpage hlimit (hsafe.verbatim hkeys)
  have hplan : r.plan c = .ok _ := plan_eq_ok.2 ⟨keys, hkeys, rfl⟩
  refine ⟨_, _, _, hread, hplan, hplan', rfl, rfl, fun hlost => hlost.searchGroup_reread keys,
    fun hkept => ⟨searchGroup_reread hkept keys, ?_⟩⟩
  obtain ⟨found, hfound, -⟩ := Outcome.bind_eq_ok.1 hfetch
  have hfound' := (matching_reread hkept keys (resolvePage r.page) (c.resolveLimit r.limit)
    (resolvePage r.page) (c.resolveLimit r.limit) keys keys').2 hfound
  obtain ⟨htotal, -⟩ := totalItems_eq hp hplan hfound
  refine ⟨found, hfound, hfound', htotal, ?_, ?_, ?_⟩
  · intro p' hp'
    rw [(totalItems_eq hp' hplan' hfound').1, htotal]
  · rintro ⟨p', hp'⟩
    exact (totalItems_eq hp' hplan' hfound').2
  · rintro ⟨sorted, hsorted⟩
    -- its numbers are those of the page, so they can be written
    have hfetch' := executor_eq hfound'
    rw [hsorted, Outcome.ok_bind, ← resolvePage_reread r c keys,
      ← resolveLimit_reread r c keys] at hfetch'
    have hcount : (sorted.length : Int) = total := by
      rw [(Memory.sortByKeys_perm hsorted).length_eq, ← htotal, hanswer]
      rfl
    refine ⟨_, (paginate_of_fetched _ hkeys' hfetch').1 ?_⟩
    rw [resolvePage_reread, resolveLimit_reread, hcount]
    exact ⟨hlimit, hpage, hpages⟩

def pet (place : Nat) : Value :=
  [.record [("name", .text "Milo"), ("kind", .text "cat")],
    .record [("name", .text "Rex"), ("kind", .text "dog")],
    .record [("name", .text "Mia"), ("kind", .text "cat")]].getD place .null

def petConfig (sortable : String) : Config where
  sortable := [sortable]
  searchable := some ["name"]
  maxLimit := 30
  defaultSort := none
  defaultLimit := 10
  criteria := none
  filterable := .ofList [("kind", [.eq])]
  maxLimit_pos := by decide
  defaultLimit_pos := by decide

def petRequest (searchBy : Option (List String)) (filter : Option Filter) : Request where
  path := "/pets"
  page := none
  limit := none
  sortBy := none
  search := some "mi"
  searchBy := searchBy
  filter := filter

theorem linkSafe_pets {searchBy : Option (List String)} {filter : Option Filter}
    (hfilter : ∀ f ∈ filter, ∀ e ∈ f.entries,
      Plain e.1 ∧ '=' ∉ e.1.toList ∧ ∀ raw ∈ e.2.toList, Plain raw) :
    (petRequest searchBy filter).LinkSafe (petConfig "name") where
  path := by
    show Address.IsPath "/pets".toList
    decide +kernel
  sortBy keys hkeys := by
    cases hkeys
    decide +kernel
  search := by
    show ∀ term ∈ some "mi", Plain term
    decide +kernel
  searchBy requested _ column hcolumn := by
    have hsearched : column ∈ ["name"] := mem_searchable_of_mem_resolveSearch _ _ column hcolumn
    rw [List.mem_singleton.1 hsearched]
    decide +kernel
  filter := hfilter

/-- A search that is limited to a column that may be searched is found again, here with a filter
that has a column without statements. -/
theorem currentLink_searches_pets :
    let r := petRequest (some ["kind", "name"])
      (some (.ofList [("kind", .many ["cat"]), ("name", .many [])]))
    let executor := Memory.executor pet [0, 1, 2]
    r.LinkSafe (petConfig "name") ∧ ¬r.LosesColumns (petConfig "name") ∧
      ∃ p q, r.paginate executor (petConfig "name") = .ok p ∧ p.info.totalItems = 2 ∧
        ofAddress p.links.current = .ok q ∧
        q.searchGroup ((petConfig "name").resolveSearch q.searchBy) =
          [searchPredicate "mi" ["name"]] := by
  intro r executor
  have hsafe : r.LinkSafe (petConfig "name") := linkSafe_pets (by decide +kernel)
  have hkept : ¬r.LosesColumns (petConfig "name") := by
    rintro ⟨-, ⟨requested, hb, hnone⟩, -⟩
    cases hb
    cases hnone
  have htotal : ((r.paginate executor (petConfig "name")).toOption.map fun p =>
      p.info.totalItems) = some 2 := by decide +kernel
  cases hp : r.paginate executor (petConfig "name") with
  | error fault =>
    rw [hp] at htotal
    cases htotal
  | ok p =>
    rw [hp] at htotal
    obtain ⟨q, plan, plan', hq, -, -, -, -, -, hsame⟩ := currentLink_searches hsafe hp
    refine ⟨hsafe, hkept, p, q, rfl, Option.some.inj htotal, hq, ?_⟩
    rw [(hsame hkept).1]
    rfl

/-- A search in a column that may not be searched finds every pet, and its link fewer; and a link
loses its search when it carries a column to sort by with a sign that ends the parameters. -/
theorem currentLink_searches_less :
    let total := fun (r : Request) (c : Config) =>
      (r.paginate (Memory.executor pet [0, 1, 2]) c).toOption.map fun p => p.info.totalItems
    let totalAgain := fun (r : Request) (c : Config) =>
      ((r.paginate (Memory.executor pet [0, 1, 2]) c).toOption.bind fun p =>
        (ofAddress p.links.current).toOption).bind fun q => total q c
    ((petRequest (some ["kind"]) none).LinkSafe (petConfig "name") ∧
      (petRequest (some ["kind"]) none).LosesColumns (petConfig "name") ∧
      total (petRequest (some ["kind"]) none) (petConfig "name") = some 3 ∧
      totalAgain (petRequest (some ["kind"]) none) (petConfig "name") = some 2) ∧
    total (petRequest none none) (petConfig "name#") = some 2 ∧
      totalAgain (petRequest none none) (petConfig "name#") = some 3 := by
  intro total totalAgain
  refine ⟨⟨linkSafe_pets (by decide +kernel), ?_, by decide +kernel, by decide +kernel⟩,
    by decide +kernel, by decide +kernel⟩
  exact ⟨⟨"mi", rfl, by decide +kernel⟩, ⟨["kind"], rfl, rfl⟩, by decide +kernel⟩

end Request

end Listing
