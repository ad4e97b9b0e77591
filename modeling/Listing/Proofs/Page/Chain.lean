import Listing.Proofs.Page.Reading
import Listing.Proofs.Plan.Resolving

/-!
# Chains of links

Following links from page to page is the same as asking the first request for the pages that the
links lead to (`walk_eq_browse`), as long as everything a link carries can be written into an
address as it is.  The invariant of a chain is that its requests repeat the first one
(`Request.Repeats`): they may be written differently, but they are resolved to the same order, page
size, criteria and parameters of links.
-/

namespace Listing

namespace Request

/-! ## Requests for the same listing -/

/-- A request asks for what another one asks for, on any page. -/
structure Repeats (c : Config) (q r : Request) : Prop where
  path : q.path = r.path
  limit : c.resolveLimit q.limit = c.resolveLimit r.limit
  sortBy : c.resolveSort q.sortBy = c.resolveSort r.sortBy
  search : q.search = r.search
  /-- Columns only matter when something is searched. -/
  searched : r.search ≠ none → c.resolveSearch q.searchBy = c.resolveSearch r.searchBy
  carried : (q.searchBy.map fun _ => c.resolveSearch q.searchBy).getD [] =
    (r.searchBy.map fun _ => c.resolveSearch r.searchBy).getD []
  filter : q.filter.map (Table.map Statements.collapse) =
    r.filter.map (Table.map Statements.collapse)

variable {α : Type} {c : Config} {q r : Request}

theorem Repeats.refl (c : Config) (r : Request) : Repeats c r r :=
  ⟨rfl, rfl, rfl, rfl, fun _ => rfl, rfl, rfl⟩

theorem Repeats.symm (h : Repeats c q r) : Repeats c r q where
  path := h.path.symm
  limit := h.limit.symm
  sortBy := h.sortBy.symm
  search := h.search.symm
  searched hs := (h.searched (h.search ▸ hs)).symm
  carried := h.carried.symm
  filter := h.filter.symm

theorem Repeats.trans {t : Request} (h : Repeats c q r) (h' : Repeats c r t) : Repeats c q t where
  path := h.path.trans h'.path
  limit := h.limit.trans h'.limit
  sortBy := h.sortBy.trans h'.sortBy
  search := h.search.trans h'.search
  searched hs := (h.searched (h'.search ▸ hs)).trans (h'.searched hs)
  carried := h.carried.trans h'.carried
  filter := h.filter.trans h'.filter

/-- A request that repeats another one searches for the same in the same columns. -/
theorem Repeats.searchGroup (h : Repeats c q r) :
    q.searchGroup (c.resolveSearch q.searchBy) = r.searchGroup (c.resolveSearch r.searchBy) := by
  unfold Request.searchGroup
  rw [h.search]
  cases hs : r.search with
  | none => rfl
  | some term =>
    have hsome : r.search ≠ none := by simp [hs]
    rw [h.searched hsome]

/-- A list of one statement compiles as the statement does. -/
theorem filterGroup_map_collapse (r : Request) (c : Config) :
    ({ r with filter := r.filter.map (Table.map Statements.collapse) }).filterGroup c =
      r.filterGroup c := by
  simp [filterGroup, Function.comp_def, Filter.compile_map_collapse]

theorem Repeats.filterGroup (h : Repeats c q r) : q.filterGroup c = r.filterGroup c := by
  rw [← filterGroup_map_collapse q, ← filterGroup_map_collapse r]
  unfold Request.filterGroup
  rw [h.filter]

/-- A request that repeats another one has its plan on every page. -/
theorem Repeats.planWith (h : Repeats c q r) (page limit : Int) (keys : List SortKey) :
    q.planWith c page limit keys (c.resolveSearch q.searchBy) =
      r.planWith c page limit keys (c.resolveSearch r.searchBy) := by
  rw [Request.planWith, Request.planWith, h.searchGroup, h.filterGroup]

/-- The parameters of a filter do not show whether a statement stands in a list. -/
theorem filterPairs_map_collapse (f : Option Filter) :
    Links.filterPairs (((f.map (Table.map Statements.collapse)).map Table.entries).getD []) =
      Links.filterPairs ((f.map Table.entries).getD []) := by
  cases f with
  | none => rfl
  | some f => simp [Links.filterPairs, Table.map, List.flatMap_map]

/-- A request that repeats another one has the same parameters in its links. -/
theorem Repeats.linkParameters (h : Repeats c q r) (limit : Int) (keys : List SortKey) :
    q.linkParameters limit keys (c.resolveSearch q.searchBy) =
      r.linkParameters limit keys (c.resolveSearch r.searchBy) := by
  have hfilter : Links.filterPairs ((q.filter.map Table.entries).getD []) =
      Links.filterPairs ((r.filter.map Table.entries).getD []) := by
    rw [← filterPairs_map_collapse q.filter, ← filterPairs_map_collapse r.filter, h.filter]
  simp only [Request.linkParameters, Links.parameters, h.search, h.carried, hfilter]

/-- Requests that repeat each other, for the same page, are answered alike, if their filters are
written alike. -/
theorem Repeats.paginate (h : Repeats c q r) (hpage : resolvePage q.page = resolvePage r.page)
    (hfilter : q.filter = r.filter) {keys : List SortKey}
    (hkeys : c.resolveSort r.sortBy = .ok keys) (executor : Executor α) :
    q.paginate executor c = r.paginate executor c := by
  have hkeys' : c.resolveSort q.sortBy = .ok keys := h.sortBy.trans hkeys
  have hanswer : ∀ (items : List α) (total : Int),
      q.answer (resolvePage q.page) (c.resolveLimit q.limit) keys (c.resolveSearch q.searchBy)
          items total =
        r.answer (resolvePage r.page) (c.resolveLimit r.limit) keys (c.resolveSearch r.searchBy)
          items total := by
    intro items total
    have hcolumns : (if (r.search.getD "").isEmpty then none
        else some (c.resolveSearch q.searchBy)) =
        if (r.search.getD "").isEmpty then none else some (c.resolveSearch r.searchBy) := by
      cases hs : r.search with
      | none => rfl
      | some term =>
        have hsome : r.search ≠ none := by simp [hs]
        rw [h.searched hsome]
    simp only [answer, pageWith, h.linkParameters, h.path, h.limit, h.search, hpage, hfilter,
      hcolumns]
  have hsame : executor (q.planWith c (resolvePage q.page) (c.resolveLimit q.limit) keys
      (c.resolveSearch q.searchBy)) = executor (r.planWith c (resolvePage r.page)
        (c.resolveLimit r.limit) keys (c.resolveSearch r.searchBy)) := by
    rw [hpage, h.limit, h.planWith]
  -- the same plan goes to the executor, so it either fails for both or gives both the same
  cases hfetch : executor (r.planWith c (resolvePage r.page) (c.resolveLimit r.limit) keys
      (c.resolveSearch r.searchBy)) with
  | error e =>
    rw [paginate_eq hkeys', paginate_eq hkeys, hsame, hfetch]
    simp only [Outcome.error_bind]
  | ok fetched =>
    obtain ⟨hok, herror⟩ := paginate_of_fetched executor hkeys hfetch
    obtain ⟨hok', herror'⟩ := paginate_of_fetched executor hkeys' (hsame.trans hfetch)
    rw [hanswer, h.limit, hpage] at hok'
    rw [h.limit, hpage] at herror'
    by_cases hw : Links.Writable (c.resolveLimit r.limit) ∧ Links.Writable (resolvePage r.page) ∧
        Links.Writable (pageCount fetched.2 (c.resolveLimit r.limit))
    · rw [hok hw, hok' hw]
    · rw [herror hw, herror' hw]

/-! ## The request that a link is read as -/

/-- A request for another page, its filter written as links write it. -/
def onPage (r : Request) (page : Int) : Request :=
  { r with page := some page, filter := r.filter.map (Table.map Statements.collapse) }

/-- The request that is read from a link to a page, with everything resolved. -/
def relinked (r : Request) (c : Config) (keys : List SortKey) (page : Int) : Request where
  path := r.path
  page := some page
  limit := some (c.resolveLimit r.limit)
  sortBy := nonempty? keys
  search := r.search
  searchBy := nonempty? ((r.searchBy.map fun _ => c.resolveSearch r.searchBy).getD [])
  filter := r.filter.map (Table.map Statements.collapse)

theorem map_collapse_collapse (f : Option Filter) :
    (f.map (Table.map Statements.collapse)).map (Table.map Statements.collapse) =
      f.map (Table.map Statements.collapse) := by
  cases f with
  | none => rfl
  | some f =>
    have hentries : ((f.map Statements.collapse).map Statements.collapse).entries =
        (f.map Statements.collapse).entries := by
      simp [Table.map, Statements.collapse]
    exact congrArg some (Table.eq_of_entries hentries)

theorem repeats_onPage (c : Config) (r : Request) (page : Int) : Repeats c (r.onPage page) r :=
  ⟨rfl, rfl, rfl, rfl, fun _ => rfl, rfl, map_collapse_collapse r.filter⟩

/-- What a request and its listing must be like for links to be followed: the default order is
allowed, everything a link carries can be written into an address as it is, and a search that is
limited to some columns keeps one of them. -/
structure Linkable (r : Request) (c : Config) : Prop where
  default : c.DefaultAllowed
  path : Address.IsPath r.path.toList
  sortBy : ∀ keys, c.resolveSort r.sortBy = .ok keys →
    ∀ k ∈ keys, Links.Plain k.column ∧ ':' ∉ k.column.toList
  search : ∀ term ∈ r.search, term ≠ "" ∧ Links.Plain term
  searchBy : ∀ requested ∈ r.searchBy, ∀ column ∈ c.resolveSearch (some requested),
    Links.Plain column ∧ IsColumn column
  filter : ∀ f ∈ r.filter, f.entries ≠ [] ∧ ∀ e ∈ f.entries,
    Links.Plain e.1 ∧ '=' ∉ e.1.toList ∧ e.2.toList ≠ [] ∧ ∀ raw ∈ e.2.toList, Links.Plain raw
  found : r.search ≠ none → ∀ requested ∈ r.searchBy, c.searchable.getD [] ≠ [] →
    ∃ column ∈ requested, column ∈ c.searchable.getD []

/-- The search columns of a link are resolved as they were, if something is searched. -/
theorem Linkable.searched (h : r.Linkable c) (hs : r.search ≠ none) :
    c.resolveSearch (nonempty? ((r.searchBy.map fun _ => c.resolveSearch r.searchBy).getD [])) =
      c.resolveSearch r.searchBy := by
  rw [Config.resolveSearch_carried]
  split
  · next hresolved =>
    -- then no column is searched at all, as one of the requested ones would be
    have hnone : c.searchable.getD [] = [] := by
      cases hb : r.searchBy with
      | none =>
        rw [hb] at hresolved
        exact hresolved
      | some requested =>
        apply Classical.byContradiction
        intro hne
        obtain ⟨column, hcolumn, hsearched⟩ := h.found hs requested hb hne
        have hmem : column ∈ c.resolveSearch (some requested) :=
          List.mem_filter.2 ⟨hcolumn, List.contains_iff_mem.2 hsearched⟩
        rw [← hb, hresolved] at hmem
        cases hmem
    rw [hnone, hresolved]
  · rfl

/-- The same columns are carried on. -/
theorem carried_relinked (r : Request) (c : Config) :
    ((nonempty? ((r.searchBy.map fun _ => c.resolveSearch r.searchBy).getD [])).map fun _ =>
      c.resolveSearch (nonempty?
        ((r.searchBy.map fun _ => c.resolveSearch r.searchBy).getD []))).getD [] =
      (r.searchBy.map fun _ => c.resolveSearch r.searchBy).getD [] := by
  rw [Config.resolveSearch_carried]
  cases r.searchBy with
  | none => rfl
  | some requested =>
    simp only [Option.map_some, Option.getD_some]
    -- columns that are all gone are carried as none
    cases c.resolveSearch (some requested) with
    | nil => rfl
    | cons column columns => rfl

/-- A request read from a link repeats the one that the link belongs to. -/
theorem Linkable.repeats_relinked (h : r.Linkable c) {keys : List SortKey}
    (hkeys : c.resolveSort r.sortBy = .ok keys) (page : Int) :
    Repeats c (r.relinked c keys page) r where
  path := rfl
  limit := c.resolveLimit_resolveLimit r.limit
  sortBy := (Config.resolveSort_resolved h.default hkeys).trans hkeys.symm
  search := rfl
  searched := h.searched
  carried := carried_relinked r c
  filter := map_collapse_collapse r.filter

/-- Links of requests that repeat each other are read as the same request. -/
theorem Repeats.relinked (h : Repeats c q r) (keys : List SortKey) (page : Int) :
    q.relinked c keys page = r.relinked c keys page := by
  simp only [Request.relinked, h.path, h.limit, h.search, h.carried, h.filter]

/-! ## Following links -/

variable {executor : Executor α} {p : Page α} {keys : List SortKey} {plan : Plan}

/-- The directions that are allowed are words without signs. -/
theorem plain_direction {sortable : List String} {k : SortKey}
    (h : k.isAllowed sortable = true) : Links.Plain k.direction := by
  have hplain : ∀ direction ∈ SortKey.directions, Links.Plain direction := by decide +kernel
  rw [SortKey.isAllowed, Bool.and_eq_true] at h
  exact hplain _ (List.contains_iff_mem.1 h.2)

/-- What the links of a request carry can be written into an address as it is. -/
theorem Linkable.carries (h : r.Linkable c) (hkeys : c.resolveSort r.sortBy = .ok keys) :
    Links.Carries keys r.search (r.searchBy.map fun _ => c.resolveSearch r.searchBy) r.filter where
  sortBy k hk := by
    obtain ⟨hplain, hcolon⟩ := h.sortBy keys hkeys k hk
    exact ⟨hplain, hcolon, plain_direction ((Config.resolveSort_allowed h.default hkeys).2 k hk)⟩
  search := h.search
  searchBy columns hc column hcolumn := by
    cases hb : r.searchBy with
    | none =>
      rw [hb] at hc
      cases hc
    | some requested =>
      rw [hb] at hc
      cases hc
      exact h.searchBy requested hb column hcolumn
  filter := h.filter

/-- The address of a page of a request is read as the request for that page. -/
theorem Linkable.ofAddress (h : r.Linkable c) (hkeys : c.resolveSort r.sortBy = .ok keys)
    {page : Int} (hpage : Links.Writable page) (hlimit : Links.Writable (c.resolveLimit r.limit)) :
    Request.ofAddress (Links.addressText r.path page (Links.suffix
      (r.linkParameters (c.resolveLimit r.limit) keys (c.resolveSearch r.searchBy)))) =
      .ok (r.relinked c keys page) :=
  Links.ofAddress_link h.path hpage hlimit (h.carries hkeys)

/-- The request of a link is answered with the page that the first request has there. -/
theorem Linkable.paginate_relinked (h : r.Linkable c) (hkeys : c.resolveSort r.sortBy = .ok keys)
    (executor : Executor α) (page : Int) :
    (r.relinked c keys page).paginate executor c = (r.onPage page).paginate executor c := by
  have hrepeats := (h.repeats_relinked hkeys page).trans (repeats_onPage c r page).symm
  have hkeys' : c.resolveSort (r.onPage page).sortBy = .ok keys := hkeys
  exact hrepeats.paginate rfl rfl hkeys' executor

/-- One step of a chain: a link that is there leads to the page of its number. -/
theorem Linkable.follow (h : r.Linkable c) (hkeys : c.resolveSort r.sortBy = .ok keys)
    (hq : Repeats c q r) (hp : q.paginate executor c = .ok p) (name : String) :
    p.follow executor c name =
      match Links.target? p.info.currentPage p.info.totalPages name with
      | none => .ok none
      | some n => (fun next => some (r.relinked c keys n, next)) <$>
          (r.onPage n).paginate executor c := by
  obtain ⟨keys', items, total, hkeys', -, ⟨hlimit, hpage, hpages⟩, rfl⟩ := eq_answer_of_paginate hp
  rw [hq.sortBy, hkeys] at hkeys'
  cases hkeys'
  rw [Page.follow]
  simp only [answer, pageWith, Links.find?_linked]
  cases ht : Links.target? (resolvePage q.page)
      (pageCount total (c.resolveLimit q.limit)) name with
  | none => rfl
  | some n =>
    have hn := Links.writable_target (one_le_resolvePage q.page) hpage hpages ht
    rw [hq.limit] at hlimit
    simp only [Option.map_some, hq.path, hq.limit, hq.linkParameters,
      h.ofAddress hkeys hn hlimit, Outcome.ok_bind, h.paginate_relinked hkeys]
    rfl

/-- Ask for one page after the other by the names of links, without any addresses. -/
def browse (r : Request) (executor : Executor α) (c : Config) (page pages : Int) :
    List String → Outcome (List (Option (Int × Page α)))
  | [] => pure []
  | name :: names =>
    match Links.target? page pages name with
    | none => do return none :: (← browse r executor c page pages names)
    | some n => do
      let p ← (r.onPage n).paginate executor c
      return some (n, p) :: (← browse r executor c p.info.currentPage p.info.totalPages names)

/-- A run along a chain: following links is asking for the pages that they lead to. -/
theorem Linkable.walk_eq_browse (h : r.Linkable c) (hkeys : c.resolveSort r.sortBy = .ok keys)
    (hq : Repeats c q r) (hp : q.paginate executor c = .ok p) (names : List String) :
    p.walk executor c names =
      (fun steps => steps.map (Option.map fun s => (r.relinked c keys s.1, s.2))) <$>
        r.browse executor c p.info.currentPage p.info.totalPages names := by
  -- from link to link the request is another one, but it always repeats the first
  induction names generalizing q p with
  | nil => rfl
  | cons name names ih =>
    rw [Page.walk, h.follow hkeys hq hp, browse]
    cases ht : Links.target? p.info.currentPage p.info.totalPages name with
    | none =>
      -- an absent link leaves the page at hand where it is
      show (p.walk executor c names >>= fun rest => _) = _
      rw [ih hq hp]
      cases r.browse executor c p.info.currentPage p.info.totalPages names <;> rfl
    | some n =>
      cases hnext : (r.onPage n).paginate executor c with
      | error e => simp only [hnext, Outcome.map_error, Outcome.error_bind]
      | ok next =>
        simp only [hnext, Outcome.map_ok, Outcome.ok_bind, Option.map_some, Option.getD_some,
          ih (repeats_onPage c r n) hnext]
        cases r.browse executor c next.info.currentPage next.info.totalPages names <;> rfl

/-- Every page that is reached is the answer for its number. -/
theorem paginate_of_mem_browse {page pages n : Int} {names : List String} {next : Page α}
    {steps : List (Option (Int × Page α))}
    (h : r.browse executor c page pages names = .ok steps) (hmem : some (n, next) ∈ steps) :
    (r.onPage n).paginate executor c = .ok next := by
  induction names generalizing page pages steps with
  | nil =>
    cases h
    cases hmem
  | cons name names ih =>
    rw [browse] at h
    cases ht : Links.target? page pages name with
    | none =>
      rw [ht] at h
      obtain ⟨rest, hrest, hsteps⟩ := Outcome.bind_eq_ok.1 h
      cases hsteps
      -- an absent link adds a step without a page
      rcases List.mem_cons.1 hmem with heq | hmem
      · cases heq
      · exact ih hrest hmem
    | some m =>
      rw [ht] at h
      obtain ⟨p, hp, h⟩ := Outcome.bind_eq_ok.1 h
      obtain ⟨rest, hrest, hsteps⟩ := Outcome.bind_eq_ok.1 h
      cases hsteps
      rcases List.mem_cons.1 hmem with heq | hmem
      · cases heq
        exact hp
      · exact ih hrest hmem

/-- A page is fetched with the plan of a listing, at the slice of its number, and tells of the
listing what another page tells. -/
structure IsPageFor (executor : Executor α) (plan : Plan) (n : Int) (p next : Page α) : Prop where
  fetched : executor (plan.paged (max n 1) p.info.itemsPerPage) =
    .ok (next.items, next.info.totalItems)
  currentPage : next.info.currentPage = max n 1
  itemsPerPage : next.info.itemsPerPage = p.info.itemsPerPage
  sortBy : next.info.sortBy = p.info.sortBy
  search : next.info.search = p.info.search
  searchBy : next.info.searchBy = p.info.searchBy
  filter : next.info.filter = p.info.filter.map (Table.map Statements.collapse)

/-- What is reached by number has the plan of the first answer, sliced for its page. -/
theorem isPageFor_onPage (hplan : r.plan c = .ok plan) (hp : r.paginate executor c = .ok p)
    {n : Int} {next : Page α} (hnext : (r.onPage n).paginate executor c = .ok next) :
    IsPageFor executor plan n p next := by
  obtain ⟨keys, hkeys, rfl⟩ := plan_eq_ok.1 hplan
  obtain ⟨keys₁, items₁, total₁, hkeys₁, -, -, rfl⟩ := eq_answer_of_paginate hp
  obtain ⟨keys₂, items, total, hkeys₂, hfetch, -, rfl⟩ := eq_answer_of_paginate hnext
  have hkeys' : c.resolveSort (r.onPage n).sortBy = .ok keys := hkeys
  rw [hkeys] at hkeys₁
  rw [hkeys'] at hkeys₂
  cases hkeys₁
  cases hkeys₂
  rw [(repeats_onPage c r n).planWith] at hfetch
  exact ⟨hfetch, rfl, rfl, rfl, rfl, rfl, rfl⟩

/-- Chains of links keep the listing.  Whatever links are followed from the first answer to a
request, absent ones being skipped, the requests read from them are the first one with another page
number, and the pages are those that the first request has at these numbers: each is fetched with
the plan of the first request, only sliced for its page, and tells the same of the listing. -/
theorem walk_keeps_listing (h : r.Linkable c) (hplan : r.plan c = .ok plan)
    (hp : r.paginate executor c = .ok p) (names : List String) :
    ∃ keys, c.resolveSort r.sortBy = .ok keys ∧
      p.walk executor c names =
        (fun steps => steps.map (Option.map fun s => (r.relinked c keys s.1, s.2))) <$>
          r.browse executor c p.info.currentPage p.info.totalPages names ∧
      ∀ steps, p.walk executor c names = .ok steps → ∀ q next, some (q, next) ∈ steps →
        ∃ n, q = r.relinked c keys n ∧ q.plan c = .ok (plan.paged (max n 1) p.info.itemsPerPage) ∧
          IsPageFor executor plan n p next := by
  obtain ⟨keys, hkeys, hq⟩ := plan_eq_ok.1 hplan
  have hwalk := h.walk_eq_browse hkeys (Repeats.refl c r) hp names
  refine ⟨keys, hkeys, hwalk, ?_⟩
  intro steps hsteps q next hmem
  rw [hwalk] at hsteps
  -- what is browsed decides, and each step of it becomes a step of the walk
  cases hb : r.browse executor c p.info.currentPage p.info.totalPages names with
  | error e =>
    rw [hb] at hsteps
    cases hsteps
  | ok asked =>
    rw [hb] at hsteps
    cases hsteps
    obtain ⟨step, hstep, heq⟩ := List.mem_map.1 hmem
    cases step with
    | none => cases heq
    | some s =>
      cases heq
      refine ⟨s.1, rfl, ?_, isPageFor_onPage hplan hp (paginate_of_mem_browse hb hstep)⟩
      -- its plan is that of the first request because it repeats it
      have hrepeats := h.repeats_relinked hkeys s.1
      obtain ⟨keys₁, items, total, -, -, -, rfl⟩ := eq_answer_of_paginate hp
      rw [plan_eq_ok]
      refine ⟨keys, hrepeats.sortBy.trans hkeys, ?_⟩
      rw [hrepeats.planWith, hrepeats.limit, hq]
      rfl

def chainConfig : Config where
  sortable := ["id", "title"]
  searchable := some ["title", "text"]
  maxLimit := 8
  defaultSort := some [⟨"id", "DESC"⟩]
  defaultLimit := 8
  criteria := none
  filterable := .ofList [("state", [.eq])]
  maxLimit_pos := by decide
  defaultLimit_pos := by decide

/-- A request with a page size that is too large, an order that is not allowed, a column that is not
searched and a list of one statement. -/
def chainRequest : Request :=
  ⟨"/tickets", some 2, some 50, some [⟨"state", "ASC"⟩], some "disk", some ["title", "state"],
    some (.ofList [("state", .many ["$eq:open"])])⟩

theorem linkable_chain : chainRequest.Linkable chainConfig where
  default := by unfold Config.DefaultAllowed; decide +kernel
  path := by decide +kernel
  sortBy keys hkeys := by
    cases hkeys
    decide +kernel
  search term hterm := by
    cases hterm
    decide +kernel
  searchBy requested hrequested := by
    cases hrequested
    intro column hcolumn
    have hcolumns : chainConfig.resolveSearch (some ["title", "state"]) = ["title"] := rfl
    rw [hcolumns] at hcolumn
    rw [List.mem_singleton.1 hcolumn]
    exact ⟨by decide +kernel, by decide, by decide +kernel, by decide +kernel⟩
  filter f hf := by
    cases hf
    decide +kernel
  found _ requested hrequested _ := by
    cases hrequested
    decide +kernel

/-- Three links from the second of four pages. -/
theorem walk_keeps_listing_chain :
    let executor : Executor (Option Int) := fun plan => .ok ([plan.offset], 25)
    let plan := chainRequest.planWith chainConfig 2 8 [⟨"id", "DESC"⟩] ["title"]
    let p := chainRequest.answer 2 8 [⟨"id", "DESC"⟩] ["title"] [some 8] 25
    chainRequest.Linkable chainConfig ∧ chainRequest.plan chainConfig = .ok plan ∧
      chainRequest.paginate executor chainConfig = .ok p ∧
      ∀ steps, p.walk executor chainConfig ["last", "next", "first"] = .ok steps →
        ∀ q next, some (q, next) ∈ steps → ∃ n, IsPageFor executor plan n p next := by
  intro executor plan p
  have hkeys : chainConfig.resolveSort chainRequest.sortBy = .ok [⟨"id", "DESC"⟩] := rfl
  have hplan : chainRequest.plan chainConfig = .ok plan := rfl
  have hsmall : Links.Writable 8 ∧ Links.Writable 2 ∧ Links.Writable 4 :=
    ⟨Links.Writable.of_lt_ten (by decide), Links.Writable.of_lt_ten (by decide),
      Links.Writable.of_lt_ten (by decide)⟩
  have hp : chainRequest.paginate executor chainConfig = .ok p :=
    (paginate_of_fetched executor hkeys rfl).1 hsmall
  refine ⟨linkable_chain, hplan, hp, ?_⟩
  obtain ⟨keys, -, -, hall⟩ := walk_keeps_listing linkable_chain hplan hp ["last", "next", "first"]
  intro steps hsteps q next hmem
  obtain ⟨n, -, -, hpage⟩ := hall steps hsteps q next hmem
  exact ⟨n, hpage⟩

end Request

end Listing
