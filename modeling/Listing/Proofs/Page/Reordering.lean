import Listing.Proofs.Page.Rereading
import Listing.Proofs.Request.Reading

/-!
# Parameters in another order

Only among the parameters of one name does the order count.  When the names come in another order,
the request that is read is the same but for the order of the columns of its filter
(`similar_ofParameters`), and the criteria of its plan hold of the same items.  Over items in memory
it is answered as before, or not at all as before (`paginate_reordered`).
-/

namespace Listing

namespace Request

variable {r r' : Request} {c : Config}

/-- Requests that differ at most in the order of the columns of their filters: under each column
there are the same statements. -/
structure Similar (r r' : Request) : Prop where
  path : r'.path = r.path
  page : r'.page = r.page
  limit : r'.limit = r.limit
  sortBy : r'.sortBy = r.sortBy
  search : r'.search = r.search
  searchBy : r'.searchBy = r.searchBy
  filter : r'.filter.map Table.lookup = r.filter.map Table.lookup

theorem Similar.symm (h : Similar r r') : Similar r' r :=
  ⟨h.path.symm, h.page.symm, h.limit.symm, h.sortBy.symm, h.search.symm, h.searchBy.symm,
    h.filter.symm⟩

/-! ## What is read -/

/-- The columns of a filter come in the order of the names that they are read from. -/
theorem readFilter_perm (start : String) {ps ps' : Parameters} (h : ps'.lookup = ps.lookup) :
    (readFilter start ps').entries.Perm (readFilter start ps).entries := by
  rw [entries_readFilter_eq, entries_readFilter_eq]
  exact (Table.perm_iff_lookup_eq.2 h).filterMap (readColumn? start)

/-- Parameters with the same texts under every name make similar requests. -/
theorem similar_ofParameters (path : String) (keys : Keys) {ps ps' : Parameters}
    (h : ps'.lookup = ps.lookup) :
    Similar (ofParameters path ps keys) (ofParameters path ps' keys) := by
  -- every other part is read from the texts of one name
  have htexts : ps'.texts = ps.texts := by
    funext name
    rw [Parameters.texts, Parameters.texts, h]
  have hperm := readFilter_perm keys.filter h
  refine ⟨rfl, ?_, ?_, ?_, ?_, ?_, ?_⟩
  · simp only [ofParameters, htexts]
  · simp only [ofParameters, htexts]
  · simp only [ofParameters, htexts]
  · simp only [ofParameters, htexts]
  · simp only [ofParameters, htexts]
  · have hempty : (readFilter keys.filter ps').isEmpty = (readFilter keys.filter ps).isEmpty :=
      hperm.isEmpty_eq
    simp only [ofParameters, hempty]
    split
    · rfl
    · exact congrArg some (Table.perm_iff_lookup_eq.1 hperm)

/-! ## What is answered -/

/-- The filters of similar requests have the same predicates, in some order. -/
theorem Similar.filterPredicates_perm (h : Similar r r') :
    (r'.filterPredicates c).Perm (r.filterPredicates c) := by
  have hlookup := h.filter
  unfold filterPredicates
  cases hf : r.filter with
  | none =>
    rw [hf, Option.map_none, Option.map_eq_none_iff] at hlookup
    rw [hlookup]
  | some f =>
    rw [hf, Option.map_some] at hlookup
    rcases Option.map_eq_some_iff.1 hlookup with ⟨f', hf', hsame⟩
    have hentries : f'.entries.Perm f.entries := Table.perm_iff_lookup_eq.2 hsame
    rw [hf']
    exact (hentries.filterMap _).map Prod.snd

variable {α : Type} {reg : Registry Memory.Operation} {view : α → Value} {items : List α}

/-- The plans of similar requests fetch the same items: a conjunction does not depend on the order of
its members. -/
theorem Similar.fetch_iff (h : Similar r r') (page limit : Int) (keys : List SortKey)
    (columns : List String) {fetched : List α × Int} :
    Memory.fetch reg view items (r'.planWith c page limit keys columns).toSelection =
        .ok fetched ↔
      Memory.fetch reg view items (r.planWith c page limit keys columns).toSelection =
        .ok fetched := by
  have hsearch : r'.searchGroup columns = r.searchGroup columns := by
    rw [searchGroup, searchGroup, h.search]
  refine Memory.fetch_congr ?_ ?_ ?_ ?_
  · rfl
  · rfl
  · rfl
  · intro found
    -- membership in the conjunction is all that matters to what matches
    apply matching_iff_of_conjunctive
    intro P hall
    rw [Plan.criteria, Plan.criteria, hall, hall, forall_mem_groups hall, forall_mem_groups hall,
      hsearch]
    simp only [h.filterPredicates_perm.mem_iff]

/-- Answers that show the same items, numbered in the same way. -/
structure SameItems (p p' : Page α) : Prop where
  items : p'.items = p.items
  totalItems : p'.info.totalItems = p.info.totalItems
  totalPages : p'.info.totalPages = p.info.totalPages
  currentPage : p'.info.currentPage = p.info.currentPage

/-- A request that is similar to one that is answered is answered alike. -/
theorem Similar.exists_answer (h : Similar r r') {p : Page α}
    (hp : r.paginate (fun q => Memory.fetch reg view items q.toSelection) c = .ok p) :
    ∃ p', r'.paginate (fun q => Memory.fetch reg view items q.toSelection) c = .ok p' ∧
      SameItems p p' := by
  rcases eq_answer_of_paginate hp with ⟨keys, fetched, total, hkeys, hfetch, hwritable, rfl⟩
  have hkeys' : c.resolveSort r'.sortBy = .ok keys := by
    rw [h.sortBy, hkeys]
  have hfetch' : Memory.fetch reg view items (r'.planWith c (resolvePage r'.page)
      (c.resolveLimit r'.limit) keys (c.resolveSearch r'.searchBy)).toSelection =
        .ok (fetched, total) := by
    rw [h.page, h.limit, h.searchBy]
    exact (h.fetch_iff _ _ keys _).2 hfetch
  rw [← h.page, ← h.limit] at hwritable
  refine ⟨_, (paginate_of_fetched _ hkeys' hfetch').1 hwritable, ?_⟩
  refine ⟨rfl, rfl, ?_, ?_⟩
  · show pageCount total (c.resolveLimit r'.limit) = pageCount total (c.resolveLimit r.limit)
    rw [h.limit]
  · show resolvePage r'.page = resolvePage r.page
    rw [h.page]

/-- Parameters in another order, in which those of one name keep theirs, are read as the same request
but for the order of the columns of its filter.  Over items in memory both requests fail, or both are
answered with the same items and the same numbers. -/
theorem paginate_reordered (path s s' : String) (keys : Keys) (c : Config)
    (h : Parameters.Reordered (Parameters.readPairs s.toList) (Parameters.readPairs s'.toList))
    (reg : Registry Memory.Operation) (view : α → Value) (items : List α) :
    let r := ofParameters path (.ofText s) keys
    let r' := ofParameters path (.ofText s') keys
    let executor : Executor α := fun plan => Memory.fetch reg view items plan.toSelection
    Similar r r' ∧
      ((∃ e e', r.paginate executor c = .error e ∧ r'.paginate executor c = .error e') ∨
        ∃ p p', r.paginate executor c = .ok p ∧ r'.paginate executor c = .ok p' ∧
          SameItems p p') := by
  intro r r' executor
  have hsimilar : Similar r r' :=
    similar_ofParameters path keys (Parameters.lookup_ofPairs_reordered h)
  refine ⟨hsimilar, ?_⟩
  cases hp : r.paginate executor c with
  | ok p =>
    rcases hsimilar.exists_answer hp with ⟨p', hp', hsame⟩
    exact Or.inr ⟨p, p', rfl, hp', hsame⟩
  | error e =>
    cases hp' : r'.paginate executor c with
    | error e' => exact Or.inl ⟨e, e', rfl, rfl⟩
    | ok p' =>
      -- an answer to the one would be an answer to the other
      rcases hsimilar.symm.exists_answer hp' with ⟨q, hq, -⟩
      rw [hp] at hq
      cases hq

def jobConfig : Config where
  sortable := ["id"]
  searchable := none
  maxLimit := 100
  defaultSort := none
  defaultLimit := 20
  criteria := none
  filterable := .ofList [("state", [.eq, .not]), ("priority", [.gt])]
  maxLimit_pos := Config.standardMaxLimit_pos
  defaultLimit_pos := Config.standardLimit_pos

def job (id : Nat) : Value :=
  .record [("id", .int id), ("state", if id = 2 then .null else .text "open"),
    ("priority", .int (10 * id))]

def askForJobs (s : String) : Outcome (Page Nat) :=
  (ofParameters "/jobs" (.ofText s)).paginate
    (fun plan => Memory.fetch Memory.registry job [1, 2, 3] plan.toSelection) jobConfig

/-- The statements of a column change places with a parameter between them, not with one another. -/
theorem paginate_reordered_jobs :
    let s := "filter.state=open&filter.priority=$gt:5&filter.state=$not:done"
    let s' := "filter.priority=$gt:5&filter.state=open&filter.state=$not:done"
    Parameters.Reordered (Parameters.readPairs s.toList) (Parameters.readPairs s'.toList) ∧
      ∃ p p', askForJobs s = .ok p ∧ askForJobs s' = .ok p' ∧ SameItems p p' ∧
        p.items = [1, 3] := by
  intro s s'
  have hpairs : Parameters.readPairs s.toList =
      [("filter.state", "open"), ("filter.priority", "$gt:5"), ("filter.state", "$not:done")] := by
    decide +kernel
  have hpairs' : Parameters.readPairs s'.toList =
      [("filter.priority", "$gt:5"), ("filter.state", "open"), ("filter.state", "$not:done")] := by
    decide +kernel
  have hreordered : Parameters.Reordered (Parameters.readPairs s.toList)
      (Parameters.readPairs s'.toList) := by
    intro name
    rw [hpairs, hpairs']
    -- under this name the order is kept, and under any other there is one parameter at most
    by_cases hstate : name = "filter.state"
    · subst hstate
      rfl
    · have hne : ("filter.state" == name) = false := beq_false_of_ne (Ne.symm hstate)
      simp [List.filter_cons, hne]
  refine ⟨hreordered, ?_⟩
  have hitems : (askForJobs s).toOption.map Page.items = some [1, 3] := by decide +kernel
  rcases paginate_reordered "/jobs" s s' {} jobConfig hreordered Memory.registry job [1, 2, 3] with
    ⟨-, ⟨e, e', he, -⟩ | ⟨p, p', hp, hp', hsame⟩⟩
  · have hfault : askForJobs s = .error e := he
    rw [hfault] at hitems
    cases hitems
  · have hanswer : askForJobs s = .ok p := hp
    rw [hanswer] at hitems
    exact ⟨p, p', hp, hp', hsame, Option.some.inj hitems⟩

end Request

end Listing
