import Listing.Proofs.Filter.Compile
import Listing.Proofs.Plan.Resolving
import Listing.Proofs.Plan.Whitelist
import Mathlib.Data.List.Basic
import Mathlib.Data.List.Induction

/-!
# What is rejected has no effect

A sort key, a search column or a statement that the listing does not allow leaves no trace in the
plan, wherever it stands, and of the accepted statements of a column only the last one counts.  So
the plan of a request is the plan of what is left of it without all of these, and it stays the same
when more of them are inserted (`plan_of_rejected`).
-/

namespace Listing

/-! ## Inserting into lists -/

/-- A list with rejected members inserted anywhere.  The other members stay in their order, each the
same up to some relation. -/
inductive Padded {α : Type} (same : α → α → Prop) (rejected : α → Prop) : List α → List α → Prop
  | nil : Padded same rejected [] []
  | keep {a b : α} {xs ys : List α} (hab : same a b) (h : Padded same rejected xs ys) :
      Padded same rejected (a :: xs) (b :: ys)
  | insert {b : α} {xs ys : List α} (hb : rejected b) (h : Padded same rejected xs ys) :
      Padded same rejected xs (b :: ys)

variable {α β : Type} {same : α → α → Prop} {rejected : α → Prop} {xs ys : List α}

/-- Rejected members leave no trace if nothing is made of them. -/
theorem Padded.filterMap_eq {f : α → Option β} (h : Padded same rejected xs ys)
    (hsame : ∀ a b, same a b → f b = f a) (hrejected : ∀ b, rejected b → f b = none) :
    ys.filterMap f = xs.filterMap f := by
  induction h with
  | nil => rfl
  | keep hab _ ih => rw [List.filterMap_cons, List.filterMap_cons, hsame _ _ hab, ih]
  | insert hb _ ih => rw [List.filterMap_cons_none (hrejected _ hb), ih]

/-- A filter drops what was inserted if that does not pass it. -/
theorem Padded.filter_eq {p : α → Bool} (h : Padded Eq (fun a => p a = false) xs ys) :
    ys.filter p = xs.filter p := by
  rw [← List.filterMap_eq_filter]
  refine h.filterMap_eq ?_ ?_
  · rintro a b rfl
    rfl
  · intro b hb
    exact Option.guard_eq_none_iff.2 (by simp [hb])

/-- What is made of the last member that something is made of. -/
theorem getLast?_filterMap_last (f : α → Option β) (xs : List α) :
    ((xs.filter fun a => (f a).isSome).getLast?.toList.filterMap f).getLast? =
      (xs.filterMap f).getLast? := by
  -- the last member decides, so the list is built from its end
  induction xs using List.reverseRecOn with
  | nil => rfl
  | append_singleton xs a ih =>
    rw [List.filter_append, List.filterMap_append]
    cases ha : f a with
    | none => simpa [ha] using ih
    | some b =>
      -- the last member is taken on both sides, whatever stands before it
      simp [ha]

/-! ## Filters -/

namespace Filter

variable {whitelist : Whitelist} {f f' : Filter}

/-- The last accepted statement of a column, if there is one. -/
def lastAccepted (whitelist : Whitelist) (column : String) (s : Statements) : Statements :=
  .ofList (s.toList.filter fun raw => (accepted? whitelist column raw).isSome).getLast?.toList

/-- What is left of a filter: the columns of the whitelist, each with its last accepted statement. -/
def reduced (whitelist : Whitelist) (f : Filter) : Filter where
  entries := (f.entries.filter fun e => (whitelist.lookup e.1).isSome).map fun e =>
    (e.1, lastAccepted whitelist e.1 e.2)
  distinct := by
    rw [List.map_map]
    exact f.distinct.sublist (List.filter_sublist.map Prod.fst)

/-- Statements of a column that are all rejected. -/
def Rejects (whitelist : Whitelist) (e : String × Statements) : Prop :=
  ∀ raw ∈ e.2.toList, accepted? whitelist e.1 raw = none

/-- The same column with rejected statements inserted. -/
def PadsColumn (whitelist : Whitelist) (e e' : String × Statements) : Prop :=
  e.1 = e'.1 ∧ Padded Eq (fun raw => accepted? whitelist e.1 raw = none) e.2.toList e'.2.toList

/-- The same filter with rejected statements inserted, on columns that are there and on others. -/
def Pads (whitelist : Whitelist) (f f' : Filter) : Prop :=
  Padded (PadsColumn whitelist) (Rejects whitelist) f.entries f'.entries

/-- The predicate of a column is that of its last accepted statement. -/
theorem compileColumn_lastAccepted (whitelist : Whitelist) (column : String) (s : Statements) :
    (compileColumn whitelist column (lastAccepted whitelist column s)).1 =
      (compileColumn whitelist column s).1 := by
  rw [compileColumn_fst, compileColumn_fst, lastAccepted, Statements.toList_ofList]
  exact getLast?_filterMap_last (accepted? whitelist column) s.toList

theorem compileColumn_of_rejects {e : String × Statements} (h : Rejects whitelist e) :
    (compileColumn whitelist e.1 e.2).1 = none := by
  rw [compileColumn_fst, List.filterMap_eq_nil_iff.2 h]
  rfl

/-- Rejected statements do not change the predicate of their column. -/
theorem PadsColumn.compileColumn_eq {e e' : String × Statements} (h : PadsColumn whitelist e e') :
    (compileColumn whitelist e'.1 e'.2).1 = (compileColumn whitelist e.1 e.2).1 := by
  rw [compileColumn_fst, compileColumn_fst, ← h.1]
  congr 1
  refine h.2.filterMap_eq ?_ fun _ hraw => hraw
  rintro raw _ rfl
  rfl

/-- Outside the whitelist every statement is rejected. -/
theorem rejects_of_outside {e : String × Statements} (h : whitelist.lookup e.1 = none) :
    Rejects whitelist e := fun raw _ => accepted?_of_outside h raw

/-- What is left of a filter compiles to the same predicates. -/
theorem compile_reduced (whitelist : Whitelist) (f : Filter) :
    compile whitelist (f.reduced whitelist) = compile whitelist f := by
  unfold compile reduced
  rw [List.filterMap_map, List.filterMap_filter]
  apply List.filterMap_congr
  intro e _
  -- a column outside the whitelist is left out, and it had no predicate before
  split
  · show Option.map _ (compileColumn whitelist e.1 (lastAccepted whitelist e.1 e.2)).1 = _
    rw [compileColumn_lastAccepted]
  · next hout =>
    rw [compileColumn_of_rejects (rejects_of_outside (by simpa using hout))]
    rfl

/-- A filter with rejected statements inserted compiles to the same predicates. -/
theorem Pads.compile_eq (h : Pads whitelist f f') : compile whitelist f' = compile whitelist f := by
  -- columns that are padded keep their predicate, and those that are inserted have none
  refine Padded.filterMap_eq h ?_ ?_
  · intro e e' he
    rw [he.compileColumn_eq, he.1]
  · intro e he
    rw [compileColumn_of_rejects he]
    rfl

end Filter

/-! ## Requests -/

namespace Request

variable {r r' : Request} {c : Config}

/-- What is left of a request without all that is rejected. -/
def reduced (r : Request) (c : Config) : Request :=
  { r with
    sortBy := r.sortBy.map fun keys => keys.filter (·.isAllowed c.sortable)
    searchBy := r.searchBy.map fun columns => columns.filter (c.searchable.getD []).contains
    filter := r.filter.map (Filter.reduced c.filterable) }

/-- The same request with rejected sort keys, search columns and statements inserted into those that
it has. -/
structure Pads (c : Config) (r r' : Request) : Prop where
  path : r'.path = r.path
  page : r'.page = r.page
  limit : r'.limit = r.limit
  search : r'.search = r.search
  sortBy : ∃ keys keys', r.sortBy = some keys ∧ r'.sortBy = some keys' ∧
    Padded Eq (fun k => k.isAllowed c.sortable = false) keys keys'
  searchBy : ∃ columns columns', r.searchBy = some columns ∧ r'.searchBy = some columns' ∧
    Padded Eq (fun column => (c.searchable.getD []).contains column = false) columns columns'
  filter : ∃ f f', r.filter = some f ∧ r'.filter = some f' ∧ f.Pads c.filterable f'

/-- Answering a request asks the executor for one plan, and makes the answer of what it gives. -/
def AsksFor (r : Request) (c : Config) (plan : Plan) : Prop :=
  r.plan c = .ok plan ∧ ∀ α : Type, ∃ finish : List α × Int → Outcome (Page α),
    ∀ executor : Executor α, r.paginate executor c = executor plan >>= finish

/-- A request that has a plan asks for it. -/
theorem AsksFor.of_plan {plan : Plan} (h : r.plan c = .ok plan) : r.AsksFor c plan := by
  rcases plan_eq_ok.1 h with ⟨keys, hkeys, rfl⟩
  exact ⟨h, fun α => ⟨_, fun executor => paginate_eq hkeys executor⟩⟩

/-- Of the sort keys, the search columns and the filter of a request, its plan has only what they
are resolved and compiled to. -/
theorem plan_congr (hpage : r'.page = r.page) (hlimit : r'.limit = r.limit)
    (hsearch : r'.search = r.search) (hsort : c.resolveSort r'.sortBy = c.resolveSort r.sortBy)
    (hcolumns : c.resolveSearch r'.searchBy = c.resolveSearch r.searchBy)
    (hfilter : r'.filter.map (Filter.compile c.filterable) =
      r.filter.map (Filter.compile c.filterable)) : r'.plan c = r.plan c := by
  have hgroup : r'.filterGroup c = r.filterGroup c := by
    have hcompiled := congrArg (Option.map fun ps => Predicate.all (ps.map Prod.snd)) hfilter
    rw [Option.map_map, Option.map_map] at hcompiled
    exact congrArg Option.toList hcompiled
  have hsame : r'.searchGroup = r.searchGroup := by
    funext columns
    rw [searchGroup, searchGroup, hsearch]
  unfold plan planWith
  rw [hsort, hcolumns, hpage, hlimit, hsame, hgroup]

/-- What is left of a request has the same plan. -/
theorem plan_reduced (r : Request) (c : Config) : (r.reduced c).plan c = r.plan c := by
  refine plan_congr rfl rfl rfl ?_ ?_ ?_
  · apply Config.resolveSort_congr
    cases hs : r.sortBy with
    | none => simp [reduced, hs]
    | some keys => simp [reduced, hs]
  · cases hs : r.searchBy with
    | none => simp [reduced, hs]
    | some columns =>
      show Config.resolveSearch c (r.searchBy.map _) = _
      rw [hs]
      exact c.resolveSearch_resolved columns
  · show (r.filter.map (Filter.reduced c.filterable)).map _ = _
    rw [Option.map_map]
    congr 1
    funext f
    exact Filter.compile_reduced c.filterable f

/-- Inserting what is rejected keeps the plan. -/
theorem Pads.plan_eq (h : r.Pads c r') : r'.plan c = r.plan c := by
  rcases h.sortBy with ⟨keys, keys', hkeys, hkeys', hsort⟩
  rcases h.searchBy with ⟨columns, columns', hcolumns, hcolumns', hsearch⟩
  rcases h.filter with ⟨f, f', hf, hf', hfilter⟩
  -- sort keys and search columns are filtered, statements are compiled: each drops what is inserted
  refine plan_congr h.page h.limit h.search ?_ ?_ ?_
  · apply Config.resolveSort_congr
    rw [hkeys, hkeys']
    exact hsort.filter_eq
  · rw [hcolumns, hcolumns']
    exact hsearch.filter_eq
  · rw [hf, hf', Option.map_some, Option.map_some, hfilter.compile_eq]

/-- What is rejected has no effect: a listing with a sortable column asks for the same plan when a
request is reduced to what is accepted and when more that is rejected is inserted. -/
theorem plan_of_rejected (r : Request) {c : Config} (h : c.sortable ≠ []) :
    ∃ plan, r.AsksFor c plan ∧ (r.reduced c).AsksFor c plan ∧
      ∀ r', r.Pads c r' → r'.AsksFor c plan := by
  rcases Config.exists_resolveSort h r.sortBy with ⟨keys, hkeys, -⟩
  have hplan := plan_eq_ok.2 ⟨keys, hkeys, rfl⟩
  refine ⟨_, .of_plan hplan, .of_plan ?_, ?_⟩
  · rw [plan_reduced, hplan]
  · intro r' hpads
    exact .of_plan (by rw [hpads.plan_eq, hplan])

def accountRequest (keys : List SortKey) (columns : List String) (f : Filter) : Request :=
  ⟨"/accounts", none, none, some keys, some "x", some columns, some f⟩

/-- Two statements are accepted, of which the last one counts; a key, a column and two statements
that are not allowed make no difference. -/
theorem plan_of_rejected_accounts :
    let r := accountRequest [⟨"name", "DESC"⟩] ["name"]
      (.ofList [("state", .many ["$not:open", "$eq:done"])])
    let left := accountRequest [⟨"name", "DESC"⟩] ["name"] (.ofList [("state", .one "$eq:done")])
    let r' := accountRequest [⟨"secret", "ASC"⟩, ⟨"name", "DESC"⟩] ["name", "secret"]
      (.ofList [("secret", .one "x"), ("state", .many ["$not:open", "$eq:done", "$gt:a"])])
    accountConfig.sortable ≠ [] ∧ r.reduced accountConfig = left ∧ r.Pads accountConfig r' ∧
      ∃ plan, r.AsksFor accountConfig plan ∧ left.AsksFor accountConfig plan ∧
        r'.AsksFor accountConfig plan := by
  intro r left r'
  have hsortable : accountConfig.sortable ≠ [] := by decide
  have hleft : r.reduced accountConfig = left := rfl
  have hpads : r.Pads accountConfig r' := by
    refine ⟨rfl, rfl, rfl, rfl, ⟨_, _, rfl, rfl, ?_⟩, ⟨_, _, rfl, rfl, ?_⟩, ⟨_, _, rfl, rfl, ?_⟩⟩
    · exact .insert (by decide) (.keep rfl .nil)
    · exact .keep rfl (.insert (by decide) .nil)
    · refine .insert (Filter.rejects_of_outside rfl) (.keep ⟨rfl, ?_⟩ .nil)
      exact .keep rfl (.keep rfl (.insert rfl .nil))
  rcases plan_of_rejected r hsortable with ⟨plan, hr, hreduced, hpadded⟩
  exact ⟨hsortable, hleft, hpads, plan, hr, hleft ▸ hreduced, hpadded r' hpads⟩

end Request

end Listing
