import Listing.Proofs.Filter.Lookup
import Listing.Proofs.Plan.Whitelist
import Listing.Proofs.Request.Fields

/-!
# Planning never fails on what a request says

`Request.assemblePlan` takes the steps that lead from a request to its plan, those among them that
can fail as such.  They lead to the plan that the request has (`assemblePlan_eq`), and the only one
that ever fails is the first: a listing without sortable columns has no order for any request.
Nothing else happens before the executor is asked (`planning_fails_iff`).
-/

namespace Listing

namespace Config

/-- Only a listing without a sortable column has no order, and then for no request. -/
theorem resolveSort_eq_error_iff {c : Config} (requested : Option (List SortKey)) {e : Fault} :
    c.resolveSort requested = .error e ↔ c.sortable = [] ∧ e = .noSortableColumns := by
  constructor
  · intro h
    by_cases hs : c.sortable = []
    · rw [resolveSort, hs] at h
      cases h
      exact ⟨hs, rfl⟩
    · -- with a sortable column there is always an order to fall back to
      obtain ⟨keys, hkeys, -⟩ := exists_resolveSort hs requested
      rw [hkeys] at h
      cases h
  · rintro ⟨hs, rfl⟩
    rw [resolveSort, hs]
    rfl

end Config

namespace Request

/-- The plan of a request step by step. -/
def assemblePlan (r : Request) (c : Config) : Outcome Plan := do
  let page := resolvePage r.page
  let limit := c.resolveLimit r.limit
  let sortBy ← c.resolveSort r.sortBy
  let searchBy := c.resolveSearch r.searchBy
  let search ← Predicate.constructAll (r.searchGroup searchBy)
  let filter ← r.filter.toList.mapM fun f => do
    return .all ((← Filter.assemble c.filterable f).map Prod.snd)
  return Plan.paged ⟨baseGroup c ++ search ++ filter, sortBy, none, none⟩ page limit

/-- The steps lead to the plan. -/
theorem assemblePlan_eq (r : Request) (c : Config) : r.assemblePlan c = r.plan c := by
  have hfilter : (r.filter.toList.mapM fun f => do
      return Predicate.all ((← Filter.assemble c.filterable f).map Prod.snd)) =
        .ok (r.filter.toList.map fun f =>
          .all ((Filter.compile c.filterable f).map Prod.snd)) := by
    apply Outcome.mapM_eq_ok
    intro f _
    rw [Filter.assemble_eq]
    rfl
  have hgroup : (r.filter.toList.map fun f =>
      Predicate.all ((Filter.compile c.filterable f).map Prod.snd)) = r.filterGroup c := by
    unfold filterGroup
    cases r.filter <;> rfl
  simp only [assemblePlan, Predicate.constructAll_eq, hfilter, hgroup, Outcome.ok_bind]
  rfl

/-- A request is planned unless its listing cannot be sorted. -/
theorem plan_eq_error_iff {r : Request} {c : Config} {e : Fault} :
    r.plan c = .error e ↔ c.sortable = [] ∧ e = .noSortableColumns := by
  rw [← Config.resolveSort_eq_error_iff r.sortBy, plan]
  cases c.resolveSort r.sortBy with
  | error fault => simp
  | ok keys => simp

/-- What is done with what the executor gives for a plan. -/
def finish {α : Type} (r : Request) (c : Config) (plan : Plan) (fetched : List α × Int) :
    Outcome (Page α) := do
  let page := resolvePage r.page
  let limit := c.resolveLimit r.limit
  let searchBy := c.resolveSearch r.searchBy
  let pages ← totalPages fetched.2 limit
  let links ← r.linksWith page limit plan.orderBy searchBy pages
  return r.pageWith page limit plan.orderBy searchBy fetched.1 fetched.2 pages links

/-- A request is answered by planning, asking the executor and finishing the page. -/
theorem paginate_eq_bind {α : Type} (r : Request) (c : Config) (executor : Executor α) :
    r.paginate executor c =
      r.assemblePlan c >>= fun plan => executor plan >>= fun fetched =>
        r.finish c plan fetched := by
  rw [assemblePlan_eq, paginate, plan]
  cases c.resolveSort r.sortBy with
  | error fault => rfl
  | ok keys => rfl

/-- Whatever text a request is read from, there is a request, and planning it fails just when its
listing has no sortable column, always with the same fault.  The executor is asked next, for the
plan that the request has. -/
theorem planning_fails_iff :
    (∀ path text : String, ∃ ps, Parameters.ofValue (.text text) = .ok ps ∧
      ofFields (ofParameters path ps).fields = .ok (ofParameters path ps)) ∧
    ∀ (r : Request) (c : Config),
      (∀ e, r.assemblePlan c = .error e ↔ c.sortable = [] ∧
        e = .failure (.configuration (.text "sortable_columns must contain at least one column")
          (.text "sortable_columns"))) ∧
      r.assemblePlan c = r.plan c ∧
      ∀ {α : Type} (executor : Executor α), r.paginate executor c =
        r.assemblePlan c >>= fun plan => executor plan >>= fun fetched =>
          r.finish c plan fetched := by
  refine ⟨fun path text => ⟨_, rfl, ofFields_ofParameters path _⟩, fun r c => ⟨?_, ?_, ?_⟩⟩
  · intro e
    rw [assemblePlan_eq]
    exact plan_eq_error_iff
  · exact assemblePlan_eq r c
  · exact fun executor => paginate_eq_bind r c executor

end Request

end Listing
