import Listing.Plan.Resolve
import Listing.Proofs.Outcome

/-!
# Resolved parts of a request

What a request is resolved to is allowed, and stays as it is when it is resolved again.
-/

namespace Listing

namespace Config

/-- The order that a listing falls back to is one that it allows. -/
def DefaultAllowed (c : Config) : Prop :=
  ∀ keys ∈ c.defaultSort, ∀ k ∈ keys, k.isAllowed c.sortable = true

theorem isAllowed_first {c : Config} {first : String} {rest : List String}
    (h : c.sortable = first :: rest) : SortKey.isAllowed c.sortable ⟨first, "ASC"⟩ = true := by
  have hasc : SortKey.directions.contains "ASC" = true := by decide
  rw [SortKey.isAllowed, h, List.contains_cons, hasc]
  simp

/-- A listing falls back to keys that it allows, if its default order is one of them. -/
theorem fallbackSort_allowed {c : Config} {first : String} {rest : List String}
    (hd : c.DefaultAllowed) (h : c.sortable = first :: rest) :
    c.fallbackSort first ≠ [] ∧ ∀ k ∈ c.fallbackSort first, k.isAllowed c.sortable = true := by
  have hfirst : ∀ k ∈ [(⟨first, "ASC"⟩ : SortKey)], k.isAllowed c.sortable = true := by
    intro k hk
    rw [List.mem_singleton.1 hk]
    exact isAllowed_first h
  unfold fallbackSort
  cases hc : c.defaultSort with
  | none => exact ⟨List.cons_ne_nil _ _, hfirst⟩
  | some keys =>
    cases keys with
    | nil => exact ⟨List.cons_ne_nil _ _, hfirst⟩
    | cons k keys => exact ⟨List.cons_ne_nil _ _, hd (k :: keys) hc⟩

/-- There is a resolved order, and each of its keys is allowed. -/
theorem resolveSort_allowed {c : Config} (hd : c.DefaultAllowed)
    {requested : Option (List SortKey)} {keys : List SortKey}
    (h : c.resolveSort requested = .ok keys) :
    keys ≠ [] ∧ ∀ k ∈ keys, k.isAllowed c.sortable = true := by
  unfold resolveSort at h
  split at h
  · cases h
  · next first rest hs =>
    -- no requested key is allowed, or the allowed ones are kept
    split at h
    · cases h
      exact fallbackSort_allowed hd hs
    · next hne =>
      cases h
      refine ⟨hne, ?_⟩
      intro k hk
      rw [hs]
      have hallowed := (List.mem_filter.1 hk).2
      rwa [hs] at hallowed

/-- The order depends only on the sort keys that are allowed. -/
theorem resolveSort_congr {c : Config} {keys keys' : Option (List SortKey)}
    (h : (keys'.getD []).filter (·.isAllowed c.sortable) =
      (keys.getD []).filter (·.isAllowed c.sortable)) :
    c.resolveSort keys' = c.resolveSort keys := by
  unfold resolveSort
  cases hs : c.sortable with
  | nil => rfl
  | cons first rest =>
    rw [hs] at h
    simp only [h]

/-- An order that was resolved stays as it is. -/
theorem resolveSort_resolved {c : Config} (hd : c.DefaultAllowed)
    {requested : Option (List SortKey)} {keys : List SortKey}
    (h : c.resolveSort requested = .ok keys) : c.resolveSort (nonempty? keys) = .ok keys := by
  obtain ⟨hne, hallowed⟩ := resolveSort_allowed hd h
  have hsome : nonempty? keys = some keys := by
    cases keys with
    | nil => exact absurd rfl hne
    | cons k keys => rfl
  have hfilter : keys.filter (·.isAllowed c.sortable) = keys := List.filter_eq_self.2 hallowed
  rw [hsome]
  unfold resolveSort at h ⊢
  split at h
  · cases h
  · next hs =>
    rw [hs] at hfilter
    rw [hs]
    simp only [Option.getD_some, hfilter]
    rfl

/-- Search columns that were resolved stay as they are. -/
theorem resolveSearch_resolved (c : Config) (requested : List String) :
    c.resolveSearch (some (c.resolveSearch (some requested))) =
      c.resolveSearch (some requested) := by
  show (requested.filter (c.searchable.getD []).contains).filter
    (c.searchable.getD []).contains = _
  rw [List.filter_filter]
  simp only [Bool.and_self]
  rfl

/-- Columns that are carried on are resolved as they were, or as if none had been asked for when
there are none to carry. -/
theorem resolveSearch_carried (c : Config) (requested : Option (List String)) :
    c.resolveSearch (nonempty? ((requested.map fun _ => c.resolveSearch requested).getD [])) =
      if c.resolveSearch requested = [] then c.searchable.getD []
      else c.resolveSearch requested := by
  cases requested with
  | none =>
    have hsame : c.resolveSearch none = c.searchable.getD [] := rfl
    rw [hsame, ite_self]
    rfl
  | some columns =>
    simp only [Option.map_some, Option.getD_some]
    -- with no column left, none is written, and that asks for all
    cases hresolved : c.resolveSearch (some columns) with
    | nil => rfl
    | cons column rest =>
      have hagain := resolveSearch_resolved c columns
      rw [hresolved] at hagain
      exact hagain

end Config

namespace Filter

/-- Whether a single statement stands in a list makes no difference. -/
theorem compile_map_collapse (whitelist : Whitelist) (f : Filter) :
    compile whitelist (f.map Statements.collapse) = compile whitelist f := by
  have hcolumn : ∀ e : String × Statements,
      compileColumn whitelist e.1 e.2.collapse = compileColumn whitelist e.1 e.2 := by
    intro e
    simp [compileColumn]
  show (f.entries.map fun e => (e.1, e.2.collapse)).filterMap _ = _
  rw [List.filterMap_map, compile]
  congr 1
  funext e
  show Option.map _ (compileColumn whitelist e.1 e.2.collapse).1 = _
  rw [hcolumn]

end Filter

end Listing
