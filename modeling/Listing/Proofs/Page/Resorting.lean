import Listing.Proofs.Page.Rereading

/-!
# The order of what is read from a link

Every link of a page carries the sort keys that the page is ordered by, and what is read from it is
resolved again (`LinkSafe.ofAddress_find?`).  The order stays as it is, unless it is one that the
listing falls back to and that its own whitelist passes only in part (`SplitsOrder`): a first page
has all of it, and the pages behind its links only the keys that pass (`resolveSort_again`).
-/

namespace Listing

namespace Config

variable {c : Config} {requested keys : List SortKey}

/-- No requested key qualifies, and of the order that the listing falls back to some keys qualify
and others do not. -/
structure SplitsOrder (c : Config) (requested : List SortKey) : Prop where
  none : ∀ k ∈ requested, ¬k.Qualifies c.sortable
  splits : ∃ keys ∈ c.defaultSort,
    (∃ k ∈ keys, k.Qualifies c.sortable) ∧ ∃ k ∈ keys, ¬k.Qualifies c.sortable

/-- What is left of a resolved order when it is requested: the keys that are allowed, if there are
any. -/
def resorted (c : Config) (keys : List SortKey) : List SortKey :=
  if keys.any (·.isAllowed c.sortable) then keys.filter (·.isAllowed c.sortable) else keys

/-- Of requested keys the allowed ones are kept, if there is one. -/
theorem resolveSort_of_any (hs : c.sortable ≠ [])
    (h : keys.any (·.isAllowed c.sortable) = true) :
    c.resolveSort (some keys) = .ok (keys.filter (·.isAllowed c.sortable)) := by
  have hne : keys.filter (·.isAllowed c.sortable) ≠ [] := by
    obtain ⟨k, hk, hallowed⟩ := List.any_eq_true.1 h
    exact List.ne_nil_of_mem (List.mem_filter.2 ⟨hk, hallowed⟩)
  unfold resolveSort
  split
  · next hnil => exact absurd hnil hs
  · next hsortable =>
    rw [hsortable] at hne ⊢
    split
    · next hnil => exact absurd hnil hne
    · rfl

/-- An order none of whose keys is allowed is one that the listing falls back to, and does again. -/
theorem OrdersBy.resolveSort_of_not_any (h : c.OrdersBy requested keys) (hs : c.sortable ≠ [])
    (hnone : keys.any (·.isAllowed c.sortable) = false) : c.resolveSort (some keys) = .ok keys := by
  have hall : ∀ k ∈ keys, ¬k.Qualifies c.sortable := by
    intro k hk hq
    exact List.any_eq_false.1 hnone k hk (SortKey.isAllowed_iff.2 hq)
  have hgiven : c.defaultSort = some keys ∧ keys ≠ [] := by
    cases h with
    | requested hne _ hqualify _ =>
      obtain ⟨k, hk⟩ := List.exists_mem_of_ne_nil keys hne
      exact absurd (hqualify k hk) (hall k hk)
    | default _ hgiven hne => exact ⟨hgiven, hne⟩
    | first _ _ hsortable =>
      exact absurd (SortKey.isAllowed_iff.1 (isAllowed_first hsortable))
        (hall _ List.mem_cons_self)
  obtain ⟨keys', hkeys', h'⟩ := exists_resolveSort hs (some keys)
  rw [hkeys']
  -- requested again, none of them is kept, so the listing falls back as before
  cases h' with
  | requested hne hsublist hqualify _ =>
    obtain ⟨k, hk⟩ := List.exists_mem_of_ne_nil keys' hne
    exact absurd (hqualify k hk) (hall k (hsublist.subset hk))
  | default _ hgiven' _ => rw [Option.some.inj (hgiven.1.symm.trans hgiven')]
  | first _ habsent _ => exact absurd (habsent keys hgiven.1) hgiven.2

/-- An order that is requested after it was resolved. -/
theorem OrdersBy.resolveSort_eq (h : c.OrdersBy requested keys) (hs : c.sortable ≠ []) :
    c.resolveSort (some keys) = .ok (c.resorted keys) := by
  unfold resorted
  split
  · next hany => exact resolveSort_of_any hs hany
  · next hany => exact h.resolveSort_of_not_any hs (Bool.eq_false_iff.2 hany)

/-- It changes just when it is one that the listing falls back to and allows only in part. -/
theorem OrdersBy.resorted_eq_iff (h : c.OrdersBy requested keys) :
    c.resorted keys = keys ↔ ¬c.SplitsOrder requested := by
  -- what is left is the order itself unless some keys are kept and others are not
  have hparts : c.resorted keys = keys ↔
      ((∃ k ∈ keys, k.Qualifies c.sortable) → ∀ k ∈ keys, k.Qualifies c.sortable) := by
    unfold resorted
    split
    · next hany =>
      simp only [List.any_eq_true, SortKey.isAllowed_iff] at hany
      simp [hany, List.filter_eq_self, SortKey.isAllowed_iff]
    · next hany =>
      simp only [List.any_eq_true, SortKey.isAllowed_iff] at hany
      simp [hany]
  rw [hparts]
  constructor
  · rintro hall ⟨hnone, keys', hgiven', hsome, k, hk, hout⟩
    have hsame : keys = keys' := by
      cases h with
      | requested hne hsublist hqualify _ =>
        obtain ⟨l, hl⟩ := List.exists_mem_of_ne_nil keys hne
        exact absurd (hqualify l hl) (hnone l (hsublist.subset hl))
      | default _ hgiven _ => exact Option.some.inj (hgiven.symm.trans hgiven')
      | first _ habsent _ =>
        rw [habsent keys' hgiven'] at hk
        cases hk
    subst hsame
    exact hout (hall hsome k hk)
  · intro hsplits hsome k hk
    cases h with
    | requested _ _ hqualify _ => exact hqualify k hk
    | default hnone hgiven _ =>
      apply Classical.byContradiction
      intro hout
      exact hsplits ⟨hnone, keys, hgiven, hsome, k, hk, hout⟩
    | first _ _ hsortable =>
      rw [List.mem_singleton.1 hk]
      exact SortKey.isAllowed_iff.1 (isAllowed_first hsortable)

end Config

namespace Request

open Links

variable {α : Type} {c : Config} {r : Request} {executor : Executor α} {p : Page α}

/-- Any link of a page is read as what the link to the page itself is, but for the page number. -/
theorem LinkSafe.ofAddress_find? {name address : String} (hsafe : r.LinkSafe c)
    (hp : r.paginate executor c = .ok p) (hlink : p.links.find? name = some address) :
    ∃ keys n, c.resolveSort r.sortBy = .ok keys ∧
      ofAddress address = .ok { r.reread c keys with page := some n } := by
  obtain ⟨keys, items, total, hkeys, -, ⟨hlimit, hpage, hpages⟩, rfl⟩ := eq_answer_of_paginate hp
  simp only [answer, pageWith, find?_linked, Option.map_eq_some_iff] at hlink
  obtain ⟨n, htarget, rfl⟩ := hlink
  have hn := writable_target (one_le_resolvePage r.page) hpage hpages htarget
  exact ⟨keys, n, hkeys, ofAddress_verbatim hsafe.path hn hlimit (hsafe.verbatim hkeys)⟩

/-- A request has a plan in the order that its sort keys are resolved to. -/
theorem exists_plan_of_resolveSort {keys : List SortKey}
    (h : c.resolveSort r.sortBy = .ok keys) : ∃ plan, r.plan c = .ok plan ∧ plan.orderBy = keys :=
  ⟨_, plan_eq_ok.2 ⟨keys, h, rfl⟩, rfl⟩

/-- The order of a page, requested again, is what is left of it, and so is the order of every page
behind a link.  It is the same order, unless the listing falls back to an order that it allows only
in part. -/
theorem resolveSort_again {c : Config} (h : c.sortable ≠ []) (requested : Option (List SortKey)) :
    ∃ keys, c.resolveSort requested = .ok keys ∧
      c.resolveSort (some keys) = .ok (c.resorted keys) ∧
      (c.resorted keys = keys ↔ ¬c.SplitsOrder (requested.getD [])) ∧
      ∀ {α : Type} (executor : Executor α) (r : Request) (p : Page α), r.sortBy = requested →
        r.LinkSafe c → (∀ k ∈ keys, ':' ∉ k.column.toList) → r.paginate executor c = .ok p →
        ∀ name address, p.links.find? name = some address →
          ∃ q plan plan', ofAddress address = .ok q ∧ q.sortBy = some keys ∧
            r.plan c = .ok plan ∧ plan.orderBy = keys ∧
            q.plan c = .ok plan' ∧ plan'.orderBy = c.resorted keys := by
  obtain ⟨keys, hkeys, horders⟩ := Config.exists_resolveSort h requested
  have hagain := horders.resolveSort_eq h
  refine ⟨keys, hkeys, hagain, horders.resorted_eq_iff, ?_⟩
  rintro α executor r p rfl hsafe hcolons hp name address hlink
  obtain ⟨keys', n, hkeys', hread⟩ := hsafe.ofAddress_find? hp hlink
  rw [hkeys] at hkeys'
  cases hkeys'
  -- no column has a colon, so the keys are read back
  have hsort : nonempty? ((keys.map keyText).filterMap readSortKey?) = some keys := by
    rw [filterMap_readSortKey? hcolons]
    cases keys with
    | nil => exact absurd rfl horders.ne_nil
    | cons k keys => rfl
  obtain ⟨plan, hplan, horder⟩ := exists_plan_of_resolveSort hkeys
  obtain ⟨plan', hplan', horder'⟩ :=
    exists_plan_of_resolveSort (r := { r.reread c keys with page := some n })
      ((congrArg c.resolveSort hsort).trans hagain)
  exact ⟨_, plan, plan', hread, hsort, hplan, horder, hplan', horder'⟩

def archiveConfig : Config where
  sortable := ["id"]
  searchable := none
  maxLimit := 90
  defaultSort := some [⟨"created", "DESC"⟩, ⟨"id", "ASC"⟩]
  defaultLimit := 1
  criteria := none
  filterable := .empty
  maxLimit_pos := by decide
  defaultLimit_pos := by decide

def archiveRequest (sortBy : Option (List SortKey)) : Request :=
  ⟨"/archive", none, none, sortBy, none, none, none⟩

def archived (n : Nat) : Value := .record [("id", .int n), ("created", .int n)]

theorem linkSafe_archive {sortBy : Option (List SortKey)} {keys : List SortKey}
    (hkeys : archiveConfig.resolveSort sortBy = .ok keys)
    (hplain : ∀ k ∈ keys, Plain k.column ∧ Plain k.direction) :
    (archiveRequest sortBy).LinkSafe archiveConfig where
  path := by
    show Address.IsPath "/archive".toList
    decide +kernel
  sortBy keys' hkeys' := by
    cases hkeys.symm.trans hkeys'
    exact hplain
  search := by
    show ∀ term ∈ none, Plain term
    simp
  searchBy := by
    show ∀ requested ∈ none, _
    simp
  filter := by
    show ∀ f ∈ none, _
    simp

/-- A requested order stays as it is behind the link to the next page. -/
theorem resolveSort_again_archive :
    let r := archiveRequest (some [⟨"created", "ASC"⟩, ⟨"id", "DESC"⟩])
    archiveConfig.sortable ≠ [] ∧ ¬archiveConfig.SplitsOrder (r.sortBy.getD []) ∧
      ∃ p address q plan',
        r.paginate (Memory.executor archived [1, 2, 3]) archiveConfig = .ok p ∧
        p.links.find? "next" = some address ∧ ofAddress address = .ok q ∧
        q.sortBy = some [⟨"id", "DESC"⟩] ∧ q.plan archiveConfig = .ok plan' ∧
        plan'.orderBy = [⟨"id", "DESC"⟩] := by
  intro r
  have hkeys : archiveConfig.resolveSort r.sortBy = .ok [⟨"id", "DESC"⟩] := rfl
  have hsortable : archiveConfig.sortable ≠ [] := List.cons_ne_nil _ _
  have hsafe : r.LinkSafe archiveConfig := linkSafe_archive hkeys (by decide +kernel)
  obtain ⟨keys, hkeys', -, hsame, hlinks⟩ := resolveSort_again hsortable r.sortBy
  cases hkeys.symm.trans hkeys'
  have hnext : ((r.paginate (Memory.executor archived [1, 2, 3]) archiveConfig).toOption.bind
      fun p => p.links.find? "next") = some "/archive?page=2&limit=1&sortBy=id:DESC" := by
    decide +kernel
  cases hp : r.paginate (Memory.executor archived [1, 2, 3]) archiveConfig with
  | error fault =>
    rw [hp] at hnext
    cases hnext
  | ok p =>
    rw [hp] at hnext
    obtain ⟨q, plan, plan', hq, hsort, -, -, hplan', horder⟩ :=
      hlinks _ r p rfl hsafe (by decide +kernel) hp _ _ hnext
    exact ⟨hsortable, hsame.1 rfl, p, _, q, plan', rfl, hnext, hq, hsort, hplan', horder⟩

/-- The archive's own order is lost behind the first page: what is new comes first there, and the
pages behind it are in the order of the identifiers, so that the last item is listed twice and the
first one never. -/
theorem archive_resorted :
    let order : List SortKey := [⟨"created", "DESC"⟩, ⟨"id", "ASC"⟩]
    let executor := Memory.executor archived [1, 2, 3]
    archiveConfig.resolveSort none = .ok order ∧
      archiveConfig.resolveSort (some order) = .ok [⟨"id", "ASC"⟩] ∧
      archiveConfig.SplitsOrder [] ∧ (archiveRequest none).LinkSafe archiveConfig ∧
      (((archiveRequest none).paginate executor archiveConfig).toOption.bind fun p =>
        (p.walk executor archiveConfig ["next", "next"]).toOption.map fun steps =>
          p.items :: steps.map fun step => (step.map fun s => s.2.items).getD []) =
        some [[3], [2], [3]] := by
  intro order executor
  refine ⟨rfl, rfl, ⟨by simp, order, rfl, ?_, ?_⟩, ?_, by decide +kernel⟩
  · exact ⟨⟨"id", "ASC"⟩, by simp [order], by simp [archiveConfig], Or.inl rfl⟩
  · exact ⟨⟨"created", "DESC"⟩, by simp [order], fun h => absurd h.1 (by decide)⟩
  · exact linkSafe_archive rfl (by decide +kernel)

end Request

end Listing
