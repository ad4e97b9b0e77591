import Listing.Table

/-!
# Tables of distinct names

Entries whose names differ are a table just as they are (`entries_ofList`): a new name goes to the
end and nothing is replaced.  But for their order, entries are determined by the values under all
names (`perm_iff_lookup_eq`).
-/

namespace Listing.Table

variable {β : Type}

/-- A table is its entries. -/
theorem eq_of_entries {t u : Table β} (h : t.entries = u.entries) : t = u := by
  cases t
  cases u
  cases h
  rfl

/-- The table with the values that pass a test. -/
def filter (p : β → Bool) (t : Table β) : Table β :=
  ⟨t.entries.filter fun e => p e.2, t.distinct.sublist (List.filter_sublist.map Prod.fst)⟩

/-- A new name goes to the end. -/
theorem alterEntries_of_not_mem {name : String} {es : List (String × β)} (f : Option β → β)
    (h : name ∉ es.map Prod.fst) : alterEntries name f es = es ++ [(name, f none)] := by
  induction es with
  | nil => rfl
  | cons e es ih =>
    obtain ⟨m, v⟩ := e
    rw [List.map_cons, List.mem_cons, not_or] at h
    have hne : m ≠ name := fun hm => h.1 hm.symm
    rw [alterEntries, if_neg hne, ih h.2]
    rfl

/-- The name at the end is changed there. -/
theorem alterEntries_last {name : String} {es : List (String × β)} (f : Option β → β) (v : β)
    (h : name ∉ es.map Prod.fst) :
    alterEntries name f (es ++ [(name, v)]) = es ++ [(name, f (some v))] := by
  induction es with
  | nil => simp [alterEntries]
  | cons e es ih =>
    obtain ⟨m, w⟩ := e
    rw [List.map_cons, List.mem_cons, not_or] at h
    have hne : m ≠ name := fun hm => h.1 hm.symm
    rw [List.cons_append, alterEntries, if_neg hne, ih h.2]
    rfl

/-- A change under a name that is left out does not show. -/
theorem filter_alterEntries_of_not {keeps : String → Bool} {name : String}
    (h : keeps name = false) (f : Option β → β) (es : List (String × β)) :
    (alterEntries name f es).filter (fun e => keeps e.1) = es.filter fun e => keeps e.1 := by
  induction es with
  | nil => simp [alterEntries, h]
  | cons e es ih =>
    obtain ⟨n, v⟩ := e
    unfold alterEntries
    split
    · next hn =>
      subst hn
      simp [h]
    · rw [List.filter_cons, List.filter_cons, ih]

/-- A change under a name that is kept is made among the entries that are kept. -/
theorem filter_alterEntries_of_keeps {keeps : String → Bool} {name : String}
    (h : keeps name = true) (f : Option β → β) (es : List (String × β)) :
    (alterEntries name f es).filter (fun e => keeps e.1) =
      alterEntries name f (es.filter fun e => keeps e.1) := by
  induction es with
  | nil => simp [alterEntries, h]
  | cons e es ih =>
    obtain ⟨n, v⟩ := e
    by_cases hn : n = name
    · subst hn
      simp [alterEntries, h]
    · cases hkeeps : keeps n with
      | false => simp [alterEntries, hn, hkeeps, ih]
      | true => simp [alterEntries, hn, hkeeps, ih]

/-- Entries with new names go to the end one by one. -/
theorem entries_foldl_put {es : List (String × β)} {t : Table β}
    (h : ((t.entries ++ es).map Prod.fst).Nodup) :
    (es.foldl (fun t e => t.put e.1 e.2) t).entries = t.entries ++ es := by
  induction es generalizing t with
  | nil => simp
  | cons e es ih =>
    -- a name that is still to come is in no earlier entry
    have hnew : e.1 ∉ t.entries.map Prod.fst := by
      intro hmem
      rw [List.map_append, List.nodup_append] at h
      exact h.2.2 e.1 hmem e.1 (by simp) rfl
    have hput : (t.put e.1 e.2).entries = t.entries ++ [e] := alterEntries_of_not_mem _ hnew
    have hrest : (((t.put e.1 e.2).entries ++ es).map Prod.fst).Nodup := by
      rw [hput, List.append_assoc]
      exact h
    rw [List.foldl_cons, ih hrest, hput, List.append_assoc]
    rfl

theorem entries_ofList {es : List (String × β)} (h : (es.map Prod.fst).Nodup) :
    (ofList es).entries = es := entries_foldl_put (t := empty) h

/-- The value under a name is in the one entry of this name. -/
theorem lookup_eq_some_iff {t : Table β} {name : String} {v : β} :
    t.lookup name = some v ↔ (name, v) ∈ t.entries := by
  have hentries : ∀ es : List (String × β), (es.map Prod.fst).Nodup →
      (es.lookup name = some v ↔ (name, v) ∈ es) := by
    intro es hes
    induction es with
    | nil => simp
    | cons e es ih =>
      obtain ⟨m, w⟩ := e
      rw [List.map_cons, List.nodup_cons] at hes
      by_cases hm : name = m
      · -- no later entry has this name
        subst hm
        have hlater : (name, v) ∉ es := fun hmem =>
          hes.1 (List.mem_map.2 ⟨(name, v), hmem, rfl⟩)
        simp [hlater, eq_comm]
      · have hne : (name == m) = false := by simpa using hm
        simp [List.lookup_cons, hne, hm, ih hes.2]
  exact hentries t.entries t.distinct

theorem nodup_entries (t : Table β) : t.entries.Nodup :=
  List.Pairwise.of_map Prod.fst (fun _ _ hne heq => hne (congrArg Prod.fst heq)) t.distinct

/-- Tables have the same entries, in whatever order, just when they have the same values under all
names. -/
theorem perm_iff_lookup_eq {t u : Table β} : t.entries.Perm u.entries ↔ t.lookup = u.lookup := by
  rw [List.perm_ext_iff_of_nodup t.nodup_entries u.nodup_entries]
  constructor
  · -- without repetitions it is enough to know which entries there are
    intro h
    funext name
    apply Option.ext
    intro v
    rw [lookup_eq_some_iff, lookup_eq_some_iff]
    exact h (name, v)
  · rintro h ⟨name, v⟩
    rw [← lookup_eq_some_iff, ← lookup_eq_some_iff, h]

end Listing.Table
