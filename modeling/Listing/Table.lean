/-!
# Tables in order of insertion

A table maps names to values and remembers in which order the names came.  Changing the value of a
name that is there keeps its place, a new name goes to the end.  That names differ is part of the
type, so every way of building a table keeps it.
-/

namespace Listing

/-- Named values in order of insertion, each name once. -/
structure Table (β : Type) where
  entries : List (String × β)
  distinct : (entries.map Prod.fst).Nodup
  deriving Repr

namespace Table

variable {β γ : Type}

/-- Change the value under a name, or add it at the end. -/
def alterEntries (name : String) (f : Option β → β) : List (String × β) → List (String × β)
  | [] => [(name, f none)]
  | (n, v) :: rest =>
    if n = name then (n, f (some v)) :: rest else (n, v) :: alterEntries name f rest

theorem mem_alterEntries {name n : String} {f : Option β → β} {es : List (String × β)} :
    n ∈ (alterEntries name f es).map Prod.fst ↔ n = name ∨ n ∈ es.map Prod.fst := by
  induction es with
  | nil => simp [alterEntries]
  | cons e es ih =>
    obtain ⟨m, v⟩ := e
    unfold alterEntries
    split
    · next h => subst h; simp
    · rw [List.map_cons, List.mem_cons, ih, List.map_cons, List.mem_cons]
      exact or_left_comm

theorem nodup_alterEntries {name : String} {f : Option β → β} {es : List (String × β)}
    (h : (es.map Prod.fst).Nodup) : ((alterEntries name f es).map Prod.fst).Nodup := by
  induction es with
  | nil => simp [alterEntries]
  | cons e es ih =>
    obtain ⟨m, v⟩ := e
    rw [List.map_cons, List.nodup_cons] at h
    unfold alterEntries
    split
    · rw [List.map_cons, List.nodup_cons]; exact h
    · next hm =>
      rw [List.map_cons, List.nodup_cons]
      refine ⟨fun hmem => ?_, ih h.2⟩
      rcases mem_alterEntries.1 hmem with rfl | hmem
      · exact hm rfl
      · exact h.1 hmem

def empty : Table β := ⟨[], List.nodup_nil⟩

/-- The table with the value under a name changed, or added at the end. -/
def alter (t : Table β) (name : String) (f : Option β → β) : Table β :=
  ⟨alterEntries name f t.entries, nodup_alterEntries t.distinct⟩

def put (t : Table β) (name : String) (v : β) : Table β := t.alter name fun _ => v

/-- The table of some entries; the last value of a repeated name counts, at its first place. -/
def ofList (es : List (String × β)) : Table β := es.foldl (fun t e => t.put e.1 e.2) empty

def lookup (t : Table β) (name : String) : Option β := t.entries.lookup name

def names (t : Table β) : List String := t.entries.map Prod.fst

def isEmpty (t : Table β) : Bool := t.entries.isEmpty

def map (f : β → γ) (t : Table β) : Table γ :=
  ⟨t.entries.map fun e => (e.1, f e.2), by
    have h : (t.entries.map fun e => (e.1, f e.2)).map Prod.fst = t.entries.map Prod.fst := by
      simp
    rw [h]; exact t.distinct⟩

/-- The value behind a change is what the change makes of the old one. -/
theorem lookup_alterEntries_self (name : String) (f : Option β → β) (es : List (String × β)) :
    (alterEntries name f es).lookup name = some (f (es.lookup name)) := by
  induction es with
  | nil => simp [alterEntries]
  | cons e es ih =>
    obtain ⟨m, v⟩ := e
    unfold alterEntries
    by_cases h : m = name
    · subst h; simp
    · have h' : (name == m) = false := by simpa using fun e => h e.symm
      simp [h, List.lookup_cons, h', ih]

/-- A change leaves the values under other names alone. -/
theorem lookup_alterEntries_of_ne {name n : String} (hn : n ≠ name) (f : Option β → β)
    (es : List (String × β)) : (alterEntries name f es).lookup n = es.lookup n := by
  have hne : (n == name) = false := by simpa using hn
  induction es with
  | nil => simp [alterEntries, List.lookup_cons, hne]
  | cons e es ih =>
    obtain ⟨m, v⟩ := e
    unfold alterEntries
    split
    · next h => subst h; simp [List.lookup_cons, hne]
    · simp [List.lookup_cons, ih]

end Table

end Listing
