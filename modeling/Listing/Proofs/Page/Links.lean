import Listing.Page.Links
import Listing.Proofs.Outcome

/-!
# What links are there

Links can be written if the page number and the number of pages have no more digits than are read
back, and then each is the address of a page number (`around_eq`).  `target?` is the page number
that the link of a name leads to, and `find?_linked` says that each link is found under its name.
-/

namespace Listing

namespace Links

/-! ## Numbers that can be written -/

/-- A number has no more digits than are written and read back. -/
def Writable (n : Int) : Prop := n.natAbs < Nat.pow 10 Numeral.maxDigits

instance (n : Int) : Decidable (Writable n) :=
  inferInstanceAs (Decidable (n.natAbs < Nat.pow 10 Numeral.maxDigits))

theorem Writable.of_le {m n : Int} (h : Writable n) (hm : m.natAbs ≤ n.natAbs) : Writable m :=
  Nat.lt_of_le_of_lt hm h

theorem Writable.of_lt_ten {n : Int} (h : n.natAbs < 10) : Writable n := by
  have hpow : ∀ digits, digits ≠ 0 → 10 ≤ Nat.pow 10 digits := fun digits hd =>
    Nat.le_self_pow hd 10
  exact Nat.lt_of_lt_of_le h (hpow Numeral.maxDigits (by decide))

theorem Writable.one : Writable 1 := Writable.of_lt_ten (by decide)

theorem Writable.lt_bound {n : Int} (h : Writable n) : n.natAbs < Nat.pow 10 Numeral.maxDigits := h

theorem numberText_eq (n : Int) :
    numberText n = if Writable n then .ok (intText n) else .error .tooManyDigits := rfl

-- the bound itself is never computed with again
attribute [irreducible] Writable

def addressText (path : String) (page : Int) (suffix : String) : String :=
  path ++ "?page=" ++ intText page ++ suffix

theorem address_eq (path : String) (page : Int) (suffix : String) :
    address path page suffix =
      if Writable page then .ok (addressText path page suffix) else .error .tooManyDigits := by
  rw [address, numberText_eq]
  by_cases h : Writable page <;> simp [h, addressText]

/-- An address that is not wanted is no reason to fail. -/
theorem address?_eq (wanted : Bool) (path : String) (page : Int) (suffix : String) :
    address? wanted path page suffix =
      if wanted = true → Writable page then
        .ok (if wanted then some (addressText path page suffix) else none)
      else .error .tooManyDigits := by
  cases wanted with
  | false => rfl
  | true =>
    rw [address?, address_eq]
    by_cases h : Writable page <;> simp [h]

def parameters (limit : Int) (sortBy : List SortKey) (search : Option String)
    (searchBy : Option (List String)) (filter : List (String × Statements)) :
    List (String × String) :=
  [("limit", intText limit)] ++
    (sortBy.map fun k => ("sortBy", k.column ++ ":" ++ k.direction)) ++
    ((search.toList.filter fun s => !s.isEmpty).map fun s => ("search", s)) ++
    ((searchBy.getD []).map fun column => ("searchBy", column)) ++
    filterPairs filter

theorem pairs_eq (limit : Int) (sortBy : List SortKey) (search : Option String)
    (searchBy : Option (List String)) (filter : List (String × Statements)) :
    pairs limit sortBy search searchBy filter =
      if Writable limit then .ok (parameters limit sortBy search searchBy filter)
      else .error .tooManyDigits := by
  rw [pairs, numberText_eq]
  by_cases h : Writable limit <;> simp [h, parameters]

/-! ## The links around a page -/

def linked (path : String) (page pages : Int) (suffix : String) : Links where
  first := if page != 1 then some (addressText path 1 suffix) else none
  previous := if 1 ≤ page - 1 then some (addressText path (page - 1) suffix) else none
  current := addressText path page suffix
  next := if page + 1 ≤ pages then some (addressText path (page + 1) suffix) else none
  last := if page != pages then some (addressText path pages suffix) else none

/-- The links around a page are there when its number and the number of pages can be written; the
numbers of the pages between need no more digits. -/
theorem around_eq {page : Int} (hpage : 1 ≤ page) (path : String) (pages : Int) (suffix : String) :
    around path page pages suffix =
      if Writable page ∧ Writable pages then .ok (linked path page pages suffix)
      else .error .tooManyDigits := by
  have hfirst : (page != 1) = true → Writable 1 := fun _ => Writable.one
  -- the first page has a number of one digit, so its link never fails
  rw [around, address?_eq, if_pos hfirst, Outcome.ok_bind]
  simp only [address?_eq, address_eq]
  by_cases hw : Writable page
  · have hprevious : decide (1 ≤ page - 1) = true → Writable (page - 1) := by
      intro h
      apply hw.of_le
      have hle : 1 ≤ page - 1 := of_decide_eq_true h
      omega
    rw [if_pos hprevious, Outcome.ok_bind, if_pos hw, Outcome.ok_bind]
    by_cases hws : Writable pages
    · -- the page behind is at most the last one
      have hnext : decide (page + 1 ≤ pages) = true → Writable (page + 1) := by
        intro h
        apply hws.of_le
        have hle : page + 1 ≤ pages := of_decide_eq_true h
        omega
      have hlast : (page != pages) = true → Writable pages := fun _ => hws
      have hboth : Writable page ∧ Writable pages := ⟨hw, hws⟩
      rw [if_pos hnext, Outcome.ok_bind, if_pos hlast, if_pos hboth]
      simp [linked]
    · -- the last page is another one then, and its number is written
      have hne : (page != pages) = true := by
        simp only [bne_iff_ne, ne_eq]
        rintro rfl
        exact hws hw
      have hlast : ¬((page != pages) = true → Writable pages) := fun h => hws (h hne)
      have hboth : ¬(Writable page ∧ Writable pages) := fun h => hws h.2
      rw [if_neg hlast, if_neg hboth]
      split <;> rfl
  · have hboth : ¬(Writable page ∧ Writable pages) := fun h => hw h.1
    rw [if_neg hw, if_neg hboth]
    split <;> rfl

/-- The page that the link of a name leads to, if that is there. -/
def target? (page pages : Int) (name : String) : Option Int :=
  if name = "first" then if page != 1 then some 1 else none
  else if name = "previous" then if 1 ≤ page - 1 then some (page - 1) else none
  else if name = "current" then some page
  else if name = "next" then if page + 1 ≤ pages then some (page + 1) else none
  else if name = "last" then if page != pages then some pages else none
  else none

/-- A link is found under its name. -/
theorem find?_eq (l : Links) (name : String) :
    l.find? name =
      if name = "first" then l.first
      else if name = "previous" then l.previous
      else if name = "current" then some l.current
      else if name = "next" then l.next
      else if name = "last" then l.last
      else none := by
  -- a link that is absent has no entry, and the entries behind it are looked at
  have hnamed : ∀ (n : String) (link : Option String) (rest : List (String × String)),
      ((link.map fun s => (n, s)).toList ++ rest).lookup name =
        if name = n then link.or (rest.lookup name) else rest.lookup name := by
    intro n link rest
    cases link with
    | none => simp
    | some s =>
      by_cases h : name = n
      · simp [h]
      · have hne : (name == n) = false := by simpa using h
        simp [List.lookup_cons, hne, h]
  -- the link of the page itself is the only one that is always there
  have hcurrent : ∀ rest : List (String × String),
      ([("current", l.current)] ++ rest).lookup name =
        if name = "current" then some l.current else rest.lookup name := by
    intro rest
    by_cases h : name = "current"
    · simp [h]
    · have hne : (name == "current") = false := by simpa using h
      simp [List.lookup_cons, hne, h]
  have hlast := hnamed "last" l.last []
  rw [List.append_nil] at hlast
  simp only [find?, toList, List.append_assoc, hnamed, hcurrent, hlast, List.lookup_nil,
    Option.or_none]
  by_cases h1 : name = "first"
  · subst h1; simp
  by_cases h2 : name = "previous"
  · subst h2; simp
  by_cases h3 : name = "current"
  · simp [h3]
  by_cases h4 : name = "next"
  · subst h4; simp
  simp [h1, h2, h3, h4]

/-- The links around a page lead to their targets. -/
theorem find?_linked (path : String) (page pages : Int) (suffix name : String) :
    (linked path page pages suffix).find? name =
      (target? page pages name).map fun n => addressText path n suffix := by
  rw [find?_eq, target?]
  simp only [linked, apply_ite (Option.map fun n => addressText path n suffix), Option.map_some,
    Option.map_none]

/-- A link leads to a page whose number can be written. -/
theorem writable_target {page pages n : Int} {name : String} (hpage : 1 ≤ page)
    (hw : Writable page) (hws : Writable pages) (h : target? page pages name = some n) :
    Writable n := by
  -- name by name: a number between one and the last page has no more digits than theirs
  unfold target? at h
  split at h
  · split at h <;> cases h
    exact Writable.one
  split at h
  · split at h <;> cases h
    apply hw.of_le
    omega
  split at h
  · cases h
    exact hw
  split at h
  · split at h <;> cases h
    apply hws.of_le
    omega
  split at h
  · split at h <;> cases h
    exact hws
  · cases h

end Links

end Listing
