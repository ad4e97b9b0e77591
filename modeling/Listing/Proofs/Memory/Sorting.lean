import Listing.Memory.Sort
import Listing.Proofs.Outcome

/-!
# What sorting does to items

Sorting neither loses nor repeats an item (`sortByKeys_perm`).  If the values under each key can be
compared and are ranked by it, sorting succeeds, and of two items in the result the first is never
beaten by the second: `sortByKeys_pairwise` compares them by the first key, then by the later keys
one after the other, and last by any relation that the items had to begin with.  With their original
order as that relation it says that sorting is stable.
-/

namespace Listing.Memory

variable {α : Type} {before : α → α → Outcome Bool}

/-! ## No item is lost or repeated -/

theorem insert_perm {x : α} {ys zs : List α} (h : insert before x ys = .ok zs) :
    zs.Perm (x :: ys) := by
  induction ys generalizing zs with
  | nil =>
    cases h
    exact List.Perm.refl _
  | cons y ys ih =>
    obtain ⟨b, -, hb⟩ := Outcome.bind_eq_ok.1 h
    cases b with
    | true =>
      cases hb
      exact List.Perm.refl _
    | false =>
      obtain ⟨rest, hrest, hz⟩ := Outcome.bind_eq_ok.1 hb
      cases hz
      exact ((ih hrest).cons y).trans (List.Perm.swap x y ys)

/-- Inserting items one after the other adds just these items. -/
theorem foldlM_insert_perm {xs ys zs : List α}
    (h : xs.foldlM (fun sorted x => insert before x sorted) ys = .ok zs) :
    zs.Perm (xs ++ ys) := by
  induction xs generalizing ys with
  | nil =>
    cases h
    exact List.Perm.refl _
  | cons x xs ih =>
    rw [List.foldlM_cons] at h
    obtain ⟨sorted, hsorted, hrest⟩ := Outcome.bind_eq_ok.1 h
    have hins : (xs ++ sorted).Perm (xs ++ x :: ys) := (insert_perm hsorted).append_left xs
    exact ((ih hrest).trans hins).trans List.perm_middle

/-- Sorting keeps the items. -/
theorem sortWith_perm {xs ys : List α} (h : sortWith before xs = .ok ys) : ys.Perm xs := by
  simpa using foldlM_insert_perm h

theorem sortByKey_perm {view : α → Value} {key : SortKey} {xs ys : List α}
    (h : sortByKey view key xs = .ok ys) : ys.Perm xs := by
  unfold sortByKey at h
  split at h
  · obtain ⟨sorted, hsorted, hy⟩ := Outcome.bind_eq_ok.1 h
    cases hy
    exact ((List.reverse_perm sorted).trans (sortWith_perm hsorted)).trans (List.reverse_perm xs)
  · exact sortWith_perm h

theorem sortByKeys_perm {view : α → Value} {keys : List SortKey} {xs ys : List α}
    (h : sortByKeys view keys xs = .ok ys) : ys.Perm xs := by
  induction keys generalizing ys with
  | nil =>
    cases h
    exact List.Perm.refl _
  | cons key keys ih =>
    obtain ⟨sorted, hsorted, hy⟩ := Outcome.bind_eq_ok.1 h
    exact (sortByKey_perm hy).trans (ih hsorted)

/-! ## Order and stability -/

/-- A test that ranks some items, with ties: it succeeds on them, never holds both ways, and an item
that comes before another leaves no third one tied with both. -/
structure Ranks (before : α → α → Outcome Bool) (xs : List α) : Prop where
  answers : ∀ x ∈ xs, ∀ y ∈ xs, ∃ b, before x y = .ok b
  asymm : ∀ x ∈ xs, ∀ y ∈ xs, before x y = .ok true → before y x = .ok false
  cotrans : ∀ x ∈ xs, ∀ y ∈ xs, ∀ z ∈ xs,
    before x y = .ok true → before x z = .ok true ∨ before z y = .ok true

/-- A test that ranks some items ranks any of them. -/
theorem Ranks.of_subset {xs ys : List α} (h : Ranks before xs) (hs : ∀ y ∈ ys, y ∈ xs) :
    Ranks before ys where
  answers x hx y hy := h.answers x (hs x hx) y (hs y hy)
  asymm x hx y hy := h.asymm x (hs x hx) y (hs y hy)
  cotrans x hx y hy z hz := h.cotrans x (hs x hx) y (hs y hy) z (hs z hz)

/-- A test for coming strictly before in an order ranks all items. -/
theorem Ranks.of_order {β : Type} {cmp : β → β → Ordering} [Std.TransCmp cmp] {f : α → β}
    {xs : List α} (h : ∀ x ∈ xs, ∀ y ∈ xs, before x y = .ok (cmp (f x) (f y) == .lt)) :
    Ranks before xs where
  answers x hx y hy := ⟨_, h x hx y hy⟩
  asymm x hx y hy hlt := by
    have hswap : cmp (f y) (f x) = (cmp (f x) (f y)).swap := Std.OrientedCmp.eq_swap
    rw [h x hx y hy, Except.ok.injEq, beq_iff_eq] at hlt
    rw [h y hy x hx, hswap, hlt]
    rfl
  cotrans x hx y hy z hz hlt := by
    rw [h x hx y hy, Except.ok.injEq, beq_iff_eq] at hlt
    rw [h x hx z hz, h z hz y hy, Except.ok.injEq, Except.ok.injEq, beq_iff_eq, beq_iff_eq]
    by_cases hxz : cmp (f x) (f z) = .lt
    · exact Or.inl hxz
    · -- `z` does not come behind `x`, which comes before `y`
      have hswap : cmp (f z) (f x) = (cmp (f x) (f z)).swap := Std.OrientedCmp.eq_swap
      have hzx : (cmp (f z) (f x)).isLE := by
        rw [hswap]
        cases hc : cmp (f x) (f z) with
        | lt => exact absurd hc hxz
        | eq => rfl
        | gt => rfl
      exact Or.inr (Std.TransCmp.lt_of_isLE_of_lt hzx hlt)

/-- The same test with its sides exchanged ranks the items the other way round. -/
theorem Ranks.flip {xs : List α} (h : Ranks before xs) : Ranks (fun x y => before y x) xs where
  answers x hx y hy := h.answers y hy x hx
  asymm x hx y hy := h.asymm y hy x hx
  -- the two ways out change places with the sides
  cotrans x hx y hy z hz hyx := (h.cotrans y hy x hx z hz hyx).symm

/-- The first of two items is not beaten by the second; if they are tied, a relation holds. -/
def NotBeaten (before : α → α → Outcome Bool) (R : α → α → Prop) (x y : α) : Prop :=
  before y x = .ok false ∧ (before x y = .ok true ∨ R x y)

/-- What inserting one item keeps: items stay in order, if those already there stand in the relation
to the new one. -/
theorem insert_pairwise {R : α → α → Prop} {x : α} {ys : List α} (hr : Ranks before (x :: ys))
    (hys : ys.Pairwise (NotBeaten before R)) (hx : ∀ y ∈ ys, R y x) :
    ∃ zs, insert before x ys = .ok zs ∧ zs.Pairwise (NotBeaten before R) := by
  induction ys with
  | nil => exact ⟨[x], rfl, List.pairwise_singleton _ x⟩
  | cons y ys ih =>
    have hmx : x ∈ x :: y :: ys := List.mem_cons_self
    have hmy : y ∈ x :: y :: ys := by simp
    obtain ⟨b, hb⟩ := hr.answers x hmx y hmy
    rw [List.pairwise_cons] at hys
    cases b with
    | true =>
      refine ⟨x :: y :: ys, by rw [insert, hb]; rfl, List.pairwise_cons.2 ⟨?_, ?_⟩⟩
      · -- the new item beats `y`, and so everything that does not beat `y`
        intro z hz
        have hmz : z ∈ x :: y :: ys := List.mem_cons_of_mem x hz
        have hxz : before x z = .ok true := by
          rcases List.mem_cons.1 hz with rfl | hz
          · exact hb
          · rcases hr.cotrans x hmx y hmy z hmz hb with h | h
            · exact h
            · rw [(hys.1 z hz).1] at h
              cases h
        exact ⟨hr.asymm x hmx z hmz hxz, Or.inl hxz⟩
      · exact List.pairwise_cons.2 hys
    | false =>
      -- `y` stays in front, and stands in the relation to `x` if they are tied
      have hsub : ∀ z ∈ x :: ys, z ∈ x :: y :: ys := by
        intro z hz
        rcases List.mem_cons.1 hz with rfl | hz
        · exact hmx
        · simp [hz]
      obtain ⟨zs, hins, hzs⟩ :=
        ih (hr.of_subset hsub) hys.2 fun z hz => hx z (List.mem_cons_of_mem y hz)
      refine ⟨y :: zs, by rw [insert, hb, Outcome.ok_bind, hins]; rfl,
        List.pairwise_cons.2 ⟨?_, hzs⟩⟩
      intro z hz
      rcases List.mem_cons.1 ((insert_perm hins).mem_iff.1 hz) with rfl | hz
      · exact ⟨hb, Or.inr (hx y List.mem_cons_self)⟩
      · exact hys.1 z hz

/-- The same for inserting items one after the other: those still to come stand behind those already
inserted. -/
theorem foldlM_insert_pairwise {R : α → α → Prop} {xs ys : List α}
    (hr : Ranks before (xs ++ ys)) (hxs : xs.Pairwise R)
    (hys : ys.Pairwise (NotBeaten before R)) (hcross : ∀ y ∈ ys, ∀ x ∈ xs, R y x) :
    ∃ zs, xs.foldlM (fun sorted x => insert before x sorted) ys = .ok zs ∧
      zs.Pairwise (NotBeaten before R) := by
  -- what is sorted so far grows; the rest stands behind all of it
  induction xs generalizing ys with
  | nil => exact ⟨ys, rfl, hys⟩
  | cons x xs ih =>
    rw [List.pairwise_cons] at hxs
    have hrx : Ranks before (x :: ys) := hr.of_subset fun z hz => by
      rcases List.mem_cons.1 hz with rfl | hz <;> simp [*]
    obtain ⟨sorted, hins, hsorted⟩ :=
      insert_pairwise hrx hys fun y hy => hcross y hy x List.mem_cons_self
    have hmem : ∀ z ∈ sorted, z = x ∨ z ∈ ys := fun z hz =>
      List.mem_cons.1 ((insert_perm hins).mem_iff.1 hz)
    have hrs : Ranks before (xs ++ sorted) := hr.of_subset fun z hz => by
      rcases List.mem_append.1 hz with hz | hz
      · simp [hz]
      · rcases hmem z hz with rfl | hz <;> simp [*]
    have hc : ∀ z ∈ sorted, ∀ w ∈ xs, R z w := by
      intro z hz w hw
      rcases hmem z hz with rfl | hz
      · exact hxs.1 w hw
      · exact hcross z hz w (List.mem_cons_of_mem x hw)
    obtain ⟨zs, hzs, hp⟩ := ih hrs hxs.2 hsorted hc
    refine ⟨zs, ?_, hp⟩
    rw [List.foldlM_cons, hins]
    exact hzs

/-- Sorting ranked items succeeds, leaves none in front of one that beats it and keeps ties as they
were. -/
theorem sortWith_pairwise {R : α → α → Prop} {xs : List α} (hr : Ranks before xs)
    (hxs : xs.Pairwise R) :
    ∃ ys, sortWith before xs = .ok ys ∧ ys.Pairwise (NotBeaten before R) := by
  have hr' : Ranks before (xs ++ []) := by simpa using hr
  exact foldlM_insert_pairwise hr' hxs List.Pairwise.nil fun y hy => absurd hy List.not_mem_nil

/-- Whether an item comes strictly before another under a sort key. -/
def precedesBy (view : α → Value) (key : SortKey) (x y : α) : Outcome Bool :=
  if key.direction == "DESC" then
    precedes ((view y).field key.column) ((view x).field key.column)
  else precedes ((view x).field key.column) ((view y).field key.column)

/-- How the items of a list sorted by some keys stand to each other: none is beaten by a later one
under the first key, ties are broken by the other keys, and last by a relation. -/
def InOrder (view : α → Value) (R : α → α → Prop) : List SortKey → α → α → Prop
  | [] => R
  | key :: keys => NotBeaten (precedesBy view key) (InOrder view R keys)

/-- One pass puts the items in order by its key and leaves ties as they were, downwards too. -/
theorem sortByKey_pairwise {view : α → Value} {R : α → α → Prop} {key : SortKey} {xs : List α}
    (hr : Ranks (precedesBy view key) xs) (hxs : xs.Pairwise R) :
    ∃ ys, sortByKey view key xs = .ok ys ∧ ys.Pairwise (NotBeaten (precedesBy view key) R) := by
  by_cases hd : (key.direction == "DESC") = true
  · -- sorting the reversed items upwards, then reversing them again
    have hup : (fun x y => precedes ((view x).field key.column) ((view y).field key.column)) =
        fun x y => precedesBy view key y x := by
      funext x y
      simp [precedesBy, hd]
    have hrev : Ranks (fun x y => precedesBy view key y x) xs.reverse :=
      hr.flip.of_subset fun z hz => List.mem_reverse.1 hz
    obtain ⟨ys, hys, hp⟩ := sortWith_pairwise hrev (List.pairwise_reverse.2 hxs)
    refine ⟨ys.reverse, ?_, List.pairwise_reverse.2 hp⟩
    simp only [sortByKey, hd, if_true, hup, hys]
    rfl
  · have hup : (fun x y => precedes ((view x).field key.column) ((view y).field key.column)) =
        precedesBy view key := by
      funext x y
      simp [precedesBy, hd]
    obtain ⟨ys, hys, hp⟩ := sortWith_pairwise hr hxs
    refine ⟨ys, ?_, hp⟩
    simp only [sortByKey, hd, hup]
    exact hys

/-- Sorting items that each key ranks succeeds and puts them in order. -/
theorem sortByKeys_pairwise {view : α → Value} {R : α → α → Prop} {keys : List SortKey}
    {xs : List α} (hr : ∀ key ∈ keys, Ranks (precedesBy view key) xs) (hxs : xs.Pairwise R) :
    ∃ ys, sortByKeys view keys xs = .ok ys ∧ ys.Pairwise (InOrder view R keys) := by
  induction keys with
  | nil => exact ⟨xs, rfl, hxs⟩
  | cons key keys ih =>
    -- the later keys have done their work, and ties of this key keep what they left
    obtain ⟨ys, hys, hp⟩ := ih fun k hk => hr k (List.mem_cons_of_mem key hk)
    have hrk : Ranks (precedesBy view key) ys :=
      (hr key List.mem_cons_self).of_subset fun z hz => (sortByKeys_perm hys).mem_iff.1 hz
    obtain ⟨zs, hzs, hq⟩ := sortByKey_pairwise hrk hp
    refine ⟨zs, ?_, hq⟩
    rw [sortByKeys, hys]
    exact hzs

end Listing.Memory
