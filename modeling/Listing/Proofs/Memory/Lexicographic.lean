import Listing.Proofs.Memory.Fetching
import Mathlib.Data.List.Sort

/-!
# Sorting by several keys

Sorting takes one pass for each key, the last key first.  What comes out is the lexicographic order:
of two items the one comes first whose value does under the first key that tells them apart, and
items that no key tells apart stay as they were, downwards too (`fetch_lexicographic`).  To speak of
where equal items stood, their places in the list are sorted in their stead.
-/

namespace Listing

namespace Value

variable {cmp : Value → Value → Ordering} {a b : Value}

/-- Two values compare as an order says. -/
def ComparedBy (cmp : Value → Value → Ordering) (a b : Value) : Prop :=
  a.equal b = .ok (cmp a b == .eq) ∧ (cmp a b ≠ .eq → a.order? b = .ok (some (cmp a b)))

/-- An order of values with the missing value put in front. -/
def nullFirst (cmp : Value → Value → Ordering) : Value → Value → Ordering :=
  compareLex (compareOn fun v => !v.isNull) cmp

instance [Std.TransCmp cmp] : Std.TransCmp (nullFirst cmp) :=
  inferInstanceAs (Std.TransCmp (compareLex _ _))

theorem eq_null_of_isNull (h : a.isNull = true) : a = .null := by
  cases a with
  | null => rfl
  | _ => cases h

/-- Two values of which one is missing, or neither is. -/
theorem isNull_cases (a b : Value) :
    (a.isNull = true ∨ b.isNull = true) ∨ a.isNull = false ∧ b.isNull = false := by
  cases a.isNull with
  | true => exact Or.inl (Or.inl rfl)
  | false =>
    cases b.isNull with
    | true => exact Or.inl (Or.inr rfl)
    | false => exact Or.inr ⟨rfl, rfl⟩

theorem nullFirst_of_values (ha : a.isNull = false) (hb : b.isNull = false) :
    nullFirst cmp a b = cmp a b := by
  simp [nullFirst, compareLex, compareOn, ha, hb]

/-- Where a value is missing, only that is looked at. -/
theorem nullFirst_of_isNull [Std.TransCmp cmp] (h : a.isNull = true ∨ b.isNull = true) :
    nullFirst cmp a b = compare (!a.isNull) (!b.isNull) := by
  rw [nullFirst, compareLex, compareOn]
  cases ha : a.isNull with
  | true =>
    cases hb : b.isNull with
    | true =>
      obtain rfl := eq_null_of_isNull ha
      obtain rfl := eq_null_of_isNull hb
      show cmp .null .null = .eq
      exact Std.ReflCmp.compare_self
    | false => rfl
  | false =>
    have hb : b.isNull = true := h.resolve_left (by simp [ha])
    rw [hb]
    rfl

/-- The missing value is equal to itself only. -/
theorem equal_of_isNull (h : a.isNull = true ∨ b.isNull = true) :
    a.equal b = .ok (a.isNull && b.isNull) := by
  rcases h with h | h
  · obtain rfl := eq_null_of_isNull h
    cases b <;> rfl
  · obtain rfl := eq_null_of_isNull h
    cases a <;> rfl

/-- Values are told to be equal as the extended order says. -/
theorem equal_eq_nullFirst [Std.TransCmp cmp]
    (h : a.isNull = false → b.isNull = false → a.ComparedBy cmp b) :
    a.equal b = .ok (nullFirst cmp a b == .eq) := by
  rcases isNull_cases a b with hnull | ⟨ha, hb⟩
  · rw [equal_of_isNull hnull, nullFirst_of_isNull hnull]
    rcases hnull with h | h
    · rw [h]
      cases b.isNull <;> rfl
    · rw [h]
      cases a.isNull <;> rfl
  · rw [(h ha hb).1, nullFirst_of_values ha hb]

end Value

namespace Memory

variable {α β : Type} {view : α → Value} {order : String → Value → Value → Ordering}

/-- A value precedes another as the extended order says. -/
theorem precedes_eq_nullFirst {cmp : Value → Value → Ordering} [Std.TransCmp cmp] {a b : Value}
    (h : a.isNull = false → b.isNull = false → a.ComparedBy cmp b) :
    precedes a b = .ok (Value.nullFirst cmp a b == .lt) := by
  unfold precedes
  rcases Value.isNull_cases a b with hnull | ⟨ha, hb⟩
  · rw [Value.nullFirst_of_isNull hnull]
    rcases hnull with h | h
    · rw [h]
      cases b.isNull <;> rfl
    · rw [h]
      cases a.isNull <;> rfl
  · obtain ⟨hequal, horder⟩ := h ha hb
    rw [ha, hb, Value.nullFirst_of_values ha hb, hequal]
    by_cases heq : cmp a b = .eq
    · -- equal values are not compared at all
      rw [heq]
      rfl
    · rw [beq_eq_false_iff_ne.2 heq, horder heq]
      cases cmp a b <;> rfl

/-! ## The order of two items under a key -/

/-- The value that an item is sorted by under a key. -/
def keyValue (view : α → Value) (key : SortKey) (x : α) : Value := (view x).field key.column

/-- The order of two values under a key, turned round by the direction `DESC`. -/
def keyOrder (order : String → Value → Value → Ordering) (key : SortKey) (a b : Value) : Ordering :=
  if key.direction == "DESC" then Value.nullFirst (order key.column) b a
  else Value.nullFirst (order key.column) a b

instance [∀ column, Std.TransCmp (order column)] (key : SortKey) :
    Std.TransCmp (keyOrder order key) := by
  unfold keyOrder
  split
  · exact Std.TransCmp.opposite
  · infer_instance

/-- The values of items under a key are missing or compare as an order of the key's column says. -/
def Orders (view : α → Value) (order : String → Value → Value → Ordering) (key : SortKey)
    (xs : List α) : Prop :=
  ∀ x ∈ xs, ∀ y ∈ xs, (keyValue view key x).isNull = false → (keyValue view key y).isNull = false →
    (keyValue view key x).ComparedBy (order key.column) (keyValue view key y)

/-- Two items have equal values under a key. -/
def Tied (view : α → Value) (key : SortKey) (x y : α) : Prop :=
  (keyValue view key x).equal (keyValue view key y) = .ok true

/-- One item comes before another by the first key under which their values differ; if there is
none, a relation holds. -/
def Lexicographic (view : α → Value) (order : String → Value → Value → Ordering)
    (keys : List SortKey) (R : α → α → Prop) (x y : α) : Prop :=
  (∃ before key after, keys = before ++ key :: after ∧ (∀ k ∈ before, Tied view k x y) ∧
    keyOrder order key (keyValue view key x) (keyValue view key y) = .lt) ∨
  ((∀ k ∈ keys, Tied view k x y) ∧ R x y)

section

variable [∀ column, Std.TransCmp (order column)] {key : SortKey} {keys : List SortKey} {xs : List α}
  {x y : α}

theorem tied_iff (h : Orders view order key xs) (hx : x ∈ xs) (hy : y ∈ xs) :
    Tied view key x y ↔ keyOrder order key (keyValue view key x) (keyValue view key y) = .eq := by
  have hswap : Value.nullFirst (order key.column) (keyValue view key y) (keyValue view key x) =
      (Value.nullFirst (order key.column) (keyValue view key x) (keyValue view key y)).swap :=
    Std.OrientedCmp.eq_swap
  rw [Tied, Value.equal_eq_nullFirst (h x hx y hy), Except.ok.injEq, beq_iff_eq, keyOrder]
  split
  · rw [hswap, Ordering.swap_eq_eq]
  · rfl

/-- An item precedes another by a key just when the order of the key puts it first. -/
theorem precedesBy_eq_keyOrder (h : Orders view order key xs) (hx : x ∈ xs) (hy : y ∈ xs) :
    precedesBy view key x y =
      .ok (keyOrder order key (keyValue view key x) (keyValue view key y) == .lt) := by
  unfold precedesBy keyOrder
  split
  · exact precedes_eq_nullFirst (h y hy x hx)
  · exact precedes_eq_nullFirst (h x hx y hy)

/-- Never beaten, key after key, is first by the first key that tells the items apart. -/
theorem lexicographic_of_inOrder {R : α → α → Prop} (h : ∀ key ∈ keys, Orders view order key xs)
    (hx : x ∈ xs) (hy : y ∈ xs) (hin : InOrder view R keys x y) :
    Lexicographic view order keys R x y := by
  induction keys with
  | nil => exact Or.inr ⟨fun _ hk => absurd hk List.not_mem_nil, hin⟩
  | cons key keys ih =>
    have hkey : Orders view order key xs := h key List.mem_cons_self
    obtain ⟨hback, hforth⟩ := hin
    rw [precedesBy_eq_keyOrder hkey hx hy, Except.ok.injEq, beq_iff_eq] at hforth
    by_cases hlt : keyOrder order key (keyValue view key x) (keyValue view key y) = .lt
    · exact Or.inl ⟨[], key, keys, rfl, fun _ hk => absurd hk List.not_mem_nil, hlt⟩
    · -- the later item is not before the earlier one either, so this key does not tell them apart
      have hswap : keyOrder order key (keyValue view key y) (keyValue view key x) =
          (keyOrder order key (keyValue view key x) (keyValue view key y)).swap :=
        Std.OrientedCmp.eq_swap
      rw [precedesBy_eq_keyOrder hkey hy hx, Except.ok.injEq, beq_eq_false_iff_ne,
        hswap] at hback
      have htied : Tied view key x y := (tied_iff hkey hx hy).2 <| by
        cases hc : keyOrder order key (keyValue view key x) (keyValue view key y) with
        | lt => exact absurd hc hlt
        | eq => rfl
        | gt => exact absurd (by rw [hc]; rfl) hback
      rcases ih (fun k hk => h k (List.mem_cons_of_mem key hk)) (hforth.resolve_left hlt) with
        ⟨before, decisive, after, rfl, hbefore, hdecides⟩ | ⟨htieds, hR⟩
      · refine Or.inl ⟨key :: before, decisive, after, rfl, ?_, hdecides⟩
        exact List.forall_mem_cons.2 ⟨htied, hbefore⟩
      · exact Or.inr ⟨List.forall_mem_cons.2 ⟨htied, htieds⟩, hR⟩

end

/-! ## Sorting places -/

section

variable {before : α → α → Outcome Bool}

/-- Inserting an image among images is inserting the thing among the things. -/
theorem insert_map (f : β → α) (x : β) (ys : List β) :
    insert before (f x) (ys.map f) =
      List.map f <$> insert (fun a b => before (f a) (f b)) x ys := by
  induction ys with
  | nil => rfl
  | cons y ys ih =>
    rw [List.map_cons, insert, insert]
    cases before (f x) (f y) with
    | error e => rfl
    | ok b =>
      cases b with
      | true => rfl
      | false =>
        simp only [Outcome.ok_bind, Bool.false_eq_true, if_false, ih]
        cases insert (fun a b => before (f a) (f b)) x ys <;> rfl

theorem sortWith_map (f : β → α) (xs : List β) :
    sortWith before (xs.map f) =
      List.map f <$> sortWith (fun a b => before (f a) (f b)) xs := by
  -- what is sorted so far is the image of what is sorted so far
  suffices h : ∀ sorted : List β,
      (xs.map f).foldlM (fun sorted x => insert before x sorted) (sorted.map f) =
        List.map f <$>
          xs.foldlM (fun sorted x => insert (fun a b => before (f a) (f b)) x sorted) sorted from
    h []
  induction xs with
  | nil => exact fun sorted => rfl
  | cons x xs ih =>
    intro sorted
    rw [List.map_cons, List.foldlM_cons, List.foldlM_cons, insert_map]
    cases insert (fun a b => before (f a) (f b)) x sorted with
    | error e => rfl
    | ok sorted' => exact ih sorted'

theorem sortByKey_map (f : β → α) (key : SortKey) (xs : List β) :
    sortByKey view key (xs.map f) = List.map f <$> sortByKey (view ∘ f) key xs := by
  simp only [sortByKey, ← List.map_reverse, sortWith_map, Function.comp_apply]
  split
  · cases sortWith (fun a b => precedes ((view (f a)).field key.column)
        ((view (f b)).field key.column)) xs.reverse with
    | error e => rfl
    | ok sorted => simp
  · rfl

/-- Sorting the images of some things is sorting the things as their images. -/
theorem sortByKeys_map (view : α → Value) (f : β → α) (keys : List SortKey) (xs : List β) :
    sortByKeys view keys (xs.map f) = List.map f <$> sortByKeys (view ∘ f) keys xs := by
  induction keys with
  | nil => rfl
  | cons key keys ih =>
    rw [sortByKeys, sortByKeys, ih]
    cases sortByKeys (view ∘ f) keys xs with
    | error e => rfl
    | ok sorted => exact sortByKey_map f key sorted

end

/-- Items whose values under each key are missing or in one order are fetched in the lexicographic
order of the keys: none is lost or repeated, and those that no key tells apart keep their places to
each other. -/
theorem fetch_lexicographic (r : Registry Operation) (view : α → Value) (items : List α)
    (s : Selection) (order : String → Value → Value → Ordering)
    [∀ column, Std.TransCmp (order column)] (hlimit : s.limit = none) (hoffset : s.offset = none)
    (hevaluates : ∀ x ∈ items, s.condition.Evaluates r (view x))
    (horders : ∀ key ∈ s.orderBy, Orders view order key
      (items.filter fun x => decide (s.condition.IsTrue r (view x)))) :
    let found := items.filter fun x => decide (s.condition.IsTrue r (view x))
    ∃ places : List (Fin found.length), places.Perm (List.finRange found.length) ∧
      fetch r view items s = .ok (places.map found.get, (found.length : Int)) ∧
      places.Pairwise (Lexicographic (view ∘ found.get) order s.orderBy (· < ·)) := by
  intro found
  -- the places stand for the items found, so that equal items are told apart
  have hplaced : ∀ key ∈ s.orderBy,
      Orders (view ∘ found.get) order key (List.finRange found.length) := by
    intro key hkey i _ j _
    exact horders key hkey _ (List.get_mem found i) _ (List.get_mem found j)
  have hranks : ∀ key ∈ s.orderBy,
      Ranks (precedesBy (view ∘ found.get) key) (List.finRange found.length) := fun key hkey =>
    Ranks.of_order fun i hi j hj => precedesBy_eq_keyOrder (hplaced key hkey) hi hj
  -- places are sorted by the items at them, and ties keep the order of the places
  obtain ⟨places, hplaces, hsorted⟩ :=
    sortByKeys_pairwise hranks (List.sortedLT_finRange found.length).pairwise
  have hperm : places.Perm (List.finRange found.length) := sortByKeys_perm hplaces
  refine ⟨places, hperm, ?_, ?_⟩
  · have hfound : sortByKeys view s.orderBy found = .ok (places.map found.get) := by
      have hmap := sortByKeys_map view found.get s.orderBy (List.finRange found.length)
      rwa [List.map_get_finRange, hplaces] at hmap
    refine fetch_eq_ok.2 ⟨hevaluates, _, hfound, ?_, ?_⟩
    · rw [Selection.slice, hlimit, hoffset]
      exact (sliceOf_everything _).symm
    · rw [List.length_map, hperm.length_eq, List.length_finRange]
  · refine hsorted.imp ?_
    intro i j hin
    exact lexicographic_of_inOrder hplaced (List.mem_finRange i) (List.mem_finRange j) hin

def ticketItem (ticket : Nat × Option Int × String) : Value :=
  .record [("id", .int ticket.1), ("priority", ticket.2.1.elim .null .int),
    ("team", .text ticket.2.2)]

def ticketOrder (column : String) : Value → Value → Ordering :=
  if column = "priority" then compareOn fun v => match v with | .int n => n | _ => 0
  else compareOn fun v => v.asText?.getD ""

instance (column : String) : Std.TransCmp (ticketOrder column) := by
  unfold ticketOrder
  split <;> infer_instance

theorem keyValue_ticketItem {column : String} (h : '.' ∉ column.toList) (direction : String)
    (ticket : Nat × Option Int × String) :
    keyValue ticketItem ⟨column, direction⟩ ticket =
      (List.lookup column [("id", .int ticket.1), ("priority", ticket.2.1.elim .null .int),
        ("team", .text ticket.2.2)]).getD .null :=
  Value.field_record h _

theorem orders_priority (direction : String) (tickets : List (Nat × Option Int × String)) :
    Orders ticketItem ticketOrder ⟨"priority", direction⟩ tickets := by
  rintro ⟨i, p, s⟩ - ⟨j, q, t⟩ -
  rw [keyValue_ticketItem (by decide), keyValue_ticketItem (by decide)]
  intro hp hq
  cases p with
  | none => cases hp
  | some m =>
    cases q with
    | none => cases hq
    | some n => exact ⟨rfl, fun _ => rfl⟩

theorem orders_team (direction : String) (tickets : List (Nat × Option Int × String)) :
    Orders ticketItem ticketOrder ⟨"team", direction⟩ tickets := by
  rintro ⟨i, p, s⟩ - ⟨j, q, t⟩ - - -
  rw [keyValue_ticketItem (by decide), keyValue_ticketItem (by decide)]
  refine ⟨?_, fun _ => rfl⟩
  show Except.ok (s == t) = Except.ok (compare s t == .eq)
  rw [Except.ok.injEq, Bool.eq_iff_iff, beq_iff_eq, beq_iff_eq, Std.LawfulEqOrd.compare_eq_iff_eq]

/-- Teams downwards, their tickets upwards with missing priorities first: tickets 1 and 5, which
only their numbers tell apart, stay as they were. -/
theorem fetch_lexicographic_tickets :
    let tickets := [(1, some 2, "b"), (2, none, "a"), (3, some 1, "ops"), (4, none, "b"),
      (5, some 2, "b"), (6, some 1, "a")]
    let s : Selection := ⟨(Predicate.negation (.test "team" .eq (.text "ops"))).toCondition,
      [⟨"team", "DESC"⟩, ⟨"priority", "ASC"⟩, ⟨"team", "ASC"⟩], none, none⟩
    let found := tickets.filter fun x => decide (s.condition.IsTrue registry (ticketItem x))
    ∃ places : List (Fin found.length),
      fetch registry ticketItem tickets s = .ok (places.map found.get, 5) ∧
        places.Pairwise (Lexicographic (ticketItem ∘ found.get) ticketOrder s.orderBy (· < ·)) ∧
        (places.map found.get).map Prod.fst = [4, 1, 5, 2, 6] := by
  intro tickets s found
  have hevaluates : ∀ x ∈ tickets, s.condition.Evaluates registry (ticketItem x) := by
    decide +kernel
  have horders : ∀ key ∈ s.orderBy, Orders ticketItem ticketOrder key found := by
    intro key hkey
    simp only [s, List.mem_cons, List.not_mem_nil, or_false] at hkey
    rcases hkey with rfl | rfl | rfl
    · exact orders_team _ _
    · exact orders_priority _ _
    · exact orders_team _ _
  have hids : (fetch registry ticketItem tickets s).toOption.map
      (fun fetched => (fetched.1.map Prod.fst, fetched.2)) = some ([4, 1, 5, 2, 6], 5) := by
    decide +kernel
  obtain ⟨places, -, hfetch, hplaces⟩ :=
    fetch_lexicographic registry ticketItem tickets s ticketOrder rfl rfl hevaluates horders
  have hfetched : fetch registry ticketItem tickets s = .ok (places.map found.get, found.length) :=
    hfetch
  rw [hfetched] at hids
  obtain ⟨hfst, hlength⟩ := Prod.mk.injEq .. ▸ Option.some.inj hids
  exact ⟨places, hlength ▸ hfetched, hplaces, hfst⟩

end Memory

end Listing
