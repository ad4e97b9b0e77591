import Listing.Memory.Truth
import Listing.Proofs.Outcome

/-!
# When a condition is true of an item

A condition evaluates on an item if no part of it is at fault, and is true of it if its truth is
definite.  A conjunction is true just when every member is (`isTrue_and`); a disjunction is true just
when every member evaluates and one of them is true (`isTrue_or`), as no member is skipped.
-/

namespace Listing

namespace Truth

/-- A conjunction is definite just when every member is. -/
theorem all_eq_yes {ts : List Truth} : all ts = yes ↔ ∀ t ∈ ts, t = yes := by
  unfold all
  constructor
  · intro h t ht
    cases t with
    | yes => rfl
    -- one failing member decides the conjunction before an unknown one does
    | no => simp [ht] at h
    | unknown =>
      by_cases hn : no ∈ ts
      · simp [hn] at h
      · simp [hn, ht] at h
  · intro h
    have hn : no ∉ ts := fun hm => by cases h no hm
    have hu : unknown ∉ ts := fun hm => by cases h unknown hm
    simp [hn, hu]

/-- A disjunction is definite just when one member is. -/
theorem any_eq_yes {ts : List Truth} : any ts = yes ↔ yes ∈ ts := by
  unfold any
  by_cases hy : yes ∈ ts
  · simp [hy]
  · by_cases hu : unknown ∈ ts <;> simp [hy, hu]

/-- A conjunction fails just when one member does. -/
theorem all_eq_no {ts : List Truth} : all ts = no ↔ no ∈ ts := by
  unfold all
  by_cases hn : no ∈ ts
  · simp [hn]
  · by_cases hu : unknown ∈ ts <;> simp [hn, hu]

/-- A disjunction fails just when every member does. -/
theorem any_eq_no {ts : List Truth} : any ts = no ↔ ∀ t ∈ ts, t = no := by
  unfold any
  constructor
  · intro h t ht
    cases t with
    | no => rfl
    -- one true member decides the disjunction before an unknown one does
    | yes => simp [ht] at h
    | unknown =>
      by_cases hy : yes ∈ ts
      · simp [hy] at h
      · simp [hy, ht] at h
  · intro h
    have hy : yes ∉ ts := fun hm => by cases h yes hm
    have hu : unknown ∉ ts := fun hm => by cases h unknown hm
    simp [hy, hu]

/-- One of some definite truths is there if one of the tests holds. -/
theorem any_map_ofBool {α : Type} (f : α → Bool) (xs : List α) :
    any (xs.map fun x => ofBool (f x)) = ofBool (xs.any f) := by
  cases h : xs.any f with
  | true =>
    obtain ⟨x, hx, hfx⟩ := List.any_eq_true.1 h
    exact any_eq_yes.2 (List.mem_map.2 ⟨x, hx, by rw [hfx]; rfl⟩)
  | false =>
    rw [List.any_eq_false] at h
    refine any_eq_no.2 (List.forall_mem_map.2 fun x hx => ?_)
    rw [Bool.eq_false_iff.2 (h x hx)]
    rfl

/-- A disjunction of unknowns is unknown unless it is empty. -/
theorem any_map_unknown {α : Type} {xs : List α} (h : xs ≠ []) :
    any (xs.map fun _ => unknown) = unknown := by
  cases xs with
  | nil => exact absurd rfl h
  | cons x xs => simp [any]

end Truth

namespace Condition

variable {r : Registry Memory.Operation} {item : Value}

/-- The symbols of comparators are written small. -/
theorem lowerString_symbol (c : Comparator) : Text.lowerString c.symbol = c.symbol := by
  cases c <;> decide +kernel

theorem name_symbol (c : Comparator) : name (.text c.symbol) = .ok c.symbol :=
  congrArg Except.ok (lowerString_symbol c)

/-- Members are evaluated from left to right, and the first fault ends it. -/
theorem truths_eq_mapM (cs : List Condition) : truths r item cs = cs.mapM (truth r item) := by
  induction cs with
  | nil => rfl
  | cons c cs ih => rw [truths, ih, List.mapM_cons]

/-- The truths of conditions are the truth of each. -/
theorem truths_eq_ok {cs : List Condition} {ts : List Truth} :
    truths r item cs = .ok ts ↔ cs.map (truth r item) = ts.map .ok := by
  induction cs generalizing ts with
  | nil => cases ts <;> simp [truths]
  | cons c cs ih =>
    rw [truths, Outcome.bind_eq_ok, List.map_cons]
    constructor
    · rintro ⟨t, ht, h⟩
      obtain ⟨us, hus, h⟩ := Outcome.bind_eq_ok.1 h
      cases h
      rw [ht, ih.1 hus, List.map_cons]
    · intro h
      cases ts with
      | nil => cases h
      | cons t ts =>
        rw [List.map_cons, List.cons.injEq] at h
        exact ⟨t, h.1, by rw [ih.2 h.2]; rfl⟩

/-- Each of some conditions has one of their truths. -/
theorem exists_mem_truths {cs : List Condition} {ts : List Truth}
    (h : truths r item cs = .ok ts) {c : Condition} (hc : c ∈ cs) :
    ∃ t ∈ ts, truth r item c = .ok t := by
  have hmem : truth r item c ∈ ts.map Except.ok := by
    rw [← truths_eq_ok.1 h]
    exact List.mem_map_of_mem hc
  obtain ⟨t, ht, hct⟩ := List.mem_map.1 hmem
  exact ⟨t, ht, hct.symm⟩

/-- Each of the truths of some conditions is the truth of one of them. -/
theorem exists_of_mem_truths {cs : List Condition} {ts : List Truth}
    (h : truths r item cs = .ok ts) {t : Truth} (ht : t ∈ ts) :
    ∃ c ∈ cs, truth r item c = .ok t := by
  have hmem : Except.ok t ∈ cs.map (truth r item) := by
    rw [truths_eq_ok.1 h]
    exact List.mem_map_of_mem ht
  obtain ⟨c, hc, hct⟩ := List.mem_map.1 hmem
  exact ⟨c, hc, hct⟩

/-- All members of a conjunction are evaluated before they are combined. -/
theorem truth_and (cs : List Condition) :
    truth r item (.group .and cs) = Truth.all <$> truths r item cs := by
  rw [group, truth, name_symbol, Outcome.ok_bind, Comparator.ofSymbol?_symbol]
  cases truths r item cs <;> rfl

/-- All members of a disjunction are evaluated before they are combined. -/
theorem truth_or (cs : List Condition) :
    truth r item (.group .or cs) = Truth.any <$> truths r item cs := by
  rw [group, truth, name_symbol, Outcome.ok_bind, Comparator.ofSymbol?_symbol]
  cases truths r item cs <;> rfl

theorem truth_not (c : Condition) :
    truth r item (.group .not [c]) = Truth.not <$> truth r item c := by
  rw [group, truth, name_symbol, Outcome.ok_bind, Comparator.ofSymbol?_symbol]
  rw [truths, truths]
  cases truth r item c with
  | error e => rfl
  | ok t => cases t <;> rfl

/-- A comparison is evaluated on its field.  The three logical comparators make no comparison. -/
theorem truth_leaf {c : Comparator} (hc : c ≠ .and ∧ c ≠ .or ∧ c ≠ .not) (column : String)
    (v : Value) :
    truth r item (.leaf c column v) = leafTruth r item c (some (.text column)) v := by
  rw [leaf, truth, name_symbol, Outcome.ok_bind, Comparator.ofSymbol?_symbol]
  cases c <;> simp_all

/-- A condition is definitely true of an item. -/
def IsTrue (r : Registry Memory.Operation) (item : Value) (c : Condition) : Prop :=
  truth r item c = .ok .yes

/-- No part of a condition is at fault on an item. -/
def Evaluates (r : Registry Memory.Operation) (item : Value) (c : Condition) : Prop :=
  ∃ t, truth r item c = .ok t

instance (r : Registry Memory.Operation) (item : Value) (c : Condition) :
    Decidable (IsTrue r item c) :=
  match h : truth r item c with
  | .ok .yes => isTrue h
  | .ok .no => isFalse fun h' => by rw [IsTrue, h] at h'; cases h'
  | .ok .unknown => isFalse fun h' => by rw [IsTrue, h] at h'; cases h'
  | .error _ => isFalse fun h' => by rw [IsTrue, h] at h'; cases h'

instance (r : Registry Memory.Operation) (item : Value) (c : Condition) :
    Decidable (Evaluates r item c) :=
  match h : truth r item c with
  | .ok t => isTrue ⟨t, h⟩
  | .error _ => isFalse fun h' => by obtain ⟨t, ht⟩ := h'; rw [h] at ht; cases ht

theorem IsTrue.evaluates {c : Condition} (h : IsTrue r item c) : Evaluates r item c := ⟨.yes, h⟩

/-- Conditions have truths just when each evaluates. -/
theorem exists_truths_iff {cs : List Condition} :
    (∃ ts, truths r item cs = .ok ts) ↔ ∀ c ∈ cs, Evaluates r item c := by
  constructor
  · rintro ⟨ts, hts⟩ c hc
    obtain ⟨t, -, ht⟩ := exists_mem_truths hts hc
    exact ⟨t, ht⟩
  · intro h
    induction cs with
    | nil => exact ⟨[], rfl⟩
    | cons c cs ih =>
      obtain ⟨t, ht⟩ := h c List.mem_cons_self
      obtain ⟨ts, hts⟩ := ih fun d hd => h d (List.mem_cons_of_mem c hd)
      exact ⟨t :: ts, by rw [truths, ht, Outcome.ok_bind, hts]; rfl⟩

/-- A truth made of the truths of members is there when the members have truths. -/
theorem exists_map_truths {f : List Truth → Truth} {cs : List Condition} :
    (∃ t, f <$> truths r item cs = .ok t) ↔ ∀ c ∈ cs, Evaluates r item c := by
  rw [← exists_truths_iff]
  cases truths r item cs <;> simp

/-- A conjunction is at fault only through a member. -/
theorem evaluates_and {cs : List Condition} :
    Evaluates r item (.group .and cs) ↔ ∀ c ∈ cs, Evaluates r item c := by
  rw [Evaluates, truth_and, exists_map_truths]

/-- A disjunction is at fault only through a member, even if another is true. -/
theorem evaluates_or {cs : List Condition} :
    Evaluates r item (.group .or cs) ↔ ∀ c ∈ cs, Evaluates r item c := by
  rw [Evaluates, truth_or, exists_map_truths]

/-- A conjunction is true just when every member is. -/
theorem isTrue_and {cs : List Condition} :
    IsTrue r item (.group .and cs) ↔ ∀ c ∈ cs, IsTrue r item c := by
  constructor
  · intro h c hc
    -- being true implies having been evaluated, so the members have truths
    obtain ⟨ts, hts⟩ := exists_truths_iff.2 (evaluates_and.1 h.evaluates)
    rw [IsTrue, truth_and, hts, Outcome.map_ok, Except.ok.injEq, Truth.all_eq_yes] at h
    obtain ⟨t, ht, hct⟩ := exists_mem_truths hts hc
    rw [IsTrue, hct, h t ht]
  · intro h
    obtain ⟨ts, hts⟩ := exists_truths_iff.2 fun c hc => (h c hc).evaluates
    rw [IsTrue, truth_and, hts, Outcome.map_ok, Except.ok.injEq, Truth.all_eq_yes]
    intro t ht
    obtain ⟨c, hc, hct⟩ := exists_of_mem_truths hts ht
    exact Except.ok.inj (hct.symm.trans (h c hc))

/-- A disjunction is true just when one member is and the others evaluate too. -/
theorem isTrue_or {cs : List Condition} :
    IsTrue r item (.group .or cs) ↔
      (∀ c ∈ cs, Evaluates r item c) ∧ ∃ c ∈ cs, IsTrue r item c := by
  constructor
  · intro h
    have he := evaluates_or.1 h.evaluates
    obtain ⟨ts, hts⟩ := exists_truths_iff.2 he
    rw [IsTrue, truth_or, hts, Outcome.map_ok, Except.ok.injEq, Truth.any_eq_yes] at h
    exact ⟨he, exists_of_mem_truths hts h⟩
  · rintro ⟨he, c, hc, hct⟩
    obtain ⟨ts, hts⟩ := exists_truths_iff.2 he
    obtain ⟨t, ht, htc⟩ := exists_mem_truths hts hc
    have hyes : t = .yes := Except.ok.inj (htc.symm.trans hct)
    rw [IsTrue, truth_or, hts, Outcome.map_ok, Except.ok.injEq, Truth.any_eq_yes]
    exact hyes ▸ ht

end Condition

end Listing
