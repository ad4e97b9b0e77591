import Listing.Proofs.Predicate.Laws
import Mathlib.Data.List.Forall2

/-!
# Missing values filled in

A truth is below another if the other is the same or the first is unknown.  Negation and grouping
respect this order, so a predicate whose leaves go up goes up itself (`Truth.Respects.eval`).
Filling in missing values takes leaves up: a comparison of a missing value was unknown, and every
other test sees the value it saw before.  So no definite truth is ever lost, and a predicate that
compares only values that are there is never unknown (`truth_filledIn`).
-/

namespace Listing

namespace Truth

/-- A relation of truths that negation and grouping respect. -/
structure Respects (R : Truth → Truth → Prop) : Prop where
  not : ∀ {t u : Truth}, R t u → R t.not u.not
  combine : ∀ (k : Bool) {ts us : List Truth}, List.Forall₂ R ts us → R (combine k ts) (combine k us)

/-- The second truth says all that the first one says; an unknown truth says nothing. -/
def Below (t u : Truth) : Prop := ∀ b, t = ofBool b → u = ofBool b

/-- A truth that is not unknown. -/
def IsDefinite (t : Truth) : Prop := ∃ b, t = ofBool b

theorem below_refl (t : Truth) : t.Below t := fun _ h => h

theorem unknown_below (u : Truth) : unknown.Below u := by
  intro b h
  cases b <;> cases h

theorem IsDefinite.ne_unknown {t : Truth} (h : t.IsDefinite) : t ≠ unknown := by
  rcases h with ⟨b, rfl⟩
  cases b <;> decide

/-- Grouping never loses what its members say: the member that decided a group still does, and if
all of them were needed then all of them are still there. -/
theorem respects_below : Respects Below where
  not := by
    intro t u h b ht
    rw [not_eq_ofBool] at ht ⊢
    exact h (!b) ht
  combine := by
    intro k ts us h b hts
    -- the truth that needs all members, or the one that one member decides
    by_cases hb : b = k
    · subst hb
      rw [combine_eq_neutral] at hts ⊢
      induction h with
      | nil => exact fun u hu => absurd hu List.not_mem_nil
      | cons htu _ ih =>
        rw [List.forall_mem_cons] at hts ⊢
        exact ⟨htu _ hts.1, ih hts.2⟩
    · have hk : b = !k := by
        cases b <;> cases k <;> simp at hb ⊢
      subst hk
      rw [combine_eq_deciding] at hts ⊢
      induction h with
      | nil => exact absurd hts List.not_mem_nil
      | cons htu _ ih =>
        rcases List.mem_cons.1 hts with ht | hts
        · rw [htu _ ht.symm]
          exact List.mem_cons_self
        · exact List.mem_cons_of_mem _ (ih hts)

/-- A group of definite truths is definite: either a member decides it or none does. -/
theorem respects_isDefinite : Respects fun t _ => t.IsDefinite where
  not := by
    rintro t - ⟨b, rfl⟩
    exact ⟨!b, by cases b <;> rfl⟩
  combine := by
    intro k ts us h
    have hdefinite : ∀ t ∈ ts, t.IsDefinite := by
      induction h with
      | nil => exact fun t ht => absurd ht List.not_mem_nil
      | cons ht _ ih => exact List.forall_mem_cons.2 ⟨ht, ih⟩
    by_cases hmem : ofBool (!k) ∈ ts
    · exact ⟨!k, combine_eq_deciding.2 hmem⟩
    · refine ⟨k, combine_eq_neutral.2 fun t ht => ?_⟩
      rcases hdefinite t ht with ⟨b, rfl⟩
      by_cases hb : b = k
      · rw [hb]
      · -- the member would decide the group
        have hk : b = !k := by
          cases b <;> cases k <;> simp at hb ⊢
        exact absurd (hk ▸ ht) hmem

mutual

/-- What negation and grouping respect passes from the leaves of a predicate to the predicate. -/
theorem Respects.eval {R : Truth → Truth → Prop} (hR : Respects R) (ev ev' : Predicate → Truth) :
    ∀ p : Predicate, (∀ leaf ∈ p.leaves, R (ev leaf) (ev' leaf)) → R (p.eval ev) (p.eval ev')
  | .test column c v, h => h (.test column c v) (List.mem_singleton.2 rfl)
  | .negation inner, h => hR.not (hR.eval ev ev' inner h)
  | .all members, h => hR.combine true (hR.evals ev ev' members h)
  | .any members, h => hR.combine false (hR.evals ev ev' members h)

theorem Respects.evals {R : Truth → Truth → Prop} (hR : Respects R) (ev ev' : Predicate → Truth) :
    ∀ ps : List Predicate, (∀ leaf ∈ Predicate.leavesOf ps, R (ev leaf) (ev' leaf)) →
      List.Forall₂ R (Predicate.evals ev ps) (Predicate.evals ev' ps)
  | [], _ => .nil
  | p :: ps, h =>
    .cons (hR.eval ev ev' p fun leaf hleaf => h leaf (List.mem_append_left _ hleaf))
      (hR.evals ev ev' ps fun leaf hleaf => h leaf (List.mem_append_right _ hleaf))

end

end Truth

namespace Predicate

variable {reg : Registry Memory.Operation} {item item' : Value} {p : Predicate}

/-- An item with more values than another, as far as a predicate looks: each value that it names and
that is there is the same, and what it asks to be missing is still missing. -/
structure FilledIn (p : Predicate) (item item' : Value) : Prop where
  kept : ∀ column c v, test column c v ∈ p.leaves →
    (item.field column).isNull = true ∨ item'.field column = item.field column
  missing : ∀ column v, test column .isNull v ∈ p.leaves →
    (item.field column).isNull = true → (item'.field column).isNull = true

/-! ## Leaves -/

/-- A test either compares nothing or is evaluated on the value of its field. -/
theorem truth_test (reg : Registry Memory.Operation) (column : String) (c : Comparator) (v : Value) :
    (∃ b, ∀ item, (test column c v).toCondition.truth reg item = .ok (.ofBool b)) ∨
      ∀ item, (test column c v).toCondition.truth reg item =
        if (item.field column).isNull && c != .isNull then .ok .unknown
        else Truth.ofBool <$> Memory.evaluate reg c (item.field column) v.tupleToList := by
  -- the logical comparators have a truth that depends on no item
  by_cases hc : c = .and ∨ c = .or ∨ c = .not
  · rcases truth_logical hc with ⟨b, hb⟩
    exact Or.inl ⟨b, fun item => hb item column v⟩
  · rw [not_or, not_or] at hc
    exact Or.inr fun item => truth_comparison hc column v

/-- A test of a predicate goes up when missing values are filled in. -/
theorem FilledIn.below (h : p.FilledIn item item') {leaf : Predicate} (hleaf : leaf ∈ p.leaves)
    (he : leaf.Evaluates reg item) (he' : leaf.Evaluates reg item') :
    (leaf.value reg item).Below (leaf.value reg item') := by
  rcases exists_test_of_mem_leaves hleaf with ⟨column, c, v, rfl⟩
  rcases truth_test reg column c v with ⟨b, hb⟩ | htruth
  · rw [value, hb, value, hb]
    exact Truth.below_refl _
  · by_cases hsame : item'.field column = item.field column
    · rw [value, htruth, value, htruth, hsame]
      exact Truth.below_refl _
    · -- the value was missing, and it was not asked to be
      have hnull := (h.kept column c v hleaf).resolve_right hsame
      have hc : c ≠ .isNull := by
        rintro rfl
        have hnull' := h.missing column v hleaf hnull
        rw [Value.isNull_iff] at hnull hnull'
        exact hsame (hnull'.trans hnull.symm)
      rw [value, htruth, if_pos (by simp [hnull, hc])]
      exact Truth.unknown_below _

/-- A test of a value that is there is definite, and a test for absence always is. -/
theorem isDefinite_test {column : String} {c : Comparator} {v : Value}
    (h : c ≠ .isNull → (item.field column).isNull = false)
    (he : (test column c v).Evaluates reg item) : ((test column c v).value reg item).IsDefinite := by
  have hvalue := he.truth_eq
  rcases truth_test reg column c v with ⟨b, hb⟩ | htruth
  · rw [hb] at hvalue
    exact ⟨b, (Except.ok.inj hvalue).symm⟩
  · have hthere : ¬((item.field column).isNull && c != .isNull) = true := by
      intro hnull
      rw [Bool.and_eq_true, bne_iff_ne] at hnull
      rw [h hnull.2] at hnull
      cases hnull.1
    rw [htruth, if_neg hthere] at hvalue
    cases htest : Memory.evaluate reg c (item.field column) v.tupleToList with
    | error e =>
      rw [htest] at hvalue
      cases hvalue
    | ok b =>
      rw [htest] at hvalue
      exact ⟨b, (Except.ok.inj hvalue).symm⟩

/-! ## Predicates -/

/-- The truth of a predicate that evaluates is made of those of its leaves. -/
theorem Evaluates.value_eq {p : Predicate} (h : p.Evaluates reg item) :
    p.value reg item = p.eval (value reg item) := by
  have htruth := truth_eq_eval p fun leaf hleaf => (h.leaf leaf hleaf).truth_eq
  rw [value, htruth]

theorem Evaluates.holds_eq {p : Predicate} (h : p.Evaluates reg item) :
    p.toCondition.holds reg item = .ok (p.value reg item).holds := by
  rw [Condition.holds, h.truth_eq]
  rfl

/-- The negation of a predicate that evaluates has the opposite truth. -/
theorem Evaluates.negation_value {p : Predicate} (h : p.Evaluates reg item) :
    (negation p).value reg item = (p.value reg item).not := by
  rw [value, toCondition, Condition.truth_not, h.truth_eq]
  rfl

/-- Filling in missing values never flips a definite truth: a predicate that is true of an item, or
false of it, stays so on an item with more values.  A predicate that compares only values that are
there is not unknown, so either it holds or its negation does, and never both. -/
theorem truth_filledIn (he : p.Evaluates reg item) :
    (∀ item', p.FilledIn item item' → p.Evaluates reg item' → ∀ b,
      p.toCondition.truth reg item = .ok (.ofBool b) →
        p.toCondition.truth reg item' = .ok (.ofBool b)) ∧
    ((∀ column c v, test column c v ∈ p.leaves → c ≠ .isNull →
        (item.field column).isNull = false) →
      p.toCondition.truth reg item ≠ .ok .unknown ∧
      ∃ b, p.toCondition.holds reg item = .ok b ∧
        (negation p).toCondition.holds reg item = .ok (!b)) := by
  constructor
  · intro item' hfill he' b h
    rw [he.truth_eq, Except.ok.injEq, he.value_eq] at h
    rw [he'.truth_eq, Except.ok.injEq, he'.value_eq]
    -- the order goes up from the leaves to the predicate
    have hbelow := Truth.respects_below.eval (value reg item) (value reg item') p
      fun leaf hleaf => hfill.below hleaf (he.leaf leaf hleaf) (he'.leaf leaf hleaf)
    exact hbelow b h
  · intro hthere
    -- every leaf looks at a value that is there or asks whether it is
    have hleaves : ∀ leaf ∈ p.leaves, (leaf.value reg item).IsDefinite := by
      intro leaf hleaf
      rcases exists_test_of_mem_leaves hleaf with ⟨column, c, v, rfl⟩
      exact isDefinite_test (hthere column c v hleaf) (he.leaf _ hleaf)
    have hdefinite : (p.value reg item).IsDefinite := by
      rw [he.value_eq]
      exact Truth.respects_isDefinite.eval (value reg item) (value reg item) p hleaves
    refine ⟨?_, (p.value reg item).holds, he.holds_eq, ?_⟩
    · rw [he.truth_eq, ne_eq, Except.ok.injEq]
      exact hdefinite.ne_unknown
    · rw [(evaluates_negation.2 he).holds_eq, he.negation_value]
      rcases hdefinite with ⟨b, hb⟩
      rw [hb]
      cases b <;> rfl

/-- A ticket without a state: its title is a draft's, which decides the predicate, and it has no
reviewer.  Nothing changes when the state comes in, and with it every value that is compared is
there. -/
theorem truth_filledIn_ticket :
    let item : Value := .record [("title", .text "Draft: disk full"), ("state", .null)]
    let item' : Value := .record [("title", .text "Draft: disk full"), ("state", .text "closed")]
    let p : Predicate := .any [.negation (.test "state" .eq (.text "closed")),
      .all [.test "title" .contains (.text "draft"), .test "reviewer" .isNull .null]]
    p.Evaluates Memory.registry item ∧ p.FilledIn item item' ∧
      p.Evaluates Memory.registry item' ∧
      p.toCondition.truth Memory.registry item' = .ok .yes ∧
      ∃ b, p.toCondition.holds Memory.registry item' = .ok b ∧
        (negation p).toCondition.holds Memory.registry item' = .ok (!b) := by
  intro item item' p
  have he : p.Evaluates Memory.registry item := by decide +kernel
  have he' : p.Evaluates Memory.registry item' := by decide +kernel
  have hyes : p.IsTrue Memory.registry item := by decide +kernel
  have hleaves : ∀ column c v, test column c v ∈ p.leaves →
      column = "state" ∧ c = .eq ∨ column = "title" ∧ c = .contains ∨
        column = "reviewer" ∧ c = .isNull := by
    intro column c v h
    simp only [p, leaves, leavesOf, List.cons_append, List.nil_append, List.append_nil,
      List.mem_cons, test.injEq, List.not_mem_nil, or_false] at h
    rcases h with h | h | h
    · exact Or.inl ⟨h.1, h.2.1⟩
    · exact Or.inr (Or.inl ⟨h.1, h.2.1⟩)
    · exact Or.inr (Or.inr ⟨h.1, h.2.1⟩)
  have hfill : p.FilledIn item item' := by
    constructor
    · intro column c v h
      rcases hleaves column c v h with ⟨rfl, -⟩ | ⟨rfl, -⟩ | ⟨rfl, -⟩
      · exact Or.inl rfl
      · exact Or.inr rfl
      · exact Or.inr rfl
    · intro column v h hnull
      rcases hleaves column .isNull v h with ⟨-, h⟩ | ⟨-, h⟩ | ⟨rfl, -⟩
      · cases h
      · cases h
      · exact hnull
  have hthere : ∀ column c v, test column c v ∈ p.leaves → c ≠ .isNull →
      (item'.field column).isNull = false := by
    intro column c v h hc
    rcases hleaves column c v h with ⟨rfl, -⟩ | ⟨rfl, -⟩ | ⟨-, rfl⟩
    · rfl
    · rfl
    · exact absurd rfl hc
  exact ⟨he, hfill, he', (truth_filledIn he).1 item' hfill he' true hyes,
    ((truth_filledIn he').2 hthere).2⟩

end Predicate

end Listing
