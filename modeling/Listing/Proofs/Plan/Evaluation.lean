import Listing.Proofs.Filter.Compile
import Listing.Proofs.Memory.Operation
import Listing.Proofs.Plan.Whitelist
import Listing.Proofs.Predicate.Laws

/-!
# Criteria of requests on items

What a request searches and filters for can be put to any item whose fields hold ordinary values,
with two exceptions: a decimal field is compared with a text that reads as not-a-number, or a search
looks for the text of a whole number that has too many digits (`Predicate.Fails`).  A text that
cannot be compared with a field does not match (`evaluates_planWith`).
-/

namespace Listing

namespace Predicate

variable {item : Value} {leaf : Predicate} {column : String}

/-- A test of a request that cannot be carried out on an item. -/
inductive Fails (item : Value) : Predicate → Prop
  | equal {column s : String} (h : (item.field column).readsAs Decimal.isSignalling s = true) :
      Fails item (test column .eq (.text s))
  | order {column s : String} {c : Comparator} (hc : c ∈ [Comparator.gt, .ge, .lt, .le])
      (h : (item.field column).readsAs Decimal.isNan s = true) :
      Fails item (test column c (.text s))
  | oneOf {column : String} {ss : List String} (h : Memory.Jams (item.field column) ss) :
      Fails item (test column .isIn (.tuple (ss.map .text)))
  | contains {column term : String} (h : (item.field column).isWritable = false) :
      Fails item (test column .contains (.text term))

/-- A test for one of some texts fails just when the field jams on one of them. -/
theorem fails_oneOf {ss : List String} :
    Fails item (test column .isIn (.tuple (ss.map .text))) ↔
      Memory.Jams (item.field column) ss := by
  constructor
  · -- the texts are found again behind the values that they became
    generalize hvs : ss.map Value.text = vs
    intro h
    cases h with
    | oneOf h =>
      rw [List.map_inj_right fun s t hst => Value.text.inj hst] at hvs
      rw [hvs]
      exact h
  · exact Fails.oneOf

/-- A test whose operation succeeds evaluates. -/
theorem evaluates_of_evaluate {c : Comparator} {v : Value} {b : Bool}
    (hc : c ≠ .and ∧ c ≠ .or ∧ c ≠ .not)
    (h : Memory.evaluate Memory.registry c (item.field column) v.tupleToList = .ok b) :
    (test column c v).Evaluates Memory.registry item := by
  rw [Evaluates, Condition.Evaluates, truth_comparison hc, h]
  split
  · exact ⟨_, rfl⟩
  · exact ⟨_, rfl⟩

/-- A test of a field that is there fails with its operation. -/
theorem truth_of_evaluate {c : Comparator} {v : Value} {e : Fault}
    (hc : c ≠ .and ∧ c ≠ .or ∧ c ≠ .not) (hnull : item.field column ≠ .null)
    (h : Memory.evaluate Memory.registry c (item.field column) v.tupleToList = .error e) :
    (test column c v).toCondition.truth Memory.registry item = .error e := by
  rw [truth_there hc hnull, h]
  rfl

theorem ne_null_of_readsAs {field : Value} {p : Decimal → Bool} {s : String}
    (h : field.readsAs p s = true) : field ≠ .null := by
  rintro rfl
  cases h

/-- A comparison with a text on an item with an ordinary field either fails or evaluates. -/
theorem comparison_cases {c : Comparator} (hc : c ∈ [Comparator.eq, .gt, .ge, .lt, .le]) (s : String)
    (hfield : (item.field column).isOrdinary = true) :
    Fails item (test column c (.text s)) ∧
      (test column c (.text s)).toCondition.truth Memory.registry item = .error .notANumber ∨
    ¬Fails item (test column c (.text s)) ∧
      (test column c (.text s)).Evaluates Memory.registry item := by
  rcases List.mem_cons.1 hc with rfl | hc
  · -- a signalling not-a-number is the only one that equality stumbles over
    rcases Memory.equals_cases hfield s with ⟨hsig, htest⟩ | ⟨hsig, b, htest⟩
    · exact Or.inl ⟨.equal hsig, truth_of_evaluate (by decide) (ne_null_of_readsAs hsig) htest⟩
    · refine Or.inr ⟨?_, evaluates_of_evaluate (by decide) htest⟩
      intro hfails
      cases hfails with
      | equal h =>
        rw [hsig] at h
        cases h
      | order hc => simp at hc
  · -- the four order comparisons differ only in what they accept
    have hordered : ∃ accepted, ∀ v, Memory.evaluate Memory.registry c (item.field column) v =
        Memory.ordered accepted (item.field column) v := by
      simp only [List.mem_cons, List.not_mem_nil, or_false] at hc
      rcases hc with rfl | rfl | rfl | rfl <;> exact ⟨_, fun _ => rfl⟩
    have hlogical : c ≠ .and ∧ c ≠ .or ∧ c ≠ .not := by
      refine ⟨?_, ?_, ?_⟩ <;> rintro rfl <;> simp at hc
    rcases hordered with ⟨accepted, hordered⟩
    rcases Memory.ordered_cases hfield accepted s with ⟨hnan, htest⟩ | ⟨hnan, b, htest⟩
    · rw [← hordered] at htest
      exact Or.inl ⟨.order hc hnan, truth_of_evaluate hlogical (ne_null_of_readsAs hnan) htest⟩
    · rw [← hordered] at htest
      refine Or.inr ⟨?_, evaluates_of_evaluate hlogical htest⟩
      intro hfails
      cases hfails with
      | equal h => simp at hc
      | contains h => simp at hc
      | order _ h =>
        rw [hnan] at h
        cases h

/-- The same for a comparison with some texts. -/
theorem oneOf_cases (ss : List String) (hfield : (item.field column).isOrdinary = true) :
    Fails item (test column .isIn (.tuple (ss.map .text))) ∧
      (test column .isIn (.tuple (ss.map .text))).toCondition.truth Memory.registry item =
        .error .notANumber ∨
    ¬Fails item (test column .isIn (.tuple (ss.map .text))) ∧
      (test column .isIn (.tuple (ss.map .text))).Evaluates Memory.registry item := by
  rw [fails_oneOf]
  rcases Memory.equalsOne_cases hfield ss with ⟨hjams, htest⟩ | ⟨hjams, b, htest⟩
  · have hnull : item.field column ≠ .null := by
      rcases hjams with ⟨before, s, after, -, -, hsig⟩
      exact ne_null_of_readsAs hsig
    exact Or.inl ⟨hjams, truth_of_evaluate (by decide) hnull htest⟩
  · exact Or.inr ⟨hjams, evaluates_of_evaluate (by decide) htest⟩

/-- A test of a request on an item with an ordinary field either fails, with one of two faults, or
evaluates. -/
theorem Requested.cases (h : leaf.Requested)
    (hfield : ∀ column c v, leaf = test column c v → (item.field column).isOrdinary = true) :
    leaf.Fails item ∧ (∃ e, leaf.toCondition.truth Memory.registry item = .error e ∧
      (e = .notANumber ∨ e = .tooManyDigits)) ∨
    ¬leaf.Fails item ∧ leaf.Evaluates Memory.registry item := by
  cases h with
  | absent column =>
    -- a test for absence looks at nothing that could fail
    refine Or.inr ⟨?_, evaluates_of_evaluate (by decide) rfl⟩
    intro hfails
    cases hfails
  | contains column term =>
    rcases Memory.contains_cases (item.field column) term with ⟨hlong, htest⟩ | ⟨hshort, b, htest⟩
    · have hnull : item.field column ≠ .null := by
        intro hnull
        rw [hnull] at hlong
        cases hlong
      exact Or.inl ⟨.contains hlong, _, truth_of_evaluate (by decide) hnull htest, Or.inr rfl⟩
    · refine Or.inr ⟨?_, evaluates_of_evaluate (by decide) htest⟩
      intro hfails
      cases hfails with
      | order hc => simp at hc
      | contains hlong =>
        rw [hshort] at hlong
        cases hlong
  | @compares column ss leaf h =>
    cases h with
    | one hc s =>
      rcases comparison_cases hc s (hfield _ _ _ rfl) with ⟨hfails, htruth⟩ | hevaluates
      · exact Or.inl ⟨hfails, _, htruth, Or.inl rfl⟩
      · exact Or.inr hevaluates
    | oneOf =>
      rcases oneOf_cases ss (hfield _ _ _ rfl) with ⟨hfails, htruth⟩ | hevaluates
      · exact Or.inl ⟨hfails, _, htruth, Or.inl rfl⟩
      · exact Or.inr hevaluates

/-- A field that is there does not match a text that it cannot be compared with, nor any of some
such texts. -/
theorem Compares.truth_eq_no {ss : List String} (h : Compares column ss leaf)
    (hfield : (item.field column).isOrdinary = true) (hnull : (item.field column).isNull = false)
    (hss : ∀ s ∈ ss, Memory.Incomparable (item.field column) s) :
    leaf.toCondition.truth Memory.registry item = .ok .no := by
  have hthere : item.field column ≠ .null := by
    rw [Ne, ← Value.isNull_iff, hnull]
    decide
  cases h with
  | oneOf =>
    have htest : Memory.evaluate Memory.registry .isIn (item.field column)
        (Value.tuple (ss.map .text)).tupleToList = .ok false :=
      Memory.equalsOne_of_incomparable hfield hss
    rw [truth_there (by decide) hthere, htest]
    rfl
  | @one c hc s =>
    have hs := hss s List.mem_cons_self
    have htest : Memory.evaluate Memory.registry c (item.field column) (.text s) = .ok false := by
      simp only [List.mem_cons, List.not_mem_nil, or_false] at hc
      rcases hc with rfl | rfl | rfl | rfl | rfl
      · exact hs.equals_eq hfield
      all_goals exact hs.ordered_eq _
    have hlogical : c ≠ .and ∧ c ≠ .or ∧ c ≠ .not := by
      refine ⟨?_, ?_, ?_⟩ <;> rintro rfl <;> simp at hc
    rw [truth_there hlogical hthere]
    show Truth.ofBool <$> Memory.evaluate Memory.registry c (item.field column) (.text s) = _
    rw [htest]
    rfl

end Predicate

namespace Request

variable {r : Request} {c : Config} {page limit : Int} {sortBy : List SortKey}
  {columns : List String} {item : Value}

/-- Without base criteria a plan has only tests that a request can put into it. -/
theorem requested_of_mem_leaves (hbase : c.criteria = none) {leaf : Predicate}
    (h : leaf ∈ (r.planWith c page limit sortBy columns).criteria.leaves) : leaf.Requested := by
  have hgroups : (r.planWith c page limit sortBy columns).criteria =
      .group true (r.searchGroup columns ++ r.filterGroup c) := by
    show Predicate.all (baseGroup c ++ r.searchGroup columns ++ r.filterGroup c) = _
    rw [baseGroup, hbase]
    rfl
  rw [hgroups, Predicate.mem_leaves_group] at h
  rcases h with ⟨g, hg, hleaf⟩
  -- the leaf is one of the search or one of a filter
  rcases List.mem_append.1 hg with hg | hg
  · rcases exists_searchGroup (r := r) fun column (hc : column ∈ columns) => hc with
      ⟨search, hsearch, hsearches⟩
    rw [hsearch] at hg
    rcases hsearches g (Option.mem_toList.1 hg) with ⟨term, -, honly⟩
    rcases honly leaf hleaf with ⟨column, -, rfl⟩
    exact .contains column term
  · rcases Option.map_eq_some_iff.1 (Option.mem_toList.1 hg) with ⟨f, -, rfl⟩
    rcases (Predicate.mem_leaves_group (k := true)).1 hleaf with ⟨p, hp, hleaf⟩
    rcases List.mem_map.1 hp with ⟨e, he, rfl⟩
    rcases Filter.exists_accepted?_of_mem_compile he with ⟨raw, hraw⟩
    exact Filter.accepted?_requested hraw leaf hleaf

/-- What a request without base criteria asks for evaluates on every item with ordinary fields, but
for tests that fail; there are two faults that these have.  A text that cannot be compared with a
field that is there does not match it. -/
theorem evaluates_planWith (hbase : c.criteria = none)
    (hfields : ∀ column comparator v,
      .test column comparator v ∈ (r.planWith c page limit sortBy columns).criteria.leaves →
        (item.field column).isOrdinary = true) :
    let criteria := (r.planWith c page limit sortBy columns).criteria
    (criteria.Evaluates Memory.registry item ↔ ∀ leaf ∈ criteria.leaves, ¬leaf.Fails item) ∧
      (∀ e, criteria.toCondition.truth Memory.registry item = .error e →
        e = .notANumber ∨ e = .tooManyDigits) ∧
      ∀ leaf ∈ criteria.leaves, ∀ column ss, leaf.Compares column ss →
        (item.field column).isNull = false →
        (∀ s ∈ ss, Memory.Incomparable (item.field column) s) →
          leaf.toCondition.truth Memory.registry item = .ok .no := by
  intro criteria
  have hcases : ∀ leaf ∈ criteria.leaves,
      leaf.Fails item ∧ (∃ e, leaf.toCondition.truth Memory.registry item = .error e ∧
        (e = .notANumber ∨ e = .tooManyDigits)) ∨
      ¬leaf.Fails item ∧ leaf.Evaluates Memory.registry item := by
    intro leaf hleaf
    apply (requested_of_mem_leaves hbase hleaf).cases
    rintro column comparator v rfl
    exact hfields column comparator v hleaf
  refine ⟨?_, ?_, ?_⟩
  · -- criteria evaluate when their leaves do, and each leaf either fails or evaluates
    rw [Predicate.evaluates_iff_leaves]
    refine forall₂_congr fun leaf hleaf => ?_
    rcases hcases leaf hleaf with ⟨hfails, e, he, -⟩ | ⟨hnot, hevaluates⟩
    · refine iff_of_false ?_ fun hnot => hnot hfails
      rintro ⟨t, ht⟩
      rw [he] at ht
      cases ht
    · exact iff_of_true hevaluates hnot
  · -- the fault of the criteria is that of a leaf
    intro e he
    rcases Predicate.exists_leaf_of_error he with ⟨leaf, hleaf, hfault⟩
    rcases hcases leaf hleaf with ⟨-, e', he', hkinds⟩ | ⟨-, t, ht⟩
    · rw [hfault] at he'
      cases he'
      exact hkinds
    · rw [hfault] at ht
      cases ht
  · intro leaf hleaf column ss hcompares hnull hss
    rcases Predicate.exists_test_of_mem_leaves hleaf with ⟨column', comparator, v, rfl⟩
    have hordinary := hfields column' comparator v hleaf
    cases hcompares with
    | one hc s => exact (Predicate.Compares.one hc s).truth_eq_no hordinary hnull hss
    | oneOf => exact (Predicate.Compares.oneOf ss).truth_eq_no hordinary hnull hss

def goodsConfig : Config where
  sortable := ["id"]
  searchable := some ["name"]
  maxLimit := 100
  defaultSort := none
  defaultLimit := 20
  criteria := none
  filterable := .ofList [("price", [.gt])]
  maxLimit_pos := Config.standardMaxLimit_pos
  defaultLimit_pos := Config.standardLimit_pos

def deskPlan (price : String) : Plan :=
  let r : Request :=
    ⟨"/goods", none, none, none, some "desk", none, some (.ofList [("price", .one price)])⟩
  r.planWith goodsConfig 1 20 [⟨"id", "ASC"⟩] ["name"]

def desk : Value :=
  .record [("name", .text "Writing desk"), ("price", .decimal (.finite false 950 (-2)))]

theorem isOrdinary_desk {price s : String}
    (h : (deskPlan price).criteria.leaves =
      [.test "name" .contains (.text "desk"), .test "price" .gt (.text s)]) :
    ∀ column comparator v, .test column comparator v ∈ (deskPlan price).criteria.leaves →
      (desk.field column).isOrdinary = true := by
  have hname : (desk.field "name").isOrdinary = true := by decide +kernel
  have hprice : (desk.field "price").isOrdinary = true := by decide +kernel
  intro column comparator v hmem
  rw [h] at hmem
  simp only [List.mem_cons, List.not_mem_nil, or_false, Predicate.test.injEq] at hmem
  rcases hmem with ⟨rfl, -, -⟩ | ⟨rfl, -, -⟩
  · exact hname
  · exact hprice

/-- A price is no word: the test does not match, and the criteria evaluate. -/
theorem evaluates_planWith_desk :
    (deskPlan "$gt:cheap").criteria.Evaluates Memory.registry desk ∧
      (Predicate.test "price" .gt (.text "cheap")).toCondition.truth Memory.registry desk =
        .ok .no := by
  have hleaves : (deskPlan "$gt:cheap").criteria.leaves =
      [.test "name" .contains (.text "desk"), .test "price" .gt (.text "cheap")] := rfl
  rcases evaluates_planWith (c := goodsConfig) rfl (isOrdinary_desk hleaves) with
    ⟨hevaluates, -, hno⟩
  have hsearched : (desk.field "name").isWritable = true := by decide +kernel
  have hprice : (desk.field "price").readsAs Decimal.isNan "cheap" = false := by decide +kernel
  constructor
  · refine hevaluates.2 ?_
    show ∀ leaf ∈ (deskPlan "$gt:cheap").criteria.leaves, ¬leaf.Fails desk
    rw [hleaves, List.forall_mem_cons, List.forall_mem_singleton]
    constructor
    · intro hfails
      cases hfails with
      | order hc => simp at hc
      | contains h => simp [hsearched] at h
    · intro hfails
      cases hfails with
      | order _ h => simp [hprice] at h
  · apply hno _ (hleaves ▸ List.mem_cons_of_mem _ List.mem_cons_self) "price" ["cheap"]
    · exact .one (by simp) "cheap"
    · decide +kernel
    · rw [List.forall_mem_singleton]
      rfl

/-- A price cannot be ordered with what is not a number: the criteria fail. -/
theorem deskPlan_nan_fails :
    goodsConfig.criteria = none ∧
      (∀ column comparator v, .test column comparator v ∈ (deskPlan "$gt:nan").criteria.leaves →
        (desk.field column).isOrdinary = true) ∧
      ¬(deskPlan "$gt:nan").criteria.Evaluates Memory.registry desk := by
  refine ⟨rfl, isOrdinary_desk (s := "nan") rfl, ?_⟩
  decide +kernel

end Request

end Listing

