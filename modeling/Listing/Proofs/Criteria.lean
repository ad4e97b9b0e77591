import Listing.Check.Config
import Listing.Proofs.Predicate.Truth

/-!
# What base criteria mean

Base criteria stand for a predicate unless something in them, at any depth of alternatives, is none
of the three kinds (`toPredicate?_eq_none_iff`).  On every item that the predicate evaluates on it is
true just when the criteria hold, which takes only two truth values to say: all entries of a mapping
hold, one of some alternatives does (`isTrue_iff_holds`).  So a configuration takes base criteria,
whatever else it is made of, just when it can say what they mean (`ofFields_criteria`).
-/

namespace Listing

/-- An item meets what a mapping asks of a column.  Members in a tuple are compared as a list. -/
def Requirement.IsMet (item : Value) (column : String) : Requirement → Prop
  | predicate p => p.IsTrue Memory.registry item
  | absent => item.field column = .null
  | equals v =>
    item.field column ≠ .null ∧ Memory.equals (item.field column) v.tupleToList = .ok true

/-- The predicate that is made of a requirement says just that the item meets it. -/
theorem Requirement.isTrue_toPredicate {item : Value} (column : String) (q : Requirement) :
    (q.toPredicate column).IsTrue Memory.registry item ↔ q.IsMet item column := by
  cases q with
  | predicate p => exact Iff.rfl
  | absent =>
    have htest : Memory.evaluate Memory.registry .isNull (item.field column) Value.null.tupleToList =
        .ok (item.field column).isNull := rfl
    rw [toPredicate, Predicate.isTrue_test (by decide), htest, Except.ok.injEq, Value.isNull_iff]
    exact and_iff_right fun _ => rfl
  | equals v =>
    rw [toPredicate, Predicate.isTrue_test (by decide)]
    exact and_congr_left fun _ => imp_congr_right fun _ => iff_of_false (by decide) id

namespace Criteria

/-- Base criteria hold of an item. -/
inductive Holds (item : Value) : Criteria → Prop
  | predicate {p : Predicate} (h : p.IsTrue Memory.registry item) : Holds item (predicate p)
  | columns {entries : List (String × Requirement)} (h : ∀ e ∈ entries, e.2.IsMet item e.1) :
    Holds item (columns entries)
  | alternatives {members : List Criteria} {c : Criteria} (hc : c ∈ members) (h : Holds item c) :
    Holds item (alternatives members)

/-- Base criteria are, or have among their alternatives at any depth, something that is neither a
predicate nor a mapping nor a sequence. -/
inductive Malformed : Criteria → Prop
  | other : Malformed other
  | alternatives {members : List Criteria} {c : Criteria} (hc : c ∈ members) (h : Malformed c) :
    Malformed (alternatives members)

variable {item : Value}

theorem holds_predicate {p : Predicate} :
    (predicate p).Holds item ↔ p.IsTrue Memory.registry item :=
  ⟨fun h => by cases h; assumption, .predicate⟩

/-- A mapping holds of an item that meets each of its entries. -/
theorem holds_columns {entries : List (String × Requirement)} :
    (columns entries).Holds item ↔ ∀ e ∈ entries, e.2.IsMet item e.1 :=
  ⟨fun h => by cases h; assumption, .columns⟩

/-- Alternatives hold when one of them does, and when there are none they never do. -/
theorem holds_alternatives {members : List Criteria} :
    (alternatives members).Holds item ↔ ∃ c ∈ members, c.Holds item := by
  constructor
  · intro h
    cases h with
    | alternatives hc h => exact ⟨_, hc, h⟩
  · rintro ⟨c, hc, h⟩
    exact .alternatives hc h

theorem malformed_alternatives {members : List Criteria} :
    (alternatives members).Malformed ↔ ∃ c ∈ members, c.Malformed := by
  constructor
  · intro h
    cases h with
    | alternatives hc h => exact ⟨_, hc, h⟩
  · rintro ⟨c, hc, h⟩
    exact .alternatives hc h

/-! ## The predicate of criteria -/

/-- Some criteria stand for predicates just when the first and the others do. -/
theorem toPredicates?_cons {c : Criteria} {cs : List Criteria} {ps : List Predicate} :
    toPredicates? (c :: cs) = some ps ↔
      ∃ p qs, c.toPredicate? = some p ∧ toPredicates? cs = some qs ∧ ps = p :: qs := by
  rw [toPredicates?]
  cases c.toPredicate? with
  | none => simp
  | some p =>
    cases toPredicates? cs with
    | none => simp
    | some qs => simp [eq_comm]

mutual

/-- Criteria stand for no predicate just when something in them is of no kind. -/
theorem toPredicate?_eq_none_iff : ∀ c : Criteria, c.toPredicate? = none ↔ c.Malformed
  | predicate p => by
    refine iff_of_false (by simp [toPredicate?]) ?_
    intro h
    cases h
  | columns entries => by
    refine iff_of_false (by simp [toPredicate?]) ?_
    intro h
    cases h
  | alternatives members => by
    rw [toPredicate?, Option.map_eq_none_iff, malformed_alternatives]
    exact toPredicates?_eq_none_iff members
  | other => iff_of_true rfl .other

theorem toPredicates?_eq_none_iff : ∀ cs : List Criteria,
    toPredicates? cs = none ↔ ∃ c ∈ cs, c.Malformed
  | [] => by simp [toPredicates?]
  | c :: cs => by
    simp only [List.mem_cons, exists_eq_or_imp]
    rw [← toPredicate?_eq_none_iff c, ← toPredicates?_eq_none_iff cs, toPredicates?]
    -- the first member is looked at first, but any failing one will do
    cases c.toPredicate? with
    | none => simp
    | some p => cases toPredicates? cs <;> simp

end

mutual

/-- On an item that it evaluates on, the predicate of some criteria says what they say. -/
theorem isTrue_iff_holds : ∀ {c : Criteria} {p : Predicate}, c.toPredicate? = some p →
    p.Evaluates Memory.registry item → (p.IsTrue Memory.registry item ↔ c.Holds item)
  | predicate q, p, h, _ => by
    rw [toPredicate?, Option.some.injEq] at h
    rw [← h, holds_predicate]
  | columns entries, p, h, _ => by
    rw [toPredicate?, Option.some.injEq] at h
    rw [← h, holds_columns, Predicate.isTrue_all, List.forall_mem_map]
    exact forall₂_congr fun e _ => e.2.isTrue_toPredicate e.1
  | alternatives members, p, h, he => by
    rw [toPredicate?, Option.map_eq_some_iff] at h
    rcases h with ⟨ps, hps, rfl⟩
    -- evaluation of a disjunction takes that of each member, so the members can be compared one by
    -- one
    rw [Predicate.isTrue_any he, holds_alternatives]
    exact exists_isTrue_iff_holds hps (Predicate.evaluates_any.1 he)
  | other, _, h, _ => by cases h

theorem exists_isTrue_iff_holds : ∀ {cs : List Criteria} {ps : List Predicate},
    toPredicates? cs = some ps → (∀ p ∈ ps, p.Evaluates Memory.registry item) →
      ((∃ p ∈ ps, p.IsTrue Memory.registry item) ↔ ∃ c ∈ cs, c.Holds item)
  | [], ps, h, _ => by
    rw [toPredicates?, Option.some.injEq] at h
    rw [← h]
    simp
  | c :: cs, ps, h, he => by
    rcases toPredicates?_cons.1 h with ⟨p, qs, hp, hqs, rfl⟩
    rw [List.forall_mem_cons] at he
    simp only [List.mem_cons, exists_eq_or_imp]
    rw [isTrue_iff_holds hp he.1, exists_isTrue_iff_holds hqs he.2]

end

end Criteria

/-! ## Configurations with criteria -/

namespace Check

variable {α β : Type}

/-- Two checks put together pass just when both do. -/
theorem seq_eq_passed {f : Check (α → β)} {c : Check α} {b : β} :
    f <*> c = passed b ↔ ∃ g a, f = passed g ∧ c = passed a ∧ g a = b := by
  show f.and (fun _ => c) = passed b ↔ _
  cases f <;> cases c <;> simp [Check.and]

theorem map_eq_passed {f : α → β} {c : Check α} {b : β} :
    f <$> c = passed b ↔ ∃ a, c = passed a ∧ f a = b := by
  show c.map f = passed b ↔ _
  cases c <;> simp [map]

/-- Two checks put together have the issues of both. -/
theorem mem_issues_seq {f : Check (α → β)} {c : Check α} {i : Issue} :
    i ∈ (f <*> c).issues ↔ i ∈ f.issues ∨ i ∈ c.issues := by
  show i ∈ (f.and fun _ => c).issues ↔ _
  rw [issues_and, List.mem_append]

theorem outcome_eq_ok {c : Check α} {model : String} {a : α} :
    c.outcome model = .ok a ↔ c = passed a := by
  cases c <;> simp [outcome]

/-- A check with an issue fails with all the issues it has. -/
theorem outcome_of_mem_issues {c : Check α} {i : Issue} (h : i ∈ c.issues) (model : String) :
    c.outcome model = .error (.invalid model c.issues) := by
  cases c with
  | passed a => cases h
  | failed is => rfl

/-- Criteria that stand for a predicate are taken into the configuration that the other fields
make. -/
theorem config_of_toPredicate? {fields : Fields} {c : Config} {w : Criteria} {p : Predicate}
    (hw : w.toPredicate? = some p) (h : config fields none = passed c) :
    config fields (some w) = passed { c with criteria := some p } := by
  have hcriteria : criteria (some w) = passed (some p) := by rw [criteria, hw]
  -- the checks are put together from left to right, so the last field comes off first
  rcases seq_eq_passed.1 h with ⟨_, filterable, h₆, hfilterable, rfl⟩
  rcases seq_eq_passed.1 h₆ with ⟨_, base, h₅, hbase, rfl⟩
  rcases seq_eq_passed.1 h₅ with ⟨_, limit, h₄, hlimit, rfl⟩
  rcases seq_eq_passed.1 h₄ with ⟨_, sort, h₃, hsort, rfl⟩
  rcases seq_eq_passed.1 h₃ with ⟨_, maxLimit, h₂, hmaxLimit, rfl⟩
  rcases seq_eq_passed.1 h₂ with ⟨_, searchable, h₁, hsearchable, rfl⟩
  rcases map_eq_passed.1 h₁ with ⟨sortable, hsortable, rfl⟩
  rw [config, hsortable, hsearchable, hmaxLimit, hsort, hlimit, hcriteria, hfilterable]
  rfl

/-- Criteria that stand for none are an issue, whatever the other fields are. -/
theorem mem_issues_config {w : Criteria} (hw : w.toPredicate? = none) (fields : Fields) :
    ⟨[.name "where"], .isCriteria⟩ ∈ (config fields (some w)).issues := by
  have hcriteria : ⟨[.name "where"], .isCriteria⟩ ∈ (criteria (some w)).issues := by
    rw [criteria, hw]
    exact List.mem_singleton.2 rfl
  exact mem_issues_seq.2 (.inl (mem_issues_seq.2 (.inr hcriteria)))

end Check

namespace Config

/-- Base criteria that are built from predicates, mappings and sequences are accepted along with any
other fields that are, and on every item where the criteria of the configuration evaluate they are
true just when the given criteria hold.  Any other base criteria are turned away, with any fields. -/
theorem ofFields_criteria (fields : Check.Fields) (w : Criteria) :
    (¬w.Malformed → ∀ c, ofFields fields none = .ok c →
      ∃ p, ofFields fields (some w) = .ok { c with criteria := some p } ∧
        ∀ item, p.Evaluates Memory.registry item →
          (p.IsTrue Memory.registry item ↔ w.Holds item)) ∧
    (w.Malformed → ∃ issues,
      ofFields fields (some w) = .error (.invalid "PaginateConfig" issues) ∧
        ⟨[.name "where"], .isCriteria⟩ ∈ issues) := by
  constructor
  · intro hw c hc
    rw [← Criteria.toPredicate?_eq_none_iff, ← ne_eq, Option.ne_none_iff_exists'] at hw
    rcases hw with ⟨p, hp⟩
    have hconfig := Check.config_of_toPredicate? hp (Check.outcome_eq_ok.1 hc)
    exact ⟨p, Check.outcome_eq_ok.2 hconfig, fun item => Criteria.isTrue_iff_holds hp⟩
  · intro hw
    have hissue := Check.mem_issues_config ((Criteria.toPredicate?_eq_none_iff w).2 hw) fields
    exact ⟨_, Check.outcome_of_mem_issues hissue _, hissue⟩

/-- Tickets of a team, or tickets without an owner that are not closed. -/
def ticketCriteria : Criteria :=
  .alternatives [.columns [("team", .equals (.text "network"))],
    .alternatives [.columns [("owner", .absent),
      ("unused", .predicate (.negation (.test "state" .eq (.text "closed"))))], .alternatives []]]

/-- An open ticket that nobody owns meets the inner alternative, and nothing can be made of criteria
with a missing alternative. -/
theorem ofFields_criteria_tickets :
    let fields : Check.Fields := [("sortable_columns", .list [.text "id"])]
    let ticket : Value := .record [("team", .text "storage"), ("state", .text "open")]
    (¬ticketCriteria.Malformed ∧ ∃ c p, ofFields fields none = .ok c ∧
      ofFields fields (some ticketCriteria) = .ok { c with criteria := some p } ∧
        p.Evaluates Memory.registry ticket ∧ p.IsTrue Memory.registry ticket) ∧
    ∃ issues, ofFields fields (some (.alternatives [.columns [], .alternatives [.other]])) =
        .error (.invalid "PaginateConfig" issues) ∧
      ⟨[.name "where"], .isCriteria⟩ ∈ issues := by
  intro fields ticket
  have hpredicate : ticketCriteria.toPredicate? =
      some (.any [.all [.test "team" .eq (.text "network")],
        .any [.all [.test "owner" .isNull .null,
          .negation (.test "state" .eq (.text "closed"))], .any []]]) := rfl
  have hformed : ¬ticketCriteria.Malformed := by
    rw [← Criteria.toPredicate?_eq_none_iff, hpredicate]
    simp
  have hmalformed : (Criteria.alternatives [.columns [], .alternatives [.other]]).Malformed :=
    .alternatives (List.mem_cons_of_mem _ List.mem_cons_self)
      (.alternatives List.mem_cons_self .other)
  rcases (ofFields_criteria fields ticketCriteria).1 hformed _ rfl with ⟨p, hp, hmeaning⟩
  refine ⟨⟨hformed, _, p, rfl, hp, ?_⟩, (ofFields_criteria fields _).2 hmalformed⟩
  have hgiven : some p = ticketCriteria.toPredicate? :=
    (congrArg Config.criteria (Except.ok.inj hp)).symm
  rw [hpredicate, Option.some.injEq] at hgiven
  subst hgiven
  refine ⟨by decide +kernel, (hmeaning ticket (by decide +kernel)).2 ?_⟩
  -- the second alternative holds, and of its alternatives the first
  refine .alternatives (List.mem_cons_of_mem _ List.mem_cons_self)
    (.alternatives List.mem_cons_self (.columns ?_))
  have howner : ticket.field "owner" = .null := Value.isNull_iff.1 (by decide +kernel)
  have hstate : (Predicate.negation (.test "state" .eq (.text "closed"))).IsTrue
      Memory.registry ticket := by decide +kernel
  rw [List.forall_mem_cons, List.forall_mem_singleton]
  exact ⟨howner, hstate⟩

end Config

end Listing
