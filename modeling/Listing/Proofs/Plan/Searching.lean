import Listing.Proofs.Memory.Operation
import Listing.Proofs.Plan.Confinement
import Listing.Proofs.Plan.Whitelist
import Listing.Proofs.Text.Lower
import Listing.Proofs.Text.Sigma

/-!
# What a search finds

A search looks for the small letters of its term in those of a field.  It finds every term that
stands whole in the text of the field, and terms without open ends wherever they stand; a term with
an open end is missed in some text that has it (`found_iff_closed`).  An item with the term in a
searched column is selected if the base criteria and the filters hold of it
(`isTrue_criteria_of_found`), unless one of the searched columns holds a number with too many digits
to be looked at (`criteria_fail_of_unwritable`).
-/

namespace Listing

namespace Memory

/-- The registered search is a search for small letters. -/
theorem evaluate_contains (field v : Value) :
    evaluate registry .contains field v = contains field v := rfl

/-- A field that is there is searched if it has a text. -/
theorem contains_there {field : Value} (h : field ≠ .null) (term : String) :
    contains field (.text term) =
      if field.isWritable = true then
        .ok (Text.occursIn (Text.lower term.toList) (Text.lower field.shown.toList))
      else .error .tooManyDigits := by
  have hnull : ¬field.isNull = true := fun hn => h (Value.isNull_iff.1 hn)
  have hterm : spell (.text term) = .ok term := rfl
  rw [contains, if_neg hnull, hterm, Outcome.ok_bind, spell]
  split <;> rfl

theorem contains_text (text term : String) :
    contains (.text text) (.text term) =
      .ok (Text.occursIn (Text.lower term.toList) (Text.lower text.toList)) := rfl

/-- A term that stands whole in the text of a field is found. -/
theorem contains_of_standsWhole {field : Value} (h : field ≠ .null)
    (hwritable : field.isWritable = true) {term : String}
    (hwhole : Text.StandsWhole term.toList field.shown.toList) :
    contains field (.text term) = .ok true := by
  rw [contains_there h, if_pos hwritable, Text.occursIn_iff.2 hwhole.isInfix_lower]

/-- A term is found in all texts that have it just when it has no open end. -/
theorem found_iff_closed (term : String) :
    (∀ text : String, term.toList <:+: text.toList →
        contains (.text text) (.text term) = .ok true) ↔
      ¬Text.OpenEnded term.toList := by
  constructor
  · intro hfound hopen
    -- an open end is closed otherwise in some text that goes on
    rcases hopen.exists_not_isInfix with ⟨text, hpart, hmissed⟩
    have htext : (String.ofList text).toList = text := String.toList_ofList
    have hcontains := hfound (String.ofList text) (by rwa [htext])
    rw [contains_text, Except.ok.injEq, Text.occursIn_iff, htext] at hcontains
    exact hmissed hcontains
  · intro hclosed text hpart
    rw [contains_text, Except.ok.injEq, Text.occursIn_iff]
    exact (Text.standsWhole_of_isInfix hclosed hpart).isInfix_lower

end Memory

namespace Predicate

variable {item : Value} {column term : String}

/-- The search of a column that is there. -/
theorem truth_searchTest (h : item.field column ≠ .null) :
    (test column .contains (.text term)).toCondition.truth Memory.registry item =
      Truth.ofBool <$> Memory.contains (item.field column) (.text term) :=
  truth_there (by decide) h (.text term)

/-- A column can be searched if its value has a text. -/
theorem evaluates_searchTest :
    (test column .contains (.text term)).Evaluates Memory.registry item ↔
      (item.field column).isWritable = true := by
  by_cases hnull : item.field column = .null
  · rw [hnull]
    exact iff_of_true ⟨_, truth_missing (by decide) (by decide) hnull _⟩ rfl
  · rw [Evaluates, Condition.Evaluates, truth_searchTest hnull, Memory.contains_there hnull]
    split
    · next hwritable => exact iff_of_true ⟨_, rfl⟩ hwritable
    · next hlong =>
      have hfails : ¬∃ t, Truth.ofBool <$> (.error .tooManyDigits : Outcome Bool) = .ok t := by
        rintro ⟨t, ht⟩
        cases ht
      exact iff_of_false hfails hlong

/-- There is one fault that the search of a column ends in. -/
theorem fault_searchTest {e : Fault}
    (h : (test column .contains (.text term)).toCondition.truth Memory.registry item = .error e) :
    e = .tooManyDigits := by
  by_cases hnull : item.field column = .null
  · rw [truth_missing (by decide) (by decide) hnull] at h
    cases h
  · rw [truth_searchTest hnull, Memory.contains_there hnull] at h
    split at h <;> cases h
    rfl

/-- A column whose text has the term whole is found. -/
theorem isTrue_searchTest (h : item.field column ≠ .null)
    (hwritable : (item.field column).isWritable = true)
    (hwhole : Text.StandsWhole term.toList (item.field column).shown.toList) :
    (test column .contains (.text term)).IsTrue Memory.registry item := by
  rw [IsTrue, Condition.IsTrue, truth_searchTest h,
    Memory.contains_of_standsWhole h hwritable hwhole]
  rfl

end Predicate

namespace Request

variable {r : Request} {c : Config} {page limit : Int} {sortBy : List SortKey}
  {columns : List String} {item : Value} {reg : Registry Memory.Operation}

theorem mem_searchGroup {g : Predicate} :
    g ∈ r.searchGroup columns ↔
      r.search.getD "" ≠ "" ∧ columns ≠ [] ∧ g = searchPredicate (r.search.getD "") columns := by
  unfold searchGroup
  cases r.search with
  | none => simp
  | some term =>
    simp only [Option.getD_some]
    split
    · next hempty =>
      have hno : ¬(term ≠ "" ∧ columns ≠ []) := by simpa [imp_iff_not_or] using hempty
      simp only [List.not_mem_nil, false_iff]
      exact fun h => hno ⟨h.1, h.2.1⟩
    · next hsome =>
      have hboth : term ≠ "" ∧ columns ≠ [] := by simpa using hsome
      rw [List.mem_singleton, and_iff_right hboth.1, and_iff_right hboth.2]

/-- A search evaluates when each of its columns can be searched. -/
theorem evaluates_searchPredicate {term : String} :
    (searchPredicate term columns).Evaluates Memory.registry item ↔
      ∀ column ∈ columns, (item.field column).isWritable = true := by
  rw [searchPredicate, Predicate.evaluates_any, List.forall_mem_map]
  exact forall₂_congr fun _ _ => Predicate.evaluates_searchTest

/-- The criteria of a plan evaluate just when each source does by itself. -/
theorem evaluates_criteria :
    (r.planWith c page limit sortBy columns).criteria.Evaluates reg item ↔
      ((∀ g ∈ baseGroup c, g.Evaluates reg item) ∧
        ∀ g ∈ r.searchGroup columns, g.Evaluates reg item) ∧
      ∀ g ∈ r.filterGroup c, g.Evaluates reg item := by
  have hgroups : (r.planWith c page limit sortBy columns).criteria =
      .all (baseGroup c ++ r.searchGroup columns ++ r.filterGroup c) := rfl
  rw [hgroups, Predicate.evaluates_all, List.forall_mem_append, List.forall_mem_append]

/-- Where the base criteria and the filters hold, criteria fail with the fault of a leaf of the
search. -/
theorem exists_leaf_of_error {e : Fault} (hbase : ∀ g ∈ baseGroup c, g.IsTrue reg item)
    (hfilter : ∀ g ∈ r.filterGroup c, g.IsTrue reg item)
    (h : (r.planWith c page limit sortBy columns).criteria.toCondition.truth reg item = .error e) :
    ∃ g ∈ r.searchGroup columns, ∃ leaf ∈ g.leaves,
      leaf.toCondition.truth reg item = .error e := by
  rcases Predicate.exists_leaf_of_error h with ⟨leaf, hleaf, herror⟩
  have hgroups : leaf ∈ Predicate.leavesOf
      (baseGroup c ++ r.searchGroup columns ++ r.filterGroup c) := hleaf
  rw [Predicate.leavesOf_eq_flatMap] at hgroups
  rcases List.mem_flatMap.1 hgroups with ⟨g, hg, hleaf⟩
  -- a group that holds has no failing leaf, so the leaf is one of the search
  have hfails : ¬g.IsTrue reg item := by
    intro htrue
    rcases Predicate.Evaluates.leaf htrue.evaluates leaf hleaf with ⟨t, ht⟩
    rw [herror] at ht
    cases ht
  rcases List.mem_append.1 hg with hg | hg
  · rcases List.mem_append.1 hg with hg | hg
    · exact absurd (hbase g hg) hfails
    · exact ⟨g, hg, leaf, hleaf, herror⟩
  · exact absurd (hfilter g hg) hfails

/-- An item that the base criteria and the filters hold of is selected by a search that finds its
term in one column, if all its columns can be searched. -/
theorem isTrue_criteria_of_found
    (hbase : ∀ p ∈ c.criteria, p.IsTrue Memory.registry item)
    (hfilter : ∀ f ∈ r.filter, ∀ e ∈ Filter.compile c.filterable f,
      e.2.IsTrue Memory.registry item)
    (hfound : ∃ column ∈ columns, item.field column ≠ .null ∧
      Text.StandsWhole (r.search.getD "").toList (item.field column).shown.toList)
    (hwritable : r.search.getD "" = "" ∨
      ∀ column ∈ columns, (item.field column).isWritable = true) :
    (r.planWith c page limit sortBy columns).criteria.IsTrue Memory.registry item := by
  have hsearchGroup : ∀ g ∈ r.searchGroup columns, g.Evaluates Memory.registry item := by
    intro g hg
    rcases mem_searchGroup.1 hg with ⟨hterm, -, rfl⟩
    exact evaluates_searchPredicate.2 (hwritable.resolve_left hterm)
  -- what holds evaluates, so only the search is left to be looked at
  have hevaluates :
      (r.planWith c page limit sortBy columns).criteria.Evaluates Memory.registry item := by
    refine evaluates_criteria.2 ⟨⟨?_, hsearchGroup⟩, ?_⟩
    · exact fun g hg => (isTrue_baseGroup.2 hbase g hg).evaluates
    · exact fun g hg => (isTrue_filterGroup.2 hfilter g hg).evaluates
  refine (isTrue_criteria hevaluates).2 ⟨hbase, ?_, hfilter⟩
  rcases hwritable with hterm | hwritable
  · exact Or.inl hterm
  · rcases hfound with ⟨column, hcolumn, hnull, hwhole⟩
    refine Or.inr (Or.inr ⟨column, hcolumn, ?_⟩)
    exact Predicate.isTrue_searchTest hnull (hwritable column hcolumn) hwhole

/-- If one of them cannot be searched, looking at the item fails. -/
theorem criteria_fail_of_unwritable
    (hbase : ∀ p ∈ c.criteria, p.IsTrue Memory.registry item)
    (hfilter : ∀ f ∈ r.filter, ∀ e ∈ Filter.compile c.filterable f,
      e.2.IsTrue Memory.registry item)
    (hterm : r.search.getD "" ≠ "")
    (hlong : ¬∀ column ∈ columns, (item.field column).isWritable = true) :
    (r.planWith c page limit sortBy columns).criteria.toCondition.truth Memory.registry item =
      .error .tooManyDigits := by
  have hsearch : searchPredicate (r.search.getD "") columns ∈ r.searchGroup columns := by
    refine mem_searchGroup.2 ⟨hterm, ?_, rfl⟩
    rintro rfl
    exact hlong fun _ h => absurd h List.not_mem_nil
  cases htruth : (r.planWith c page limit sortBy columns).criteria.toCondition.truth
      Memory.registry item with
  | ok t =>
    -- the group of the search would be definite or unknown by itself then
    have hevaluates := (evaluates_criteria.1 ⟨t, htruth⟩).1.2 _ hsearch
    exact absurd (evaluates_searchPredicate.1 hevaluates) hlong
  | error e =>
    -- the leaf that fails is one of the search, which has one fault only
    have hbaseGroup := isTrue_baseGroup.2 hbase
    rcases exists_leaf_of_error hbaseGroup (isTrue_filterGroup.2 hfilter) htruth with
      ⟨g, hg, leaf, hleaf, herror⟩
    rcases mem_searchGroup.1 hg with ⟨-, -, rfl⟩
    rcases searchesOnly_searchPredicate (fun _ h => h) leaf hleaf with ⟨column, -, rfl⟩
    rw [Predicate.fault_searchTest herror]

/-- A search finds a term wherever it stands whole in a text.  So it finds all texts that have the
term just when the term has no open end, and it selects an item with the whole term in a searched
column that the base criteria and the filters hold of, unless a searched column has no text. -/
theorem finds_whole_terms (term : String) :
    (∀ text : String, Text.StandsWhole term.toList text.toList →
      Memory.evaluate Memory.registry .contains (.text text) (.text term) = .ok true) ∧
    ((∀ text : String, term.toList <:+: text.toList →
        Memory.evaluate Memory.registry .contains (.text text) (.text term) = .ok true) ↔
      ¬Text.OpenEnded term.toList) ∧
    ∀ (r : Request) (c : Config) (plan : Plan) (item : Value), r.search = some term →
      r.plan c = .ok plan →
      (∀ p ∈ c.criteria, p.IsTrue Memory.registry item) →
      (∀ f ∈ r.filter, ∀ e ∈ Filter.compile c.filterable f, e.2.IsTrue Memory.registry item) →
      (∃ column ∈ c.resolveSearch r.searchBy, item.field column ≠ .null ∧
        Text.StandsWhole term.toList (item.field column).shown.toList) →
      plan.criteria.toCondition.truth Memory.registry item =
        if term = "" ∨
            ∀ column ∈ c.resolveSearch r.searchBy, (item.field column).isWritable = true then
          .ok .yes
        else .error .tooManyDigits := by
  refine ⟨?_, Memory.found_iff_closed term, ?_⟩
  · intro text hwhole
    rw [Memory.evaluate_contains, Memory.contains_text, Text.occursIn_iff.2 hwhole.isInfix_lower]
  · intro r c plan item hsearch hplan hbase hfilter hfound
    have hterm : r.search.getD "" = term := by rw [hsearch, Option.getD_some]
    subst hterm
    rcases plan_eq_ok.1 hplan with ⟨sortBy, -, rfl⟩
    split
    · next hwritable => exact isTrue_criteria_of_found hbase hfilter hfound hwritable
    · next hlong =>
      rw [not_or] at hlong
      exact criteria_fail_of_unwritable hbase hfilter hlong.1 hlong.2

def streetConfig : Config where
  sortable := ["name"]
  searchable := some ["town", "name"]
  maxLimit := 100
  defaultSort := none
  defaultLimit := 20
  criteria := some (.test "closed" .isNull .null)
  filterable := .ofList [("lanes", [.gt])]
  maxLimit_pos := Config.standardMaxLimit_pos
  defaultLimit_pos := Config.standardLimit_pos

def streetRequest : Request :=
  ⟨"/streets", none, none, none, some "ΟΔΟΣ", none, some (.ofList [("lanes", .one "$gt:1")])⟩

def street (name : String) : Value :=
  .record [("name", .text name), ("town", .null), ("lanes", .int 2)]

def streetPlan : Plan :=
  streetRequest.planWith streetConfig 1 20 [⟨"name", "ASC"⟩] ["town", "name"]

/-- A word that is followed by a blank is found. -/
theorem finds_whole_terms_street :
    Text.StandsWhole "ΟΔΟΣ".toList "ΟΔΟΣ ΕΡΜΟΥ".toList ∧
      streetRequest.plan streetConfig = .ok streetPlan ∧
      (∀ p ∈ streetConfig.criteria, p.IsTrue Memory.registry (street "ΟΔΟΣ ΕΡΜΟΥ")) ∧
      (∀ f ∈ streetRequest.filter, ∀ e ∈ Filter.compile streetConfig.filterable f,
        e.2.IsTrue Memory.registry (street "ΟΔΟΣ ΕΡΜΟΥ")) ∧
      streetPlan.criteria.toCondition.truth Memory.registry (street "ΟΔΟΣ ΕΡΜΟΥ") = .ok .yes := by
  have hwhole : Text.StandsWhole "ΟΔΟΣ".toList "ΟΔΟΣ ΕΡΜΟΥ".toList := by
    refine ⟨[], " ΕΡΜΟΥ".toList, by decide, Text.lowerPart_eq_lower_iff.1 ?_⟩
    decide +kernel
  -- the decision goes through lists, as membership in an option is not decidable
  have hadmits : (∀ p ∈ streetConfig.criteria.toList,
        p.IsTrue Memory.registry (street "ΟΔΟΣ ΕΡΜΟΥ")) ∧
      ∀ f ∈ streetRequest.filter.toList, ∀ e ∈ Filter.compile streetConfig.filterable f,
        e.2.IsTrue Memory.registry (street "ΟΔΟΣ ΕΡΜΟΥ") := by
    decide +kernel
  have hbase : ∀ p ∈ streetConfig.criteria,
      p.IsTrue Memory.registry (street "ΟΔΟΣ ΕΡΜΟΥ") := by simpa using hadmits.1
  have hfilter : ∀ f ∈ streetRequest.filter, ∀ e ∈ Filter.compile streetConfig.filterable f,
      e.2.IsTrue Memory.registry (street "ΟΔΟΣ ΕΡΜΟΥ") := by simpa using hadmits.2
  have hname : (street "ΟΔΟΣ ΕΡΜΟΥ").field "name" = .text "ΟΔΟΣ ΕΡΜΟΥ" := rfl
  have hfound : ∃ column ∈ streetConfig.resolveSearch streetRequest.searchBy,
      (street "ΟΔΟΣ ΕΡΜΟΥ").field column ≠ .null ∧
        Text.StandsWhole "ΟΔΟΣ".toList ((street "ΟΔΟΣ ΕΡΜΟΥ").field column).shown.toList :=
    ⟨"name", by decide, by simp [hname], hname ▸ hwhole⟩
  have hplan : streetRequest.plan streetConfig = .ok streetPlan := rfl
  have htruth := (finds_whole_terms "ΟΔΟΣ").2.2 _ _ _ _ rfl hplan hbase hfilter hfound
  refine ⟨hwhole, hplan, hbase, hfilter, htruth.trans (if_pos (Or.inr ?_))⟩
  decide +kernel

/-- A word that goes on is missed, although the name has it: by itself it ends in a final sigma. -/
theorem street_not_found :
    "ΟΔΟΣ".toList <:+: "ΟΔΟΣΗΜΑ".toList ∧
      Memory.evaluate Memory.registry .contains (.text "ΟΔΟΣΗΜΑ") (.text "ΟΔΟΣ") = .ok false ∧
      streetRequest.plan streetConfig = .ok streetPlan ∧
      (∀ p ∈ streetConfig.criteria.toList, p.IsTrue Memory.registry (street "ΟΔΟΣΗΜΑ")) ∧
      (∀ f ∈ streetRequest.filter.toList, ∀ e ∈ Filter.compile streetConfig.filterable f,
        e.2.IsTrue Memory.registry (street "ΟΔΟΣΗΜΑ")) ∧
      ¬streetPlan.criteria.IsTrue Memory.registry (street "ΟΔΟΣΗΜΑ") := by
  have hpart : "ΟΔΟΣ".toList <:+: "ΟΔΟΣΗΜΑ".toList := ⟨[], "ΗΜΑ".toList, by decide⟩
  have hsmall : Text.occursIn (Text.lower "ΟΔΟΣ".toList) (Text.lower "ΟΔΟΣΗΜΑ".toList) = false := by
    decide +kernel
  have hmissed : Memory.evaluate Memory.registry .contains (.text "ΟΔΟΣΗΜΑ") (.text "ΟΔΟΣ") =
      .ok false := by
    rw [Memory.evaluate_contains, Memory.contains_text, hsmall]
  refine ⟨hpart, hmissed, rfl, ?_, ?_, ?_⟩
  · decide +kernel
  · decide +kernel
  · decide +kernel

end Request

end Listing
