import Mathlib.Tactic.Choose
import Listing.Proofs.Filter.Spelling
import Listing.Proofs.Memory.Operation
import Listing.Proofs.Predicate.Laws

/-!
# Alternatives as a disjunction

A statement with `$in` asks that a column equal one of some texts.  In memory this is one loop, which
stops at the first equal text; a disjunction of equalities looks at every text by itself.  If each
text can be told apart from the field, both have the same truth (`truth_oneOf`).  So one may stand for
the other at any place inside any predicate (`Context.truth_congr`), and this is what the statement
compiles to in a filter (`compile_alternatives`).
-/

namespace Listing

namespace Predicate

/-! ## Places inside a predicate -/

/-- A predicate with one place left open, at any depth. -/
inductive Context where
  | here
  | negation (inner : Context)
  /-- A place in one member of a group, with the members before it and after it. -/
  | member (conjunctive : Bool) (before : List Predicate) (inner : Context)
      (after : List Predicate)

/-- The predicate with the open place filled. -/
def Context.fill : Context → Predicate → Predicate
  | here, p => p
  | negation inner, p => .negation (inner.fill p)
  | member k before inner after, p => group k (before ++ inner.fill p :: after)

variable {reg : Registry Memory.Operation} {item : Value} {p q : Predicate}

theorem truth_group (k : Bool) (ps : List Predicate) :
    (group k ps).toCondition.truth reg item =
      Truth.combine k <$> Condition.truths reg item (toConditions ps) := by
  cases k with
  | true => exact Condition.truth_and _
  | false => exact Condition.truth_or _

/-- The truths of predicates change with none of them. -/
theorem truths_congr (h : p.toCondition.truth reg item = q.toCondition.truth reg item)
    (before after : List Predicate) :
    Condition.truths reg item (toConditions (before ++ p :: after)) =
      Condition.truths reg item (toConditions (before ++ q :: after)) := by
  induction before with
  | nil =>
    rw [List.nil_append, List.nil_append, toConditions, toConditions, Condition.truths,
      Condition.truths, h]
  | cons b before ih =>
    rw [List.cons_append, List.cons_append, toConditions, toConditions, Condition.truths,
      Condition.truths, ih]

/-- Predicates with the same outcome on an item may stand for each other at any place. -/
theorem Context.truth_congr (h : p.toCondition.truth reg item = q.toCondition.truth reg item)
    (place : Context) :
    (place.fill p).toCondition.truth reg item = (place.fill q).toCondition.truth reg item := by
  induction place with
  | here => exact h
  | negation inner ih =>
    rw [fill, fill, toCondition, toCondition, Condition.truth_not, Condition.truth_not, ih]
  | member k before inner after ih =>
    rw [fill, fill, truth_group, truth_group, truths_congr ih]

/-! ## Alternatives -/

/-- One of some texts is equal to a column, each looked at by itself. -/
def equalsAny (column : String) (vs : List String) : Predicate :=
  .any (vs.map fun v => .test column .eq (.text v))

variable {column : String} {vs : List String}

/-- The truth of the disjunction is made of those of its equalities. -/
theorem truth_equalsAny {f : String → Truth}
    (h : ∀ v ∈ vs, (test column .eq (.text v)).toCondition.truth reg item = .ok (f v)) :
    (equalsAny column vs).toCondition.truth reg item = .ok (.any (vs.map f)) := by
  have htruths : Condition.truths reg item
      (toConditions (vs.map fun v => test column .eq (.text v))) = .ok (vs.map f) := by
    rw [Condition.truths_eq_ok, toConditions_eq_map, List.map_map, List.map_map, List.map_map]
    exact List.map_congr_left h
  rw [equalsAny, toCondition, Condition.truth_or, htruths]
  rfl

/-- A test for alternatives has the truth of the disjunction of equalities, if no equality is at
fault. -/
theorem truth_oneOf (hvs : vs ≠ [])
    (h : ∀ v ∈ vs, (test column .eq (.text v)).Evaluates Memory.registry item) :
    ∃ t, (test column .isIn (.tuple (vs.map .text))).toCondition.truth Memory.registry item = .ok t ∧
      (equalsAny column vs).toCondition.truth Memory.registry item = .ok t := by
  by_cases hmissing : item.field column = .null
  · -- nothing is equal to a missing value, and there is at least one text
    refine ⟨.unknown, truth_missing (by decide) (by decide) hmissing _, ?_⟩
    rw [truth_equalsAny fun v _ => truth_missing (by decide) (by decide) hmissing (.text v),
      Truth.any_map_unknown hvs]
  · have hequals : ∀ w ∈ vs.map Value.text, ∃ b, Memory.equals (item.field column) w = .ok b := by
      rw [List.forall_mem_map]
      intro v hv
      have hevaluates := h v hv
      rw [Evaluates, Condition.Evaluates, truth_there (by decide) hmissing] at hevaluates
      rcases hevaluates with ⟨t, ht⟩
      rcases Outcome.map_eq_ok.1 ht with ⟨b, hb, -⟩
      exact ⟨b, hb⟩
    choose! holds hholds using hequals
    refine ⟨.ofBool (vs.any fun v => holds (.text v)), ?_, ?_⟩
    · rw [truth_there (by decide) hmissing]
      show Truth.ofBool <$> Memory.equalsOne (item.field column) (vs.map .text) = _
      rw [Memory.equalsOne_eq_any hholds, List.any_map]
      rfl
    · rw [← Truth.any_map_ofBool]
      apply truth_equalsAny
      intro v hv
      rw [truth_there (by decide) hmissing]
      show Truth.ofBool <$> Memory.equals (item.field column) (.text v) = _
      rw [hholds _ (List.mem_map_of_mem hv)]
      rfl

end Predicate

/-! ## Statements -/

namespace Filter

variable {whitelist : Whitelist} {f : Filter} {column : String} {allowed : List Operator}
  {statements : Statements} {vs : List String}

/-- A filter holds under each of its columns what the column's statements compile to. -/
theorem lookup_compile (whitelist : Whitelist) (f : Filter) (column : String) :
    (compile whitelist f).lookup column =
      (f.lookup column).bind fun statements => (compileColumn whitelist column statements).1 := by
  have hentries : ∀ es : List (String × Statements), (es.map Prod.fst).Nodup →
      (es.filterMap fun e => (compileColumn whitelist e.1 e.2).1.map fun p => (e.1, p)).lookup
          column =
        (es.lookup column).bind fun statements =>
          (compileColumn whitelist column statements).1 := by
    intro es hes
    -- by induction on the entries; that they are of different columns is what carries it
    induction es with
    | nil => rfl
    | cons e es ih =>
      rcases e with ⟨name, statements⟩
      rw [List.map_cons, List.nodup_cons] at hes
      have hrest := ih hes.2
      by_cases hname : column = name
      · subst hname
        -- no later entry is of this column, so none can take its place
        have hnone : es.lookup column = none := by
          rw [List.lookup_eq_none_iff]
          intro e he
          simpa using fun h => hes.1 (List.mem_map.2 ⟨e, he, h.symm⟩)
        rw [hnone] at hrest
        cases hp : (compileColumn whitelist column statements).1 with
        | none => simp [hp, hrest]
        | some p => simp [hp]
      · have hne : (column == name) = false := by simpa using hname
        cases hp : (compileColumn whitelist name statements).1 with
        | none => simp [hp, List.lookup_cons, hne, hrest]
        | some p => simp [hp, List.lookup_cons, hne, hrest]
  exact hentries f.entries f.distinct

/-- The last statement of a column counts, if it is accepted. -/
theorem lookup_compile_of_last {raw : String} {p : Predicate}
    (hcolumn : whitelist.lookup column = some allowed)
    (hstatements : f.lookup column = some statements)
    (hlast : statements.toList.getLast? = some raw)
    (hraw : compileStatement column allowed raw = .ok p) :
    (compile whitelist f).lookup column = some p := by
  have haccepted : accepted? whitelist column raw = some p := by
    rw [accepted?, hcolumn, Option.bind_some, hraw]
    rfl
  rw [lookup_compile, hstatements, Option.bind_some, compileColumn_fst]
  rcases List.getLast?_eq_some_iff.1 hlast with ⟨before, hbefore⟩
  rw [hbefore, List.filterMap_append, List.filterMap_cons_some haccepted, List.filterMap_nil,
    List.getLast?_concat]

/-- Alternatives of a column are the disjunction of its equalities.  A statement with `$in` compiles
to a predicate that has, on every item on which no equality is at fault, the truth of the disjunction,
and it may stand for the disjunction at any place inside any predicate. -/
theorem compile_alternatives (hcolumn : whitelist.lookup column = some allowed)
    (hallowed : .isIn ∈ allowed) (hstatements : f.lookup column = some statements)
    (hlast : statements.toList.getLast? = some ("$in:" ++ Text.joinWith "," vs)) (hvs : vs ≠ [])
    (hv : ∀ v ∈ vs, Statement.Unmarked v.toList ∧ ',' ∉ v.toList)
    (hnull : Text.joinWith "," vs ≠ "$null") :
    ∃ p, (compile whitelist f).lookup column = some p ∧
      ∀ item, (∀ v ∈ vs, (Predicate.test column .eq (.text v)).Evaluates Memory.registry item) →
        (∃ t, p.toCondition.truth Memory.registry item = .ok t ∧
          (Predicate.equalsAny column vs).toCondition.truth Memory.registry item = .ok t) ∧
        ∀ place : Predicate.Context,
          (place.fill p).toCondition.truth Memory.registry item =
            (place.fill (.equalsAny column vs)).toCondition.truth Memory.registry item := by
  have hspells : Spells column [.isIn] ("$in:" ++ Text.joinWith "," vs)
      (.test column .isIn (.tuple (vs.map .text))) := .isIn hvs hv hnull
  have hraw := compileStatement_of_spells hspells (List.forall_mem_singleton.2 hallowed)
  refine ⟨_, lookup_compile_of_last hcolumn hstatements hlast hraw, ?_⟩
  intro item hitem
  rcases Predicate.truth_oneOf hvs hitem with ⟨t, hone, hany⟩
  exact ⟨⟨t, hone, hany⟩, Predicate.Context.truth_congr (hone.trans hany.symm)⟩

/-- Prices may be looked for one by one or among others. -/
def priceWhitelist : Whitelist := .ofList [("price", [.eq, .isIn])]

/-- Of two statements on the price the second one counts. -/
def priceFilter : Filter := .ofList [("price", .many ["$eq:1", "$in:free,,7.50"])]

/-- A price of 7.5 is the last of the alternatives: texts that are no prices differ from it, and
trailing zeros make no difference.  Kept out by a negation, it is kept out as by the disjunction. -/
theorem compile_alternatives_prices :
    let item : Value := .record [("price", .decimal (.finite false 75 (-1)))]
    let place : Predicate.Context :=
      .negation (.member true [.test "stock" .isNull .null] .here [])
    priceWhitelist.lookup "price" = some [.eq, .isIn] ∧
      (∀ v ∈ ["free", "", "7.50"],
        (Predicate.test "price" .eq (.text v)).Evaluates Memory.registry item) ∧
      ∃ p, (compile priceWhitelist priceFilter).lookup "price" = some p ∧
        p.toCondition.truth Memory.registry item = .ok .yes ∧
        (place.fill p).toCondition.truth Memory.registry item =
          (place.fill (.equalsAny "price" ["free", "", "7.50"])).toCondition.truth
            Memory.registry item := by
  intro item place
  have hcolumn : priceWhitelist.lookup "price" = some [.eq, .isIn] := by decide
  have hstatements : priceFilter.lookup "price" = some (.many ["$eq:1", "$in:free,,7.50"]) := by
    decide
  have hitem : ∀ v ∈ ["free", "", "7.50"],
      (Predicate.test "price" .eq (.text v)).Evaluates Memory.registry item := by decide +kernel
  have hyes : (Predicate.equalsAny "price" ["free", "", "7.50"]).IsTrue Memory.registry item := by
    decide +kernel
  rcases @compile_alternatives _ _ _ _ _ ["free", "", "7.50"] hcolumn (by decide) hstatements rfl
    (by decide) (by decide) (by decide) with ⟨p, hp, htruth⟩
  rcases htruth item hitem with ⟨⟨t, hone, hany⟩, hplace⟩
  have ht : t = .yes := Except.ok.inj (hany.symm.trans hyes)
  exact ⟨hcolumn, hitem, p, hp, ht ▸ hone, hplace place⟩

end Filter

end Listing
