import Mathlib.Data.List.Infix
import Mathlib.Data.List.TakeWhile
import Listing.Proofs.Filter.Compile
import Listing.Proofs.Table

/-!
# Statements as they are spelled

A marker is a `$`, a word and a `:`.  The markers in front of a text that holds none are the markers
of the whole (`markers_symbol`), and what stands behind them is its value, whatever else is in it.
So each predicate that statements can ask for has its spelling (`Filter.Spells`), and a filter of one
statement compiles to just the predicate that the statement spells (`Filter.compile_of_spells`).
-/

namespace Listing

namespace Text

theorem eraseFirst_append {part : List Char} (h : part ≠ []) (rest : List Char) :
    eraseFirst part (part ++ rest) = rest := by
  rcases part with - | ⟨c, cs⟩
  · exact absurd rfl h
  · have hstart : (c :: cs).isPrefixOf (c :: (cs ++ rest)) = true :=
      List.isPrefixOf_iff_prefix.2 (List.prefix_append (c :: cs) rest)
    rw [List.cons_append, eraseFirst, if_pos hstart]
    exact List.drop_left

/-- Pieces without the separator are found again in what they are joined to. -/
theorem pieces_joinWith {parts : List String} (hne : parts ≠ [])
    (h : ∀ s ∈ parts, ',' ∉ s.toList) : pieces ',' (joinWith "," parts) = parts := by
  have hsplit : ([','].intercalate (parts.map String.toList)).splitOn ',' =
      parts.map String.toList := by
    apply List.splitOn_intercalate
    · intro cs hcs
      rcases List.mem_map.1 hcs with ⟨s, hs, rfl⟩
      exact h s hs
    · exact fun hnil => hne (List.map_eq_nil_iff.1 hnil)
  have hcomma : (",").toList = [','] := rfl
  rw [pieces, joinWith, String.toList_ofList, hcomma, hsplit, List.map_map]
  -- splitting undoes joining; what is left is to turn the pieces back into texts
  have hid : String.ofList ∘ String.toList = id := funext fun s => String.ofList_toList
  rw [hid, List.map_id]

end Text

namespace Statement

/-! ## Markers -/

def IsMarker (m : List Char) : Prop :=
  ∃ word, m = '$' :: (word ++ [':']) ∧ word ≠ [] ∧ ∀ c ∈ word, Text.isWord c = true

/-- No marker stands in a text. -/
def Unmarked (cs : List Char) : Prop := ∀ m, IsMarker m → ¬m <:+: cs

/-- A marker is found where it stands. -/
theorem markerAt?_eq_some {word : List Char} (hne : word ≠ [])
    (hword : ∀ c ∈ word, Text.isWord c = true) (rest : List Char) :
    markerAt? ('$' :: (word ++ ':' :: rest)) = some ('$' :: word) := by
  have hcolon : ¬Text.isWord ':' = true := by decide
  have htake : (word ++ ':' :: rest).takeWhile Text.isWord = word := by
    rw [List.takeWhile_append_of_pos hword, List.takeWhile_cons_of_neg hcolon, List.append_nil]
  have hdrop : (word ++ ':' :: rest).dropWhile Text.isWord = ':' :: rest := by
    rw [List.dropWhile_append_of_pos hword, List.dropWhile_cons_of_neg hcolon]
  rw [markerAt?, htake, hdrop]
  rcases word with - | ⟨c, cs⟩
  · exact absurd rfl hne
  · rfl

/-- What is found at the start of a text is a marker there. -/
theorem isMarker_of_markerAt? {cs m : List Char} (h : markerAt? cs = some m) :
    IsMarker (m ++ [':']) ∧ m ++ [':'] <+: cs := by
  unfold markerAt? at h
  split at h
  · next rest =>
    -- the word is the longest run of word characters, and the colon must follow it at once
    have hparts := List.takeWhile_append_dropWhile (p := Text.isWord) (l := rest)
    have hword : ∀ c ∈ rest.takeWhile Text.isWord, Text.isWord c = true :=
      fun c hc => List.mem_takeWhile_imp hc
    split at h
    · cases h
    · next _ _ after hdrop hne =>
      cases h
      rw [hdrop] at hparts
      refine ⟨⟨_, rfl, hne, hword⟩, after, ?_⟩
      rw [List.append_assoc]
      exact congrArg (List.cons '$') hparts
    · cases h
  · cases h

/-- There are no markers just when none stands in the text. -/
theorem markers_eq_nil_iff {cs : List Char} : markers cs = [] ↔ Unmarked cs := by
  induction cs with
  | nil =>
    refine ⟨fun _ m hm hinfix => ?_, fun _ => rfl⟩
    rcases hm with ⟨word, rfl, -, -⟩
    cases List.infix_nil.1 hinfix
  | cons c rest ih =>
    rw [markers, List.append_eq_nil_iff, Option.toList_eq_nil_iff, ih]
    constructor
    · rintro ⟨hstart, hrest⟩ m hm hinfix
      rcases List.infix_cons_iff.1 hinfix with ⟨after, hafter⟩ | hlater
      · -- a marker at the start would have been found
        rcases hm with ⟨word, rfl, hne, hword⟩
        have hfound := markerAt?_eq_some hne hword after
        have htext : '$' :: (word ++ ':' :: after) = c :: rest := by
          rw [← hafter]
          simp
        rw [htext, hstart] at hfound
        cases hfound
      · exact hrest m hm hlater
    · intro h
      constructor
      · cases hstart : markerAt? (c :: rest) with
        | none => rfl
        | some m =>
          rcases isMarker_of_markerAt? hstart with ⟨hm, hprefix⟩
          exact absurd hprefix.isInfix (h _ hm)
      · exact fun m hm hlater => h m hm (List.infix_cons hlater)

instance (cs : List Char) : Decidable (Unmarked cs) := decidable_of_iff _ markers_eq_nil_iff

/-- A marker starts with its only `$`, since neither a word nor a colon holds one. -/
theorem IsMarker.eq_dollar {m : List Char} (h : IsMarker m) : ∃ t, m = '$' :: t ∧ '$' ∉ t := by
  rcases h with ⟨word, rfl, -, hword⟩
  refine ⟨word ++ [':'], rfl, ?_⟩
  intro hmem
  rcases List.mem_append.1 hmem with hmem | hmem
  · have hdollar := hword '$' hmem
    rw [Text.isWord_dollar] at hdollar
    cases hdollar
  · cases List.mem_singleton.1 hmem

/-- Markers start with a `$`, so what holds none in front of a text changes nothing. -/
theorem markers_append_of_not_mem {before : List Char} (h : '$' ∉ before) (rest : List Char) :
    markers (before ++ rest) = markers rest := by
  induction before with
  | nil => rfl
  | cons c cs ih =>
    rw [List.mem_cons, not_or] at h
    have hstart : markerAt? (c :: (cs ++ rest)) = none := by
      rw [Option.eq_none_iff_forall_ne_some]
      intro m hm
      rcases isMarker_of_markerAt? hm with ⟨⟨word, hmarker, -, -⟩, hprefix⟩
      rw [hmarker] at hprefix
      exact h.1 (List.cons_prefix_cons.1 hprefix).1
    rw [List.cons_append, markers, hstart, ih h.2]
    rfl

/-- A marker in front of a text is the first one. -/
theorem markers_marker {m : List Char} (h : IsMarker (m ++ [':'])) (rest : List Char) :
    markers (m ++ ':' :: rest) = m :: markers rest := by
  rcases h.eq_dollar with ⟨t, ht, hlater⟩
  rcases h with ⟨word, hm, hne, hword⟩
  -- neither the word nor the colon starts another marker
  rw [hm, List.cons.injEq] at ht
  rw [← ht.2] at hlater
  have hrest := markers_append_of_not_mem hlater rest
  rw [List.append_assoc, List.singleton_append] at hrest
  have hm : m = '$' :: word := List.append_cancel_right hm
  subst hm
  rw [List.cons_append, markers, markerAt?_eq_some hne hword, hrest]
  rfl

theorem isMarker_symbol (o : Operator) : IsMarker (o.symbol.toList ++ [':']) := by
  have hword : o.symbol.toList.tail.all Text.isWord = true := by cases o <;> decide
  refine ⟨o.symbol.toList.tail, ?_, ?_, List.all_eq_true.1 hword⟩
  · cases o <;> rfl
  · cases o <;> decide

/-- A comma is in no marker. -/
theorem IsMarker.not_mem_comma {m : List Char} (h : IsMarker m) : ',' ∉ m := by
  rcases h with ⟨word, rfl, -, hword⟩
  intro hmem
  rcases List.mem_cons.1 hmem with hmem | hmem
  · cases hmem
  · rcases List.mem_append.1 hmem with hmem | hmem
    · have hcomma : Text.isWord ',' = false := by decide
      rw [hword ',' hmem] at hcomma
      cases hcomma
    · cases List.mem_singleton.1 hmem

/-- No marker comes about where two texts are joined by a comma. -/
theorem unmarked_append_comma {as bs : List Char} (ha : Unmarked as) (hb : Unmarked bs) :
    Unmarked (as ++ ',' :: bs) := by
  intro m hm hinfix
  rcases List.infix_append_iff.1 hinfix with hinfix | hinfix | ⟨before, after, rfl, hsuffix, hprefix⟩
  · -- the whole marker stands in the first text
    exact ha m hm hinfix
  · rcases List.infix_cons_iff.1 hinfix with hprefix | hinfix
    · rcases hm with ⟨word, rfl, -, -⟩
      cases (List.cons_prefix_cons.1 hprefix).1
    · exact hb m hm hinfix
  · rcases after with - | ⟨c, cs⟩
    · rw [List.append_nil] at hm
      exact ha before hm hsuffix.isInfix
    · -- a marker across the comma would hold it
      rcases List.cons_prefix_cons.1 hprefix with ⟨rfl, -⟩
      exact hm.not_mem_comma (by simp)

/-- Texts without markers are joined by commas to one without. -/
theorem unmarked_joinWith {vs : List String} (h : ∀ v ∈ vs, Unmarked v.toList) :
    Unmarked (Text.joinWith "," vs).toList := by
  have hcomma : (",").toList = [','] := rfl
  rw [Text.joinWith, String.toList_ofList, hcomma]
  induction vs with
  | nil => exact markers_eq_nil_iff.1 rfl
  | cons v vs ih =>
    have hv : Unmarked v.toList := h v List.mem_cons_self
    have hvs := ih fun w hw => h w (List.mem_cons_of_mem v hw)
    rcases vs with - | ⟨w, ws⟩
    · simpa using hv
    · rw [List.map_cons] at hvs
      rw [List.map_cons, List.map_cons, List.intercalate_cons_cons, List.append_assoc,
        List.singleton_append]
      exact unmarked_append_comma hv hvs

/-! ## Reading -/

/-- Operators in front of a text, each with its colon. -/
def leading (os : List Operator) : List (List Char) := os.map fun o => o.symbol.toList

theorem map_leading (os : List Operator) :
    (leading os).map String.ofList = os.map Operator.symbol := by
  rw [leading, List.map_map]
  exact List.map_congr_left fun o _ => String.ofList_toList

/-- Operators in front of a text without markers are its markers. -/
theorem markers_leading (os : List Operator) {rest : List Char} (h : Unmarked rest) :
    markers (joined (leading os) ++ rest) = leading os := by
  induction os with
  | nil => exact markers_eq_nil_iff.2 h
  | cons o os ih =>
    have hfirst := markers_marker (isMarker_symbol o) (joined (leading os) ++ rest)
    rw [ih] at hfirst
    simpa [leading, joined] using hfirst

/-- What stands behind markers that stand together is the value. -/
theorem valueWithout_joined {ms : List (List Char)} (h : ms ≠ []) (rest : List Char) :
    valueWithout ms (joined ms ++ rest) = rest := by
  have hjoined : joined ms ≠ [] := by
    rcases ms with - | ⟨m, ms⟩
    · exact absurd rfl h
    · simp [joined]
  exact Text.eraseFirst_append hjoined rest

variable {v : String}

/-- A text without a marker is a value. -/
theorem read?_value (hv : Unmarked v.toList) (hne : v ≠ Operator.null.symbol) :
    read? v = some ⟨none, Operator.eq.symbol, some v⟩ := by
  unfold read?
  simp only [markers_eq_nil_iff.2 hv, List.map_nil, if_neg hne]

/-- One operator in front of a value is the inner one. -/
theorem read?_symbol (o : Operator) (hv : Unmarked v.toList) (hne : v ≠ Operator.null.symbol) :
    read? (o.symbol ++ ":" ++ v) = some ⟨none, o.symbol, some v⟩ := by
  have hraw : (o.symbol ++ ":" ++ v).toList = joined (leading [o]) ++ v.toList := by
    simp [joined, leading]
  have hvalue : valueWithout (leading [o]) (joined (leading [o]) ++ v.toList) = v.toList :=
    valueWithout_joined (List.cons_ne_nil _ _) v.toList
  unfold read?
  simp only [hraw, markers_leading [o] hv, hvalue, map_leading, List.map_cons, List.map_nil,
    String.ofList_toList, if_neg hne]

/-- Of two operators in front of a text the first is the outer one. -/
theorem read?_symbols (o p : Operator) (hv : Unmarked v.toList) :
    read? (o.symbol ++ ":" ++ (p.symbol ++ ":" ++ v)) =
      some ⟨some o.symbol, p.symbol, some v⟩ := by
  have hraw : (o.symbol ++ ":" ++ (p.symbol ++ ":" ++ v)).toList =
      joined (leading [o, p]) ++ v.toList := by
    simp [joined, leading]
  have hvalue : valueWithout (leading [o, p]) (joined (leading [o, p]) ++ v.toList) = v.toList :=
    valueWithout_joined (List.cons_ne_nil _ _) v.toList
  unfold read?
  simp only [hraw, markers_leading [o, p] hv, hvalue, map_leading, List.map_cons, List.map_nil,
    String.ofList_toList]

end Statement

namespace Operator

/-- The operators that compare a column with one text, each with its comparator. -/
def comparisons : List (Operator × Comparator) :=
  [(eq, .eq), (gt, .gt), (gte, .ge), (lt, .lt), (lte, .le)]

/-- A comparison tests a column for the text that it is given. -/
theorem onValue_of_comparison {o : Operator} {k : Comparator} (h : (o, k) ∈ comparisons)
    (column v : String) :
    o.onValue column (Filter.operandValue o (some v)) = .test column k (.text v) := by
  simp only [comparisons, List.mem_cons, List.not_mem_nil, or_false, Prod.mk.injEq] at h
  rcases h with ⟨rfl, rfl⟩ | ⟨rfl, rfl⟩ | ⟨rfl, rfl⟩ | ⟨rfl, rfl⟩ | ⟨rfl, rfl⟩ <;> rfl

end Operator

namespace Filter

open Statement

/-- How predicates of a column are spelled as statements, and with which operators. -/
inductive Spells (column : String) : List Operator → String → Predicate → Prop
  /-- A text by itself asks for equality. -/
  | value {v : String} (hv : Unmarked v.toList) (hne : v ≠ "$null") :
      Spells column [.eq] v (.test column .eq (.text v))
  | compare {o : Operator} {k : Comparator} {v : String} (ho : (o, k) ∈ Operator.comparisons)
      (hv : Unmarked v.toList) (hne : v ≠ "$null") :
      Spells column [o] (o.symbol ++ ":" ++ v) (.test column k (.text v))
  | isIn {vs : List String} (hvs : vs ≠ []) (hv : ∀ v ∈ vs, Unmarked v.toList ∧ ',' ∉ v.toList)
      (hne : Text.joinWith "," vs ≠ "$null") :
      Spells column [.isIn] ("$in:" ++ Text.joinWith "," vs)
        (.test column .isIn (.tuple (vs.map .text)))
  | null : Spells column [.null] "$null" (.test column .isNull .null)
  /-- A negated text asks that the column differ from it. -/
  | notValue {v : String} (hv : Unmarked v.toList) (hne : v ≠ "$null") :
      Spells column [.not] ("$not:" ++ v) (.negation (.test column .eq (.text v)))
  /-- Behind two operators even the symbol of the test for absence is a text. -/
  | notCompare {o : Operator} {k : Comparator} {v : String} (ho : (o, k) ∈ Operator.comparisons)
      (hv : Unmarked v.toList) :
      Spells column [.not, o] ("$not:" ++ (o.symbol ++ ":" ++ v))
        (.negation (.test column k (.text v)))
  | notIn {vs : List String} (hvs : vs ≠ [])
      (hv : ∀ v ∈ vs, Unmarked v.toList ∧ ',' ∉ v.toList) :
      Spells column [.not, .isIn] ("$not:" ++ ("$in:" ++ Text.joinWith "," vs))
        (.negation (.test column .isIn (.tuple (vs.map .text))))
  | notNull : Spells column [.not, .null] "$not:$null" (.negation (.test column .isNull .null))

variable {whitelist : Whitelist} {column raw : String} {allowed ops : List Operator} {p : Predicate}

/-- An operator that is allowed makes its predicate of the value. -/
theorem compileStatement_inner {o : Operator} {value : Option String} (ho : o ∈ allowed)
    (h : read? raw = some ⟨none, o.symbol, value⟩) :
    compileStatement column allowed raw = .ok (o.onValue column (operandValue o value)) := by
  have hallowed : allowed.contains o = true := List.contains_iff_mem.2 ho
  simp only [compileStatement, h, Operator.ofSymbol?_symbol, hallowed]
  rfl

/-- A negation in front of it, if allowed too, negates this predicate. -/
theorem compileStatement_not {o : Operator} {value : Option String} (hn : .not ∈ allowed)
    (ho : o ∈ allowed) (h : read? raw = some ⟨some Operator.not.symbol, o.symbol, value⟩) :
    compileStatement column allowed raw =
      .ok (.negation (o.onValue column (operandValue o value))) := by
  have hallowed : allowed.contains o = true := List.contains_iff_mem.2 ho
  have hnegation : allowed.contains .not = true := List.contains_iff_mem.2 hn
  simp only [compileStatement, h, Operator.ofSymbol?_symbol, hallowed, hnegation,
    Option.bind_some]
  rfl

/-- Alternatives are found again behind their operator. -/
theorem onValue_isIn {vs : List String} (hne : vs ≠ []) (hvs : ∀ v ∈ vs, ',' ∉ v.toList) :
    Operator.isIn.onValue column (operandValue .isIn (some (Text.joinWith "," vs))) =
      .test column .isIn (.tuple (vs.map .text)) := by
  rw [operandValue, Text.pieces_joinWith hne hvs]
  rfl

/-- A statement whose operators are allowed compiles to what it spells. -/
theorem compileStatement_of_spells (h : Spells column ops raw p) (hops : ∀ o ∈ ops, o ∈ allowed) :
    compileStatement column allowed raw = .ok p := by
  cases h with
  | value hv hne =>
    exact compileStatement_inner (hops .eq List.mem_cons_self) (Statement.read?_value hv hne)
  | @compare o k v ho hv hne =>
    have ho' : o ∈ allowed := hops o List.mem_cons_self
    rw [compileStatement_inner ho' (Statement.read?_symbol o hv hne),
      Operator.onValue_of_comparison ho]
  | @isIn vs hvs hv hne =>
    -- the joined alternatives are one value, which is split again at the commas
    have hread := Statement.read?_symbol .isIn
      (Statement.unmarked_joinWith fun v h => (hv v h).1) hne
    rw [← onValue_isIn hvs fun v h => (hv v h).2]
    exact compileStatement_inner (hops .isIn List.mem_cons_self) hread
  | null => exact compileStatement_inner (o := .null) (hops .null List.mem_cons_self) rfl
  | notValue hv hne =>
    exact compileStatement_inner (hops .not List.mem_cons_self) (Statement.read?_symbol .not hv hne)
  | @notCompare o k v ho hv =>
    have ho' : o ∈ allowed := hops o (List.mem_cons_of_mem _ List.mem_cons_self)
    rw [← Operator.onValue_of_comparison ho]
    exact compileStatement_not (hops .not List.mem_cons_self) ho'
      (Statement.read?_symbols .not o hv)
  | @notIn vs hvs hv =>
    have hisIn : Operator.isIn ∈ allowed := hops .isIn (List.mem_cons_of_mem _ List.mem_cons_self)
    have hread := Statement.read?_symbols .not .isIn
      (Statement.unmarked_joinWith fun v h => (hv v h).1)
    rw [← onValue_isIn hvs fun v h => (hv v h).2]
    exact compileStatement_not (hops .not List.mem_cons_self) hisIn hread
  | notNull =>
    have hnull : Operator.null ∈ allowed := hops .null (List.mem_cons_of_mem _ List.mem_cons_self)
    exact compileStatement_not (hops .not List.mem_cons_self) hnull rfl

/-- A filter of one statement on a column compiles to the predicate that the statement does. -/
theorem compile_single {statements : Statements} (hcolumn : whitelist.lookup column = some allowed)
    (hraw : statements.toList = [raw]) (h : compileStatement column allowed raw = .ok p) :
    compile whitelist (.ofList [(column, statements)]) = [(column, p)] := by
  have hentries : (Table.ofList [(column, statements)]).entries = [(column, statements)] :=
    Table.entries_ofList (by simp)
  have haccepted : accepted? whitelist column raw = some p := by
    rw [accepted?, hcolumn, Option.bind_some, h]
    rfl
  have hlast : (compileColumn whitelist column statements).1 = some p := by
    rw [compileColumn_fst, hraw, List.filterMap_cons_some haccepted]
    rfl
  rw [compile, hentries, List.filterMap_cons_some (b := (column, p)) (by rw [hlast]; rfl)]
  rfl

/-- A filter with one statement on a column, whose operators are allowed there, compiles to just the
predicate that the statement spells. -/
theorem compile_of_spells {statements : Statements} (hcolumn : whitelist.lookup column = some allowed)
    (hraw : statements.toList = [raw]) (h : Spells column ops raw p)
    (hops : ∀ o ∈ ops, o ∈ allowed) :
    compile whitelist (.ofList [(column, statements)]) = [(column, p)] := by
  have hstatement : compileStatement column allowed raw = .ok p := compileStatement_of_spells h hops
  exact compile_single hcolumn hraw hstatement

def labelWhitelist : Whitelist := .ofList [("id", [.eq]), ("label", [.isIn, .not])]

/-- Everything behind the operators of a statement is part of the labels that it keeps out. -/
theorem compile_of_spells_labels :
    labelWhitelist.lookup "label" = some [.isIn, .not] ∧
      compile labelWhitelist (.ofList [("label", .one "$not:$in:$null,a:b,,x=$1")]) =
        [("label", .negation (.test "label" .isIn
          (.tuple [.text "$null", .text "a:b", .text "", .text "x=$1"])))] := by
  have hlookup : labelWhitelist.lookup "label" = some [.isIn, .not] := by decide
  have hspells : Spells "label" [.not, .isIn] "$not:$in:$null,a:b,,x=$1"
      (.negation (.test "label" .isIn
        (.tuple [.text "$null", .text "a:b", .text "", .text "x=$1"]))) :=
    @Spells.notIn "label" ["$null", "a:b", "", "x=$1"] (by decide) (by decide)
  exact ⟨hlookup, compile_of_spells hlookup rfl hspells (by decide)⟩

end Filter

end Listing
