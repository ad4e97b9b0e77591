import Listing.Proofs.Filter.Compile

/-!
# Looking up the operators of a statement

A statement is compiled in steps that can fail: its tokens are taken apart, its symbols are looked
up among the operators and in the table of what the operators build, alternatives are split and gone
through, and each test is made by the symbol of its comparator.  `assemble` takes these steps as
they come, and it gives what `compile` gives (`assemble_eq`): whatever a text holds, the tests in
front of each step leave it nothing to fail on.
-/

namespace Listing

/-! ## Tokens -/

namespace Statement

/-- The tokens of a text as they are found: its markers and what is left of it, filled up to three,
or none at all if there are more. -/
def tokens (raw : String) : List (Option String) :=
  let ms := markers raw.toList
  let found := if ms = [] then [raw] else
    ms.map String.ofList ++ [String.ofList (valueWithout ms raw.toList)]
  if 3 < found.length then [] else
    match found with
    | [operator, value] =>
      if value = Operator.null.symbol then [some operator, some value, none]
      else [none, some operator, some value]
    | [value] =>
      if value = Operator.null.symbol then [none, some Operator.null.symbol, none]
      else [none, some Operator.eq.symbol, some raw]
    | found => found.map some

/-- There are no tokens or three: those of the statement. -/
theorem tokens_eq (raw : String) :
    tokens raw = match read? raw with
      | none => []
      | some s => [s.outer, some s.inner, s.value] := by
  unfold tokens read?
  dsimp only
  generalize markers raw.toList = ms
  match ms with
  | [] =>
    by_cases hnull : raw = Operator.null.symbol <;> simp [hnull]
  | [m] =>
    by_cases hnull : String.ofList (valueWithout [m] raw.toList) = Operator.null.symbol <;>
      simp [hnull]
  | [m, n] => rfl
  | l :: m :: n :: rest =>
    rw [if_neg (List.cons_ne_nil _ _), if_pos (by simp)]
    rfl

/-- Three tokens; any other number cannot be taken apart. -/
def unpack : List (Option String) → Outcome (Option String × Option String × Option String)
  | [outer, inner, value] => pure (outer, inner, value)
  | _ => throw .incompatible

end Statement

/-! ## Operators and comparators -/

namespace Operator

/-- What the operators build. -/
def factories : List (Operator × (String → Operand → Outcome Predicate)) := [
  (eq, eq.build),
  (gt, gt.build),
  (gte, gte.build),
  (isIn, isIn.build),
  (null, null.build),
  (lt, lt.build),
  (lte, lte.build),
  (not, not.build)]

/-- What an operator builds, if it is in the table. -/
def factory (o : Operator) : Outcome (String → Operand → Outcome Predicate) :=
  match factories.lookup o with
  | some build => pure build
  | none => throw .missingField

theorem factory_eq (o : Operator) : o.factory = .ok o.build := by cases o <;> rfl

theorem symbol_of_ofSymbol? {s : String} {o : Operator} (h : ofSymbol? s = some o) :
    o.symbol = s := by
  simpa using List.find?_some h

theorem ofValue_text {s : String} {o : Operator} (h : ofSymbol? s = some o) :
    ofValue (.text s) = .ok o := by
  rw [ofValue, Value.asText?, Option.bind_some, h]
  rfl

/-- The symbol of an operator is among those of some operators just when the operator is. -/
theorem contains_symbols {s : String} {o : Operator} (h : ofSymbol? s = some o)
    (allowed : List Operator) :
    (allowed.map fun o => some o.symbol).contains (some s) = allowed.contains o := by
  rw [Bool.eq_iff_iff, List.contains_iff_mem, List.contains_iff_mem, List.mem_map]
  constructor
  · rintro ⟨p, hp, hsymbol⟩
    rw [← Option.some.inj hsymbol, ofSymbol?_symbol] at h
    rwa [← Option.some.inj h]
  · exact fun ho => ⟨o, ho, by rw [symbol_of_ofSymbol? h]⟩

end Operator

namespace Predicate

mutual

/-- A predicate made anew, each test by the symbol of its comparator. -/
def construct : Predicate → Outcome Predicate
  | test column c v => ofSymbol column c.symbol v
  | negation inner => negation <$> inner.construct
  | all members => all <$> constructAll members
  | any members => any <$> constructAll members
termination_by structural p => p

def constructAll : List Predicate → Outcome (List Predicate)
  | [] => pure []
  | p :: ps => do return (← p.construct) :: (← constructAll ps)
termination_by structural ps => ps

end

mutual

/-- Every comparator is found by its symbol. -/
theorem construct_eq (p : Predicate) : p.construct = .ok p := by
  cases p with
  | test column c v => rw [construct, ofSymbol, Comparator.ofSymbol?_symbol]; rfl
  | negation inner => rw [construct, construct_eq inner]; rfl
  | all members => rw [construct, constructAll_eq members]; rfl
  | any members => rw [construct, constructAll_eq members]; rfl

theorem constructAll_eq (ps : List Predicate) : constructAll ps = .ok ps := by
  cases ps with
  | nil => rfl
  | cons p ps =>
    rw [constructAll, construct_eq p, Outcome.ok_bind, constructAll_eq ps]
    rfl

end

end Predicate

/-! ## Statements -/

namespace Filter

variable {column : String} {allowed : List Operator}

/-- A token as a value; a missing one is nothing. -/
def tokenValue (token : Option String) : Value := token.elim .null .text

/-- Whether a token is the symbol of an operator. -/
def isSymbol (token : Option String) : Bool := (Operand.value (tokenValue token)).isOperator

/-- What an operator is given: alternatives are split, if there is a value to split. -/
def argument (o : Operator) (value : Option String) : Value :=
  match o, value with
  | .isIn, some v => .list ((Text.pieces ',' v).map .text)
  | _, value => tokenValue value

/-- The predicate of a statement on a column, if it has one, step by step. -/
def assembleStatement (column : String) (allowed : List Operator) (raw : String) :
    Outcome (Option Predicate) :=
  match Statement.tokens raw with
  | [] => pure none
  | tokens => do
    let (outer, inner, value) ← Statement.unpack tokens
    let symbols := allowed.map fun o => some o.symbol
    if !isSymbol inner || !symbols.contains inner then
      return none
    if isSymbol outer && !symbols.contains outer then
      return none
    if isSymbol outer && outer != some Operator.not.symbol then
      return none
    let operator ← Operator.ofValue (tokenValue inner)
    let built ← (← operator.factory) column (.value (argument operator value))
    let predicate ← built.construct
    if isSymbol outer then
      let wrapper ← Operator.ofValue (tokenValue outer)
      return some (← (← wrapper.factory) column (.predicate predicate))
    else
      return some predicate

theorem isSymbol_eq (token : Option String) :
    isSymbol token = (token.bind Operator.ofSymbol?).isSome := by
  cases token <;> rfl

/-- An operator builds a predicate from what a statement gives it, as only a test for absence is
given nothing. -/
theorem build_argument (column : String) {o : Operator} {value : Option String}
    (h : value = none → o = .null) :
    o.build column (.value (argument o value)) = .ok (o.onValue column (operandValue o value)) := by
  cases value with
  | none =>
    rw [h rfl]
    rfl
  | some v => cases o <;> rfl

/-- No step of compiling a statement fails. -/
theorem assembleStatement_eq (column : String) (allowed : List Operator) (raw : String) :
    assembleStatement column allowed raw = .ok (compileStatement column allowed raw).toOption := by
  unfold assembleStatement compileStatement
  rw [Statement.tokens_eq]
  cases hread : Statement.read? raw with
  | none => rfl
  | some s =>
    -- three tokens, of which the second is looked up only behind its two tests
    simp only [Statement.unpack, Outcome.pure_eq, Outcome.ok_bind, isSymbol_eq, Option.bind_some]
    cases hinner : Operator.ofSymbol? s.inner with
    | none => rfl
    | some inner =>
      -- only a test for absence has no value, so there are alternatives to split
      have hnull : s.value = none → inner = .null := by
        intro hvalue
        rw [Statement.inner_of_read? hread hvalue, Operator.ofSymbol?_symbol] at hinner
        exact (Option.some.inj hinner).symm
      have hbuild := build_argument column hnull
      have hlookup : Operator.ofValue (tokenValue (some s.inner)) = .ok inner :=
        Operator.ofValue_text hinner
      simp only [Option.isSome_some, Bool.not_true, Bool.false_or]
      rw [Operator.contains_symbols hinner]
      cases hallowed : allowed.contains inner with
      | false => rfl
      | true =>
        simp only [hlookup, Operator.factory_eq, hbuild, Predicate.construct_eq, Outcome.ok_bind]
        cases houter : s.outer with
        | none => rfl
        | some symbol =>
          simp only [Option.bind_some]
          rcases Option.eq_none_or_eq_some (Operator.ofSymbol? symbol) with
            hnone | ⟨wrapper, hwrapper⟩
          · simp only [hnone]
            rfl
          · -- another operator, which must be allowed and a negation
            have hlookup' : Operator.ofValue (tokenValue (some symbol)) = .ok wrapper :=
              Operator.ofValue_text hwrapper
            have hsymbol := Operator.symbol_of_ofSymbol? hwrapper
            simp only [hwrapper, hlookup', Operator.contains_symbols hwrapper, Option.isSome_some,
              Bool.true_and, Outcome.ok_bind]
            cases hcontains : allowed.contains wrapper with
            | false => rfl
            | true =>
              subst hsymbol
              -- of all operators only the negation wraps a predicate
              cases wrapper <;> rfl

/-! ## Filters -/

/-- The predicate of a column step by step: its statements one after the other, of which the last
one with a predicate counts. -/
def assembleColumn (whitelist : Whitelist) (column : String) (statements : Statements) :
    Outcome (Option Predicate) :=
  match whitelist.lookup column with
  | none => pure none
  | some allowed => do
    let predicates ← statements.toList.mapM (assembleStatement column allowed)
    return (predicates.filterMap id).getLast?

/-- The predicates of a filter step by step. -/
def assemble (whitelist : Whitelist) (f : Filter) : Outcome (List (String × Predicate)) := do
  let columns ← f.entries.mapM fun e => do
    return (← assembleColumn whitelist e.1 e.2).map fun p => (e.1, p)
  return columns.filterMap id

/-- No step of compiling the statements of a column fails. -/
theorem assembleColumn_eq (whitelist : Whitelist) (column : String) (statements : Statements) :
    assembleColumn whitelist column statements =
      .ok (compileColumn whitelist column statements).1 := by
  unfold assembleColumn compileColumn
  cases whitelist.lookup column with
  | none => rfl
  | some allowed =>
    have hstatements : statements.toList.mapM (assembleStatement column allowed) =
        .ok (statements.toList.map fun raw => (compileStatement column allowed raw).toOption) :=
      Outcome.mapM_eq_ok fun raw _ => assembleStatement_eq column allowed raw
    simp only [hstatements, Outcome.ok_bind, Outcome.pure_eq, compileAll_fst, List.filterMap_map,
      Function.id_comp]

/-- No step of compiling a filter fails, and the steps give what the filter compiles to. -/
theorem assemble_eq (whitelist : Whitelist) (f : Filter) :
    assemble whitelist f = .ok (compile whitelist f) := by
  have hcolumns : (f.entries.mapM fun e => do
      return (← assembleColumn whitelist e.1 e.2).map fun p => (e.1, p)) =
        .ok (f.entries.map fun e =>
          (compileColumn whitelist e.1 e.2).1.map fun p => (e.1, p)) := by
    apply Outcome.mapM_eq_ok
    intro e _
    rw [assembleColumn_eq]
    rfl
  rw [assemble, hcolumns, Outcome.ok_bind, List.filterMap_map]
  rfl

end Filter

end Listing
