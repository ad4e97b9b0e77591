import Listing.Predicate

/-!
# Operators applied to operands

An operator with its operand becomes a predicate on a column.  The operand of a comparison is a
value, the operand of `$in` is anything with elements, and the operand of `$not` is a predicate or a
value that the column must differ from.
-/

namespace Listing

/-- What an operator is applied to: a value, or a predicate to negate. -/
inductive Operand where
  | value (v : Value)
  | predicate (p : Predicate)

namespace Operator

/-- The predicate of an operator on a column.  Alternatives come as a sequence, a test for absence
ignores its value, and the negation of a value means that the column differs from it. -/
def onValue (o : Operator) (column : String) (v : Value) : Predicate :=
  match o with
  | eq => .test column .eq v
  | gt => .test column .gt v
  | gte => .test column .ge v
  | isIn => .test column .isIn v
  | null => .test column .isNull .null
  | lt => .test column .lt v
  | lte => .test column .le v
  | not => .negation (.test column .eq v)

/-- The predicate of an operator on a column and any operand. -/
def build (o : Operator) (column : String) : Operand → Outcome Predicate
  | .predicate p =>
    match o with
    | not => pure (.negation p)
    | null => pure (null.onValue column .null)
    | _ => throw .incompatible
  | .value v =>
    match o with
    -- a text has its characters as elements
    | isIn =>
      match v.elements? with
      | some vs => pure (isIn.onValue column (.tuple vs))
      | none => throw .incompatible
    | o => pure (o.onValue column v)

/-- The operator that a value stands for: a symbol, or a text with the symbol of one. -/
def ofValue (v : Value) : Outcome Operator :=
  match v.asText?.bind ofSymbol? with
  | some o => pure o
  | none => throw (.unknownOperator v.written)

end Operator

/-- The field `value` that stands in for an operand, where it has one: a record's field of that name,
or the value that a test compares with. -/
def Operand.held : Operand → Value
  | .value (.record fields) => (fields.lookup "value").getD .null
  | .value v => v
  | .predicate (.test _ _ v) => v
  | .predicate _ => .null

/-- Whether an operand is, or holds, the symbol of an operator. -/
def Operand.isOperator (x : Operand) : Bool :=
  (x.held.asText?.bind Operator.ofSymbol?).isSome

end Listing
