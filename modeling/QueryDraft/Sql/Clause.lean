import QueryDraft.Access
import QueryDraft.Spelling

/-!
# Clauses of a statement

A condition compares a field with a value; its value fits its operator, which `Condition.make`
checks: a null check has none, a membership test a list with at least one member, `BETWEEN` a list
of two. Joins and orderings hold what is printed for them.
-/

namespace QueryDraft.Sql

/-- A condition, and how it joins the one before it. -/
structure Condition where
  field : String
  operator : Operator
  value : Value
  connector : Connector

/-- A joined table with the condition of the join. -/
structure Join where
  table : String
  condition : String
  kind : JoinKind

/-- A field to order by. -/
structure OrderEntry where
  field : String
  direction : Direction

/-- The value that a condition is. -/
def Condition.toValue (c : Condition) : Value :=
  .part .condition [.text c.field, .word (.operator c.operator), c.value,
    .word (.connector c.connector)]

/-- The value that a join is. -/
def Join.toValue (j : Join) : Value :=
  .part .join [.text j.table, .text j.condition, .word (.joinKind j.kind)]

/-- The value that an ordering is. -/
def OrderEntry.toValue (o : OrderEntry) : Value :=
  .part .order [.text o.field, .word (.direction o.direction)]

/-- A list stands for the tuple of its members. -/
def normalize : Value → Value
  | .list vs => .tuple vs
  | v => v

/-- The value of a condition in the form that its operator wants. -/
def fitValue (operator : Operator) (value : Value) : Outcome Value :=
  match operator with
  | .isNull | .isNotNull =>
    if value.isNull then .ok .null else refuse (.valueForNullCheck operator)
  | .isIn | .notIn => match value.sequence? with
    | none => refuse (.notValueList operator)
    | some [] => refuse (.noValues operator)
    | some vs => .ok (.tuple vs)
  | .between => match value.sequence? with
    | none => refuse (.notValueList operator)
    | some [low, high] => .ok (.tuple [low, high])
    | some _ => refuse .notTwoValues
  | _ => .ok value

namespace Condition

/-- A condition whose value fits its operator. -/
def make (field : Value) (operator : Operator) (value : Value) (connector : Connector) :
    Outcome Condition := do
  let field ← requireText .conditionField field
  let value ← fitValue operator value
  return ⟨field, operator, value, connector⟩

/-- A condition with the operator spelled out. -/
def compare (field operator value : Value) (connector : Connector) : Outcome Condition := do
  make field (← Operator.parse operator) (normalize value) connector

/-- Whether a value names a null check. -/
def namesNullCheck (v : Value) : Bool :=
  match v.text? with
  | some s => canonical s == Operator.isNull.text || canonical s == Operator.isNotNull.text
  | none => false

/-- A condition with one argument after its field: an operator word or the spelling of a null check
stands for itself without a value, anything else is compared for equality. -/
def short (field second : Value) (connector : Connector) : Outcome Condition :=
  match second with
  | .word (.operator o) => make field o .null connector
  | _ =>
    if namesNullCheck second then do make field (← Operator.parse second) .null connector
    else make field .eq (normalize second) connector

/-- The values that an operator has from a condition's value, in the order of their placeholders. -/
def parametersOf (operator : Operator) (value : Value) : Outcome (List Value) :=
  if operator.isNullCheck then .ok []
  else if operator.isMultiValue then value.items
  else .ok [value]

/-- The values of a condition in the order of their placeholders. -/
def parameters (c : Condition) : Outcome (List Value) := parametersOf c.operator c.value

end Condition

end QueryDraft.Sql
