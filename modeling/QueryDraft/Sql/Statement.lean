import QueryDraft.Sql.Draft

/-!
# Built statements

A draft builds to a statement: its text, with a placeholder for each value, and the values in the
order of their placeholders. The texts of the clauses (`Draft.texts`) and the values
(`Draft.values`) are collected apart from each other, clause by clause in one fixed order.

A draft that carries a clause which its verb does not take is refused (`Draft.build`). The cost is a
rule of thumb, counted in quarters and rounded to tenths.
-/

namespace QueryDraft.Sql

namespace Condition

/-- The text of a condition without its connector, with a placeholder for each of its values. -/
def text (c : Condition) : Outcome String :=
  match c.operator with
  | .isIn | .notIn => do
    let members ← c.value.items
    let placeholders := ", ".intercalate (members.map fun _ => "?")
    return c.field ++ " " ++ c.operator.text ++ " (" ++ placeholders ++ ")"
  | .between => return c.field ++ " BETWEEN ? AND ?"
  | .isNull | .isNotNull => return c.field ++ " " ++ c.operator.text
  | _ => return c.field ++ " " ++ c.operator.text ++ " ?"

/-- The text of a condition that another stands before. -/
def joinedText (c : Condition) : Outcome String := do
  return c.connector.text ++ " " ++ (← c.text)

end Condition

/-- The texts of conditions: all but the first carry their connector. -/
def conditionTexts : List Condition → Outcome (List String)
  | [] => .ok []
  | c :: cs => do
    let first ← c.text
    let others ← cs.mapM Condition.joinedText
    return first :: others

/-- The values of conditions in the order of their placeholders. -/
def conditionValues (cs : List Condition) : Outcome (List Value) := do
  return (← cs.mapM Condition.parameters).flatten

/-- The text of a join. -/
def Join.text (j : Join) : String := j.kind.text ++ " JOIN " ++ j.table ++ " ON " ++ j.condition

/-- The text of an ordering. -/
def OrderEntry.text (o : OrderEntry) : String := o.field ++ " " ++ o.direction.text

/-- The clause that a word opens, none if there is nothing to stand in it. -/
def clauseOf (word separator : String) (items : List String) : List String :=
  if items.isEmpty then [] else [word ++ " " ++ separator.intercalate items]

/-- A built statement. -/
structure Statement where
  text : String
  parameters : List Value
  verb : Verb
  cost : Binary64
  table : String
  projection : List String
  whereCount : Nat
  limit : Option Int

namespace Statement

/-- The value that a statement is. -/
def toValue (s : Statement) : Value :=
  .part .statement [
    .text s.text, .tuple s.parameters, .word (.verb s.verb), .float s.cost, .text s.table,
    .textTuple s.projection, .int s.whereCount, .ofOption .int s.limit]

/-- How many placeholders the text of a statement holds. -/
def placeholderCount (s : Statement) : Nat := s.text.toList.count '?'

end Statement

/-- Names of the clauses of a draft, in the order in which a refusal lists them. -/
inductive Clause where
  | groupBy | having | join | limit | offset | orderBy | select | set | values | condition
  deriving DecidableEq

namespace Clause

/-- Every clause, in the order of their texts. -/
def all : List Clause :=
  [.groupBy, .having, .join, .limit, .offset, .orderBy, .select, .set, .values, .condition]

/-- How a clause is called. -/
def text : Clause → String
  | .groupBy => "GROUP BY"
  | .having => "HAVING"
  | .join => "JOIN"
  | .limit => "LIMIT"
  | .offset => "OFFSET"
  | .orderBy => "ORDER BY"
  | .select => "SELECT"
  | .set => "SET"
  | .values => "VALUES"
  | .condition => "WHERE"

/-- Whether the statements of a verb take a clause. -/
def allowed : Verb → Clause → Bool
  | .select, .set | .select, .values => false
  | .select, _ => true
  | .insert, .values => true
  | .insert, _ => false
  | .update, .set | .update, .condition | .update, .orderBy | .update, .limit => true
  | .update, _ => false
  | .delete, .condition | .delete, .orderBy | .delete, .limit => true
  | .delete, _ => false

end Clause

namespace Draft

/-- Whether a draft carries a clause. -/
def uses (d : Draft) : Clause → Bool
  | .groupBy => !d.groupBy.isEmpty
  | .having => !d.having.isEmpty
  | .join => !d.joins.isEmpty
  | .limit => d.limit.isSome
  | .offset => d.offset.isSome
  | .orderBy => !d.orderBy.isEmpty
  | .select => !d.projection.isEmpty
  | .set => d.verb == .update
  | .values => d.verb == .insert
  | .condition => !d.conditions.isEmpty

/-- The clauses of a draft that its verb does not take. -/
def unsupported (d : Draft) : List Clause :=
  Clause.all.filter fun c => d.uses c && !Clause.allowed d.verb c

/-- The verb of a draft with what belongs to it: the projection and the tables of a selection, the
columns of an insertion or update with a placeholder for the value of each. -/
def headTexts (d : Draft) : List String :=
  match d.verb with
  | .select =>
    ("SELECT " ++ ", ".intercalate d.projection) :: ("FROM " ++ d.table) :: d.joins.map Join.text
  | .insert =>
    let columns := ", ".intercalate (d.assignments.map (·.1))
    let placeholders := ", ".intercalate (d.assignments.map fun _ => "?")
    ["INSERT INTO " ++ d.table ++ " (" ++ columns ++ ") VALUES (" ++ placeholders ++ ")"]
  | .update =>
    ["UPDATE " ++ d.table,
      "SET " ++ ", ".intercalate (d.assignments.map fun (name, _) => name ++ " = ?")]
  | .delete => ["DELETE FROM " ++ d.table]

/-- The values that belong to the verb of a draft. -/
def headValues (d : Draft) : List Value :=
  match d.verb with
  | .insert | .update => d.assignments.map (·.2)
  | .select | .delete => []

/-- The texts of the clauses of a draft, in the order in which they stand. -/
def texts (d : Draft) : Outcome (List String) := do
  let conditions ← conditionTexts d.conditions
  let having ← conditionTexts d.having
  return d.headTexts
    ++ clauseOf "WHERE" " " conditions
    ++ clauseOf "GROUP BY" ", " d.groupBy
    ++ clauseOf "HAVING" " " having
    ++ clauseOf "ORDER BY" ", " (d.orderBy.map OrderEntry.text)
    ++ d.limit.toList.map (fun n => "LIMIT " ++ toString n)
    ++ d.offset.toList.map (fun n => "OFFSET " ++ toString n)

/-- The values of a draft in the order of their placeholders. -/
def values (d : Draft) : Outcome (List Value) := do
  let conditions ← conditionValues d.conditions
  let having ← conditionValues d.having
  return d.headValues ++ conditions ++ having

/-- Whether a small limit halves the cost. -/
def hasSmallLimit (d : Draft) : Bool := d.limit.any (· < 100)

/-- The cost in quarters: one for the statement, two for a join, a half for a condition, one and a
half for an ordering, two for grouping, and half of all that under a small limit. -/
def costQuarters (d : Draft) : Nat :=
  let full := 4 + 8 * d.joins.length + 2 * d.conditions.length + 6 * d.orderBy.length
    + if d.groupBy.isEmpty then 0 else 8
  if d.hasSmallLimit then full / 2 else full

/-- The cost in tenths, a tie going to the even one. -/
def costTenths (d : Draft) : Nat := roundDiv (10 * d.costQuarters) 4

/-- The cost as the number nearest to its tenths. -/
def cost (d : Draft) : Binary64 := .ofRatio false d.costTenths 10

/-- Builds the statement of a draft. A missing table is reported before a missing projection, and
that before clauses that the verb does not take. -/
def build (d : Draft) : Outcome Statement :=
  if d.table = "" then refuse .missingTable
  else if d.verb = .select ∧ d.projection = [] then refuse .missingProjection
  else if d.unsupported ≠ [] then
    refuse (.unsupportedClauses d.verb (d.unsupported.map Clause.text))
  else do
    let texts ← d.texts
    let values ← d.values
    return {
      text := " ".intercalate texts
      parameters := values
      verb := d.verb
      cost := d.cost
      table := d.table
      projection := d.projection
      whereCount := d.conditions.length
      limit := d.limit }

/-- The note that building a statement leaves in the log. -/
def buildNote (d : Draft) (s : Statement) : String :=
  "Built " ++ s.verb.text ++ " query on " ++ s.table ++ ": " ++ toString s.parameters.length
    ++ " parameter(s), cost=" ++ d.cost.fixed 1

end Draft

end QueryDraft.Sql
