import QueryDraft.Sql.Clause

/-!
# Drafts of statements

A draft collects the parts of a statement before it is built. Whoever works on it makes calls; a
call is checked first, on its arguments alone (`Call.check`), and what comes out is an edit, which
always applies (`Draft.edit`). So whether a call fails never depends on the draft, and calls that
write different parts do not see each other.

`Draft.run` makes calls one after another and leaves out those that fail.
-/

namespace QueryDraft.Sql

/-- The parts of a statement that is not built yet. -/
structure Draft where
  verb : Verb := .select
  projection : List String := []
  table : String := ""
  joins : List Join := []
  conditions : List Condition := []
  groupBy : List String := []
  having : List Condition := []
  orderBy : List OrderEntry := []
  limit : Option Int := none
  offset : Option Int := none
  assignments : List (String × Value) := []

/-- The value that a draft is. -/
def Draft.toValue (d : Draft) : Value :=
  .part .sqlDraft [
    .word (.verb d.verb), .textTuple d.projection, .text d.table,
    .tuple (d.joins.map Join.toValue), .tuple (d.conditions.map Condition.toValue),
    .textTuple d.groupBy, .tuple (d.having.map Condition.toValue),
    .tuple (d.orderBy.map OrderEntry.toValue), .ofOption .int d.limit, .ofOption .int d.offset,
    .tuple (d.assignments.map fun (name, value) => .tuple [.text name, value])]

/-- A call on a draft with its arguments as the caller wrote them. A condition with two arguments
has no third one, which is not the same as one that is absent. -/
inductive Call where
  | select (fields : Value)
  | table (name : Value)
  | join (table condition : Value) (kind : Value := .word (.joinKind .inner))
  | condition (connector : Connector) (field second : Value) (third : Option Value := none)
  | orderBy (field : Value) (direction : Value := .word (.direction .asc))
  | groupBy (fields : Value)
  | having (field operator : Value) (value : Value := .null)
  | limit (count : Value)
  | offset (count : Value)
  | insert (table values : Value)
  | update (table values : Value)
  | delete (table : Value)

namespace Call

/-- A join of a kind that is already known. -/
def joined (kind : JoinKind) (table condition : Value) : Call :=
  .join table condition (.word (.joinKind kind))

/-- A condition with a comparison that is already known. -/
def compare (operator : Operator) (field value : Value) : Call :=
  .condition .and field (.word (.operator operator)) (some value)

/-- A condition that a field lies between two values. -/
def between (field low high : Value) : Call := compare .between field (.tuple [low, high])

end Call

/-- A checked change of a draft. -/
inductive Edit where
  | project (names : List String)
  | table (name : String)
  | join (j : Join)
  | condition (c : Condition)
  | groupBy (names : List String)
  | having (c : Condition)
  | orderBy (o : OrderEntry)
  | limit (count : Int)
  | offset (count : Int)
  | insert (table : String) (assignments : List (String × Value))
  | update (table : String) (assignments : List (String × Value))
  | delete (table : String)

/-- The columns and values that an insertion or update is given: a mapping with at least one entry,
each column named. -/
def assignments (verb : Verb) (values : Value) : Outcome (List (String × Value)) :=
  match values.entries? with
  | none | some [] => refuse (.noColumns verb)
  | some es => es.mapM fun (name, value) => do
    return (← requireText (.columnName verb) name, value)

/-- The join that its arguments describe. -/
def Join.make (table condition kind : Value) : Outcome Join :=
  match table.text?.bind Text.nonBlank?, condition.text?.bind Text.nonBlank? with
  | some t, some c => do return ⟨t, c, ← JoinKind.parse kind⟩
  | _, _ => refuse .joinParts

/-- Checks a call: the edit that it makes, or the reason why it makes none. -/
def Call.check : Call → Outcome Edit
  | .select fields => return .project (← requireTexts .selectField fields)
  | .table name => return .table (← requireText .tableName name)
  | .join t on kind => return .join (← Join.make t on kind)
  | .condition connector field second none =>
    return .condition (← Condition.short field second connector)
  | .condition connector field operator (some value) =>
    return .condition (← Condition.compare field operator value connector)
  | .orderBy field direction => do
    let field ← requireText .orderByField field
    return .orderBy ⟨field, ← Direction.parse direction⟩
  | .groupBy fields => return .groupBy (← requireTexts .groupByField fields)
  | .having field operator value =>
    return .having (← Condition.compare field operator value .and)
  | .limit count => return .limit (← requireCount .limit count)
  | .offset count => return .offset (← requireCount .offset count)
  | .insert t values => do
    let name ← requireText .tableName t
    return .insert name (← assignments .insert values)
  | .update t values => do
    let name ← requireText .tableName t
    return .update name (← assignments .update values)
  | .delete t => return .delete (← requireText .tableName t)

namespace Draft

/-- Applies an edit. A lone star replaces the projection, other names are added to it. -/
def edit (d : Draft) : Edit → Draft
  | .project names =>
    { d with
      verb := .select
      projection := if names = ["*"] then names else d.projection ++ names }
  | .table name => { d with table := name }
  | .join j => { d with joins := d.joins ++ [j] }
  | .condition c => { d with conditions := d.conditions ++ [c] }
  | .groupBy names => { d with groupBy := d.groupBy ++ names }
  | .having c => { d with having := d.having ++ [c] }
  | .orderBy o => { d with orderBy := d.orderBy ++ [o] }
  | .limit count => { d with limit := some count }
  | .offset count => { d with offset := some count }
  | .insert name columns => { d with verb := .insert, table := name, assignments := columns }
  | .update name columns => { d with verb := .update, table := name, assignments := columns }
  | .delete name => { d with verb := .delete, table := name }

/-- Makes a call on a draft. -/
def call (d : Draft) (c : Call) : Outcome Draft := d.edit <$> c.check

/-- Makes calls one after another; one that fails changes nothing. -/
def run (d : Draft) (calls : List Call) : Draft :=
  calls.foldl (fun d c => (d.call c).toOption.getD d) d

end Draft

end QueryDraft.Sql
