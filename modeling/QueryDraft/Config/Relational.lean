import QueryDraft.Config.Section
import QueryDraft.Sql.Draft

/-!
# Definitions of statements

Each part of a definition is read into the edits that it makes on an empty draft. The parts are read
in a fixed order, whatever order the definition has them in, and what is reported is the first fault
in that order.
-/

namespace QueryDraft.Config.Relational

open Sql (Call Edit)

/-- The keys of a definition. -/
def keys : List String :=
  ["name", "type", "select", "from", "join", "where", "group_by", "having", "order_by", "limit",
    "offset", "insert", "update", "delete"]

/-- The one edit of a part that may be left out. -/
def optional (es : Entries) (key name : String) (read : String → Value → Outcome Edit) :
    Outcome (List Edit) :=
  match Entries.get? es name with
  | none => .ok []
  | some v => do return [← read (key ++ "." ++ name) v]

/-- The edits of the items of a part that may be left out. -/
def items (es : Entries) (key name : String) (read : String → Value → Outcome Edit) :
    Outcome (List Edit) := do
  let full := key ++ "." ++ name
  places read full 0 (← expectList full (getOr es name (.list [])))

/-- The names to select. -/
def readSelect (key : String) (v : Value) : Outcome Edit := do
  (Call.select (.textList (← expectTexts key v))).check

/-- The table. -/
def readTable (key : String) (v : Value) : Outcome Edit := do
  (Call.table (.text (← expectText key v))).check

/-- A join. -/
def readJoin (key : String) (v : Value) : Outcome Edit := do
  let es ← expectMapping key v
  rejectKeys es ["table", "condition", "kind"] key
  let table ← requireTextAt es key "table"
  let condition ← requireTextAt es key "condition"
  let kind ← expectSpelling (key ++ ".kind") (getOr es "kind" (.text "INNER"))
  (Call.join (.text table) (.text condition) kind).check

/-- The operator and the value of a condition. Without an operator two things are compared for
equality; a null check needs no value. -/
def readComparison (key : String) (es : Entries) : Outcome (Operator × Value) :=
  match Entries.get? es "op" with
  | none => do return (.eq, ← require es "value" (key ++ ".value"))
  | some spelling => do
    let operator ← Operator.parse (← expectSpelling (key ++ ".op") spelling)
    if operator.isNullCheck then return (operator, getOr es "value" .null)
    else return (operator, ← require es "value" (key ++ ".value"))

/-- A condition on rows. -/
def readCondition (key : String) (v : Value) : Outcome Edit := do
  let es ← expectMapping key v
  rejectKeys es ["field", "op", "value", "or"] key
  let field ← requireTextAt es key "field"
  let (operator, value) ← readComparison key es
  let connector := if ← expectBool (key ++ ".or") (getOr es "or" (.bool false))
    then Connector.or else .and
  (Call.condition connector (.text field) (.word (.operator operator)) (some value)).check

/-- A condition on groups. -/
def readHaving (key : String) (v : Value) : Outcome Edit := do
  let es ← expectMapping key v
  rejectKeys es ["field", "op", "value"] key
  let field ← requireTextAt es key "field"
  let (operator, value) ← readComparison key es
  (Call.having (.text field) (.word (.operator operator)) value).check

/-- The names to group by. -/
def readGroupBy (key : String) (v : Value) : Outcome Edit := do
  (Call.groupBy (.textList (← expectTexts key v))).check

/-- A field to order by: its name, or a mapping with a direction. -/
def readOrderBy (key : String) (v : Value) : Outcome Edit :=
  match v.text? with
  | some field => (Call.orderBy (.text field) (.word (.direction .asc))).check
  | none => do
    let es ← expectMapping key v
    rejectKeys es ["field", "direction"] key
    let field ← requireTextAt es key "field"
    let direction ← expectSpelling (key ++ ".direction") (getOr es "direction" (.text "ASC"))
    (Call.orderBy (.text field) direction).check

/-- The limit. -/
def readLimit (key : String) (v : Value) : Outcome Edit := do
  (Call.limit (.int (← expectInt key v))).check

/-- The offset. -/
def readOffset (key : String) (v : Value) : Outcome Edit := do
  (Call.offset (.int (← expectInt key v))).check

/-- The table and the values of an insertion or update. -/
def readValues (call : Value → Value → Call) (key : String) (v : Value) : Outcome Edit := do
  let es ← expectMapping key v
  rejectKeys es ["table", "values"] key
  let table ← requireTextAt es key "table"
  let full := key ++ ".values"
  let values ← expectMapping full (← require es "values" full)
  (call (.text table) (.map values)).check

/-- The table to delete from. -/
def readDelete (key : String) (v : Value) : Outcome Edit := do
  (Call.delete (.text (← expectText key v))).check

/-- Refuses a definition that names more than one verb that writes. -/
def checkVerbs (key : String) (es : Entries) : Outcome Unit :=
  let verbs := ["insert", "update", "delete"].filter (Entries.has es)
  if 1 < verbs.length then .error (.setting (.severalVerbs key verbs)) else .ok ()

/-- The edits of a definition. -/
def edits (key : String) (es : Entries) : Outcome (List Edit) := do
  let select ← optional es key "select" readSelect
  let table ← optional es key "from" readTable
  let joins ← items es key "join" readJoin
  let conditions ← items es key "where" readCondition
  let groupBy ← optional es key "group_by" readGroupBy
  let having ← items es key "having" readHaving
  let orderBy ← items es key "order_by" readOrderBy
  let limit ← optional es key "limit" readLimit
  let offset ← optional es key "offset" readOffset
  checkVerbs key es
  let insert ← optional es key "insert" (readValues .insert)
  let update ← optional es key "update" (readValues .update)
  let delete ← optional es key "delete" readDelete
  return select ++ table ++ joins ++ conditions ++ groupBy ++ having ++ orderBy ++ limit ++ offset
    ++ insert ++ update ++ delete

end QueryDraft.Config.Relational
