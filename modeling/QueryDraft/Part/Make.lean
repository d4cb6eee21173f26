import QueryDraft.Config.Settings

/-!
# Making parts from their fields

A part is made from the values of its fields in order, the last of which may be left out. Where its
kind has rules they bring the fields into their form or refuse them; all other fields are kept as
they were given.
-/

namespace QueryDraft.Part

/-- The fields of a part. -/
def fieldsOf : Value → List Value
  | .part _ fields => fields
  | _ => []

/-- What the last fields of a kind are where they are left out. -/
def defaults : Kind → List Value
  | .bool | .boolDraft => List.replicate 4 (.tuple [])
  | .bounds => List.replicate 4 .null
  | .termsAggregation => [.int 10]
  | .highlight => [.tuple [], .tuple [], .null]
  | .sortField => [.word (.sortOrder .asc)]
  | .condition => [.null, .word (.connector .and)]
  | .join => [.word (.joinKind .inner)]
  | .order => [.word (.direction .asc)]
  | .statement => [.text "", .tuple [], .int 0, .null]
  | .request => fieldsOf ({} : Search.Request).toValue
  | .sqlDraft => fieldsOf ({} : Sql.Draft).toValue
  | .searchDraft => fieldsOf ({} : Search.Draft).toValue
  | .thresholds => fieldsOf ({} : Analysis.Thresholds).toValue
  | .report => [.tuple []]
  | .logSettings => fieldsOf ({} : Config.LogSettings).toValue
  | .outputSettings => fieldsOf ({} : Config.OutputSettings).toValue
  | _ => []

/-- The fields of a part with those that were left out. -/
def complete (kind : Kind) (given : List Value) : Outcome (List Value) :=
  let missing := kind.labels.length - given.length
  let others := defaults kind
  if kind.labels.length < given.length || others.length < missing then fail .mismatch
  else .ok (given ++ others.drop (others.length - missing))

/-- A condition from an operator that was not read from its spelling: anything but a word has no
rules to check by. The connector is not looked at. -/
def makeCondition (field operator value connector : Value) : Outcome Value := do
  let name ← requireText .conditionField field
  match operator with
  | .word (.operator o) =>
    return .part .condition [.text name, operator, ← Sql.fitValue o value, connector]
  | _ => fail .noSuchPart

/-- What is made of a value unless it is absent. -/
def unlessNull (v : Value) (make : Value → Outcome Value) : Outcome Value :=
  if v.isNull then .ok .null else make v

/-- The part of a kind with the fields given. -/
def make (kind : Kind) (given : List Value) : Outcome Value := do
  match kind, ← complete kind given with
  | .multiMatch, [value, fields] => Predicate.toValue <$> Predicate.makeMultiMatch value fields
  | .terms, [field, values] => Predicate.toValue <$> Predicate.makeTerms field values
  | .bounds, [gte, gt, lte, lt] => Bounds.toValue <$> Bounds.make gte gt lte lt
  | .termsAggregation, [field, size] => Aggregation.toValue <$> Aggregation.makeTerms field size
  | .highlight, [fields, pre, post, size] =>
    Highlight.toValue <$> Highlight.make fields pre post size
  | .condition, [field, operator, value, connector] => makeCondition field operator value connector
  | .request, [predicate, filters, sort, size, start, aggregations, highlight, source, index] => do
    let aggs ← unlessNull aggregations fun v => do return .map (← v.listedEntries)
    let fields ← unlessNull source fun v => do return .tuple (← v.items)
    return .part .request [predicate, filters, sort, size, start, aggs, highlight, fields, index]
  | _, fields => return .part kind fields

end QueryDraft.Part
