import QueryDraft.Access
import QueryDraft.Search.Part

/-!
# Documents of searches

A predicate, an aggregation and a highlight are written as mappings with one key that names their
kind. Literal values are written as they are, except that a tuple becomes a list, also inside
tuples. A `bool` predicate writes the clauses that hold something, in a fixed order.

A part that holds something its rules did not look at may have no document; what is in the way is
then reported.
-/

namespace QueryDraft

mutual

/-- A literal in a document: tuples become lists. -/
def Value.literal : Value → Value
  | .tuple vs => .list (literals vs)
  | v => v

/-- Literals in a document. -/
def literals : List Value → List Value
  | [] => []
  | v :: vs => v.literal :: literals vs

end

namespace Document

/-- A mapping with texts as keys. -/
def ofFields (fields : List (String × Value)) : Value :=
  .map (fields.map fun (name, v) => (.text name, v))

/-- A mapping with one entry. -/
def single (name : String) (body : Value) : Value := ofFields [(name, body)]

/-- A mapping from a field to what is asked of it. -/
def ofField (kind : String) (field body : Value) : Outcome Value :=
  if field.isKey then .ok (single kind (.map [(field, body)])) else fail .mismatch

/-- The document of the bounds of a range. -/
def ofBounds (v : Value) : Outcome Value :=
  match Bounds.ofValue? v, v with
  | some b, _ => .ok (ofFields (b.items.map fun (name, v) => (name, v.literal)))
  | none, .map es => .ok (.map (es.map fun (k, v) => (k, v.literal)))
  | none, _ => fail .noSuchPart

end Document

open Document

mutual

/-- The document of whatever stands for a predicate. -/
def Value.predicateDocument : Value → Outcome Value
  | .part .matchAll _ => .ok (single "match_all" (.map []))
  | .part .matching [field, value] => ofField "match" field value.literal
  | .part .phrase [field, words] => ofField "match_phrase" field words
  | .part .multiMatch [value, .tuple fields] =>
    .ok (single "multi_match" (ofFields [("query", value.literal), ("fields", .list fields)]))
  | .part .term [field, value] => ofField "term" field value.literal
  | .part .terms [field, .tuple values] => ofField "terms" field (.list (literals values))
  | .part .range [field, bounds] => do
    let body ← ofBounds bounds
    ofField "range" field body
  | .part .bool [must, mustNot, should, filter] => do
    let must ← clauseDocument "must" must
    let mustNot ← clauseDocument "must_not" mustNot
    let should ← clauseDocument "should" should
    let filter ← clauseDocument "filter" filter
    return single "bool" (ofFields (must ++ mustNot ++ should ++ filter))
  | v => .error (.kind (.predicate v.typeName))

/-- The entry that a clause of a `bool` predicate makes, none if it is empty. -/
def clauseDocument (name : String) : Value → Outcome (List (String × Value))
  | .null | .bool false => .ok []
  | .int n => if n = 0 then .ok [] else fail .mismatch
  | .float x => if (Value.float x).isTruthy then fail .mismatch else .ok []
  | .text s => if s = "" then .ok [] else .error (.kind (.predicate "str"))
  | .word _ => .error (.kind (.predicate "str"))
  | .bytes bs => if bs.isEmpty then .ok [] else .error (.kind (.predicate "int"))
  | .list vs | .tuple vs | .set vs =>
    if vs.isEmpty then .ok [] else do return [(name, .list (← memberDocuments vs))]
  | .map es => if es.isEmpty then .ok [] else do return [(name, .list (← keyDocuments es))]
  | _ => fail .mismatch

/-- The documents of the members of a clause. -/
def memberDocuments : List Value → Outcome (List Value)
  | [] => .ok []
  | v :: vs => do
    let first ← v.predicateDocument
    let rest ← memberDocuments vs
    return first :: rest

/-- The documents of the keys of a clause. -/
def keyDocuments : List (Value × Value) → Outcome (List Value)
  | [] => .ok []
  | (k, _) :: es => do
    let first ← k.predicateDocument
    let rest ← keyDocuments es
    return first :: rest

end

/-- The document of an aggregation. -/
def Aggregation.document : Aggregation → Value
  | .avg field => single "avg" (single "field" field)
  | .sum field => single "sum" (single "field" field)
  | .terms field size => single "terms" (ofFields [("field", field), ("size", size)])
  | .dateHistogram field interval =>
    single "date_histogram" (ofFields [("field", field), ("calendar_interval", interval)])

/-- The document of whatever stands for an aggregation. -/
def Value.aggregationDocument (v : Value) : Outcome Value :=
  match Aggregation.ofValue? v with
  | some a => .ok a.document
  | none => .error (.kind (.aggregation v.typeName))

/-- The document of a highlight; a field that is named twice is written once. -/
def Highlight.document (h : Highlight) : Value :=
  let fields := .map (Entries.ofPairs (h.fields.map fun name => (.text name, .map [])))
  let tags := fun (name : String) (vs : List Value) =>
    if vs.isEmpty then [] else [(name, Value.list vs)]
  let size := if h.fragmentSize.isNull then [] else [("fragment_size", h.fragmentSize)]
  ofFields
    ([("fields", fields)] ++ tags "pre_tags" h.preTags ++ tags "post_tags" h.postTags ++ size)

/-- The document of whatever stands for a highlight. -/
def Value.highlightDocument (v : Value) : Outcome Value :=
  match Highlight.ofValue? v with
  | some h => .ok h.document
  | none => fail .noSuchPart

/-- The document of a field to sort by. -/
def Value.sortDocument (v : Value) : Outcome Value := do
  let field ← v.field "field"
  let order ← (← v.field "order").field "value"
  field.requireKey
  return .map [(field, single "order" order)]

/-- The documents of named aggregations. -/
def aggregationDocuments (es : Entries) : Outcome Entries :=
  es.mapM fun (name, v) => do return (name, ← v.aggregationDocument)

/-- The part of a document under a name, unless its value is absent. -/
def partUnlessNull (name : String) (v : Value) : List (String × Value) :=
  if v.isNull then [] else [(name, v)]

/-- The part of a document under a name, made from a value that is not empty. -/
def partUnlessEmpty (name : String) (v : Value) (make : Value → Outcome Value) :
    Outcome (List (String × Value)) :=
  if v.isTruthy then do return [(name, ← make v)] else .ok []

/-- The document of a request: its predicate and, of the other parts, those that are set. -/
def Value.requestDocument (v : Value) : Outcome Value := do
  let query ← (← v.field "predicate").predicateDocument
  let sort ← partUnlessEmpty "sort" (← v.field "sort") fun sort => do
    return .list (← (← sort.items).mapM Value.sortDocument)
  let size := partUnlessNull "size" (← v.field "size")
  let start := partUnlessNull "from" (← v.field "from_")
  let aggs ← partUnlessEmpty "aggs" (← v.field "aggregations") fun aggs => do
    return .map (← aggregationDocuments (← aggs.entries))
  let highlight ← match ← v.field "highlight" with
    | .null => pure []
    | h => do pure [("highlight", ← h.highlightDocument)]
  let source ← match ← v.field "source_fields" with
    | .null => pure []
    | fields => do pure [("_source", .list (← fields.items))]
  return ofFields ([("query", query)] ++ sort ++ size ++ start ++ aggs ++ highlight ++ source)

end QueryDraft
