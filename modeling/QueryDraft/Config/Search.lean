import QueryDraft.Config.Section
import QueryDraft.Search.Draft

/-!
# Definitions of searches

As with statements, each part of a definition is read into the edits that it makes on an empty
draft, in a fixed order. A `bool` part makes one edit: the predicate that its clauses compose.
-/

namespace QueryDraft.Config.Search

open QueryDraft.Search (Call Edit)

/-- The keys of a definition. -/
def keys : List String :=
  ["name", "type", "index", "query", "bool", "filter", "filter_range", "sort", "size", "from",
    "source", "aggs", "highlight"]

/-- The one edit of a part that may be left out. -/
def optional (es : Entries) (key name : String) (read : String → Value → Outcome Edit) :
    Outcome (List Edit) :=
  match Entries.get? es name with
  | none => .ok []
  | some v => do return [← read (key ++ "." ++ name) v]

/-- The edits of the entries of a part that may be left out. -/
def entries (es : Entries) (key name : String) (read : String → Value → Value → Outcome Edit) :
    Outcome (List Edit) := do
  let full := key ++ "." ++ name
  let parts ← expectMapping full (getOr es name (.map []))
  parts.mapM fun (k, v) => read (full ++ "." ++ k.plain) k v

/-- The index. -/
def readIndex (key : String) (v : Value) : Outcome Edit := do
  (Call.index (.text (← expectText key v))).check

/-- The predicate that a mapping describes. -/
def readPredicate (key : String) (v : Value) : Outcome Predicate := do
  Predicate.ofDocument (.map (← expectMapping key v))

/-- The primary predicate. -/
def readQuery (key : String) (v : Value) : Outcome Edit := Edit.predicate <$> readPredicate key v

/-- The predicates of a clause of a `bool` part. -/
def readClause (es : Entries) (key name : String) : Outcome (List Predicate) := do
  let full := key ++ "." ++ name
  places readPredicate full 0 (← expectList full (getOr es name (.list [])))

/-- The predicate that the clauses of a `bool` part compose. -/
def readBool (key : String) (v : Value) : Outcome Edit := do
  let es ← expectMapping key v
  rejectKeys es ["must", "must_not", "should", "filter"] key
  let must ← readClause es key "must"
  let mustNot ← readClause es key "must_not"
  let should ← readClause es key "should"
  let filter ← readClause es key "filter"
  let composed : QueryDraft.Search.BoolDraft := ⟨{}, must, mustNot, should, filter⟩
  return .predicate composed.toPredicate

/-- Refuses a definition that sets its primary predicate twice. -/
def checkPredicates (key : String) (es : Entries) : Outcome Unit :=
  if Entries.has es "query" && Entries.has es "bool" then .error (.setting (.queryAndBool key))
  else .ok ()

/-- A filter. -/
def readFilter (_key : String) (field v : Value) : Outcome Edit := (Call.filter field v).check

/-- A filter by a range. -/
def readFilterRange (key : String) (field v : Value) : Outcome Edit := do
  (Call.filterRange field (.map (← expectMapping key v))).check

/-- A field to sort by: its name, or a mapping from its name to an order. -/
def readSort (key : String) (v : Value) : Outcome Edit :=
  match v.text? with
  | some field => (Call.sort (.text field) (.word (.sortOrder .asc))).check
  | none => do
    match ← expectMapping key v with
    | [(field, order)] => do
      let order ← expectSpelling (key ++ "." ++ field.plain) order
      (Call.sort field order).check
    | _ => .error (.setting (.sortEntry key))

/-- The fields to sort by. -/
def readSorts (es : Entries) (key : String) : Outcome (List Edit) := do
  let full := key ++ ".sort"
  places readSort full 0 (← expectList full (getOr es "sort" (.list [])))

/-- The size of a page. -/
def readSize (key : String) (v : Value) : Outcome Edit := do
  (Call.size (.int (← expectInt key v))).check

/-- The offset of a page. -/
def readStart (key : String) (v : Value) : Outcome Edit := do
  (Call.start (.int (← expectInt key v))).check

/-- The fields to return. -/
def readSource (key : String) (v : Value) : Outcome Edit := do
  (Call.source (.textList (← expectTexts key v))).check

/-- A named aggregation. -/
def readAggregation (key : String) (name v : Value) : Outcome Edit := do
  let a ← Aggregation.ofDocument (.map (← expectMapping key v))
  (Call.aggregate name a.toValue).check

/-- The options of a highlight. -/
def readHighlightOptions (key : String) (es : Entries) : Outcome Highlight := do
  rejectKeys es ["fields", "pre_tags", "post_tags", "fragment_size"] key
  let tagsAt := fun (name : String) =>
    expectSpellings (key ++ "." ++ name) (getOr es name (.list []))
  let listed ← require es "fields" (key ++ ".fields")
  let listed := match listed with
    | .map fields => .list (Entries.keys fields)
    | v => v
  let fields ← expectTexts (key ++ ".fields") listed
  let pre ← tagsAt "pre_tags"
  let post ← tagsAt "post_tags"
  let size ← match getOr es "fragment_size" .null with
    | .null => pure Value.null
    | v => Value.int <$> expectInt (key ++ ".fragment_size") v
  Highlight.make (.textTuple fields) (.tuple pre) (.tuple post) size

/-- The highlight: names of fields, or a mapping of options. -/
def readHighlight (key : String) (v : Value) : Outcome Edit :=
  match v with
  | .text _ | .word _ | .list _ => do
    let fields ← expectTexts key v
    return .highlight (← Highlight.make (.textTuple fields) (.tuple []) (.tuple []) .null)
  | _ => do return .highlight (← readHighlightOptions key (← expectMapping key v))

/-- The edits of a definition. -/
def edits (key : String) (es : Entries) : Outcome (List Edit) := do
  let index ← optional es key "index" readIndex
  checkPredicates key es
  let query ← optional es key "query" readQuery
  let bool ← optional es key "bool" readBool
  let filter ← entries es key "filter" readFilter
  let ranges ← entries es key "filter_range" readFilterRange
  let sort ← readSorts es key
  let size ← optional es key "size" readSize
  let start ← optional es key "from" readStart
  let source ← optional es key "source" readSource
  let aggs ← entries es key "aggs" readAggregation
  let highlight ← optional es key "highlight" readHighlight
  return index ++ query ++ bool ++ filter ++ ranges ++ sort ++ size ++ start ++ source ++ aggs
    ++ highlight

end QueryDraft.Config.Search
