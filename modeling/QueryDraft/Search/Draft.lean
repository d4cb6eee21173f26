import QueryDraft.Search.Reading

/-!
# Drafts of searches

A draft of a search has one place for its primary predicate, which the last call decides, and lists
to which filters, orderings and named aggregations are added; an aggregation takes the place of an
earlier one of its name. As with statements, a call is checked on its arguments alone
(`Call.check`) and the edit that it makes always applies (`Draft.edit`).

A `bool` predicate is composed in a sub-draft that remembers the draft it was opened on
(`BoolDraft`). A `Session` is a draft with at most one open sub-draft.
-/

namespace QueryDraft.Search

/-- A field to sort by. -/
structure SortField where
  field : String
  order : SortOrder

/-- The parts of a search that is not built yet. -/
structure Draft where
  index : Option String := none
  predicate : Predicate := .matchAll
  filters : List Predicate := []
  sort : List SortField := []
  size : Option Int := none
  start : Option Int := none
  aggregations : List (String × Aggregation) := []
  highlight : Option Highlight := none
  source : Option (List String) := none

/-- The value that a field to sort by is. -/
def SortField.toValue (s : SortField) : Value :=
  .part .sortField [.text s.field, .word (.sortOrder s.order)]

/-- Predicates as a tuple of values. -/
def predicateTuple (ps : List Predicate) : Value := .tuple (ps.map Predicate.toValue)

/-- The value that a draft is. -/
def Draft.toValue (d : Draft) : Value :=
  .part .searchDraft [
    .ofOption .text d.index, d.predicate.toValue, predicateTuple d.filters,
    .tuple (d.sort.map SortField.toValue), .ofOption .int d.size, .ofOption .int d.start,
    .tuple (d.aggregations.map fun (name, a) => .tuple [.text name, a.toValue]),
    .ofOption Highlight.toValue d.highlight, .ofOption .textTuple d.source]

/-- A call on a draft with its arguments as the caller wrote them. -/
inductive Call where
  | index (name : Value)
  | query (predicate : Value)
  | matchAll
  | matching (field value : Value)
  | phrase (field phrase : Value)
  | multiMatch (value fields : Value)
  | term (field value : Value)
  | terms (field values : Value)
  | range (field bounds : Value)
  | filter (field value : Value)
  | filterRange (field bounds : Value)
  | sort (field order : Value)
  | size (count : Value)
  | start (offset : Value)
  | source (fields : Value)
  | highlight (spec : Value)
  | aggregate (name spec : Value)
  | avg (name field : Value)
  | sum (name field : Value)
  | termsAggregation (name field size : Value)
  | dateHistogram (name field interval : Value)

/-- A checked change of a draft. -/
inductive Edit where
  | index (name : String)
  | predicate (p : Predicate)
  | filter (p : Predicate)
  | sort (s : SortField)
  | size (count : Int)
  | start (offset : Int)
  | source (fields : List String)
  | highlight (h : Highlight)
  | aggregate (name : String) (a : Aggregation)

/-- The name of a field. -/
def requireField (v : Value) : Outcome Value := Value.text <$> requireText .fieldName v

/-- The filter that a field and a value stand for: one of several values if the value is a
collection, that value otherwise. -/
def filterOf (field value : Value) : Predicate :=
  match value.collection? with
  | some vs => .terms field vs
  | none => .term field value

/-- A range of a field. -/
def rangeOf (field bounds : Value) : Outcome Predicate := do
  let field ← requireField field
  return .range field (← Bounds.coerce bounds).toValue

/-- The edit that adds an aggregation under a name. -/
def aggregateAs (name : Value) (a : Aggregation) : Outcome Edit :=
  return .aggregate (← requireText .aggregationName name) a

/-- Checks a call: the edit that it makes, or the reason why it makes none. -/
def Call.check : Call → Outcome Edit
  | .index name => return .index (← requireText .indexName name)
  | .query p => return .predicate (← Predicate.ensure p)
  | .matchAll => return .predicate .matchAll
  | .matching field value => return .predicate (.matching (← requireField field) value)
  | .phrase field words => return .predicate (.phrase (← requireField field) words)
  | .multiMatch value fields => return .predicate (← Predicate.makeMultiMatch value fields)
  | .term field value => return .predicate (.term (← requireField field) value)
  | .terms field values => do
    let field ← requireField field
    return .predicate (← Predicate.makeTerms field values)
  | .range field bounds => return .predicate (← rangeOf field bounds)
  | .filter field value => return .filter (filterOf (← requireField field) value)
  | .filterRange field bounds => return .filter (← rangeOf field bounds)
  | .sort field order => do
    let name ← requireText .fieldName field
    return .sort ⟨name, ← SortOrder.parse order⟩
  | .size count => return .size (← requireCount .size count)
  | .start offset => return .start (← requireCount .start offset)
  | .source fields => return .source (← requireTexts .fieldName fields)
  | .highlight spec => return .highlight (← Highlight.coerce spec)
  | .aggregate name spec => do
    let name ← requireText .aggregationName name
    return .aggregate name (← Aggregation.ensure spec)
  | .avg name field => do aggregateAs name (.avg (← requireField field))
  | .sum name field => do aggregateAs name (.sum (← requireField field))
  | .termsAggregation name field limit => do
    let field ← requireField field
    let count ← requireCount .termsSize limit
    aggregateAs name (← Aggregation.makeTerms field (.int count))
  | .dateHistogram name field interval => do
    let interval ← requireText .histogramInterval interval
    aggregateAs name (.dateHistogram (← requireField field) (.text interval))

/-- Named things with one put under a name: in the place of the one that has the name, at the end
if none has. -/
def putNamed {α : Type} (items : List (String × α)) (name : String) (item : α) :
    List (String × α) :=
  match items with
  | [] => [(name, item)]
  | (other, old) :: rest =>
    if other = name then (name, item) :: rest else (other, old) :: putNamed rest name item

namespace Draft

/-- Applies an edit. -/
def edit (d : Draft) : Edit → Draft
  | .index name => { d with index := some name }
  | .predicate p => { d with predicate := p }
  | .filter p => { d with filters := d.filters ++ [p] }
  | .sort s => { d with sort := d.sort ++ [s] }
  | .size count => { d with size := some count }
  | .start offset => { d with start := some offset }
  | .source fields => { d with source := some fields }
  | .highlight h => { d with highlight := some h }
  | .aggregate name a => { d with aggregations := putNamed d.aggregations name a }

/-- Makes a call on a draft. -/
def call (d : Draft) (c : Call) : Outcome Draft := d.edit <$> c.check

end Draft

/-- The clauses of a `bool` predicate. -/
inductive BoolClause where
  | must | mustNot | should | filter
  deriving DecidableEq

/-- A `bool` predicate that is being composed, and the draft that it is for. -/
structure BoolDraft where
  parent : Draft
  must : List Predicate := []
  mustNot : List Predicate := []
  should : List Predicate := []
  filter : List Predicate := []

namespace BoolDraft

/-- Adds a predicate to a clause. -/
def add (b : BoolDraft) (clause : BoolClause) (p : Predicate) : BoolDraft :=
  match clause with
  | .must => { b with must := b.must ++ [p] }
  | .mustNot => { b with mustNot := b.mustNot ++ [p] }
  | .should => { b with should := b.should ++ [p] }
  | .filter => { b with filter := b.filter ++ [p] }

/-- Adds the predicate that a value is to a clause. -/
def call (b : BoolDraft) (clause : BoolClause) (predicate : Value) : Outcome BoolDraft :=
  b.add clause <$> Predicate.ensure predicate

/-- The value that a sub-draft is. -/
def toValue (b : BoolDraft) : Value :=
  .part .boolDraft (b.parent.toValue :: [b.must, b.mustNot, b.should, b.filter].map predicateTuple)

/-- The predicate that was composed. -/
def toPredicate (b : BoolDraft) : Predicate :=
  .bool (predicateTuple b.must) (predicateTuple b.mustNot) (predicateTuple b.should)
    (predicateTuple b.filter)

/-- The draft with the composed predicate as its primary one. -/
def done (b : BoolDraft) : Draft := b.parent.edit (.predicate b.toPredicate)

end BoolDraft

/-- A draft, or a sub-draft that is open on one. -/
inductive Session where
  | draft (d : Draft)
  | bool (b : BoolDraft)

/-- A call in a session: on the draft, or on the sub-draft. -/
inductive SessionCall where
  | draft (c : Call)
  | openBool
  | clause (clause : BoolClause) (predicate : Value)
  | done

namespace Session

/-- The value that the draft or sub-draft of a session is. -/
def toValue : Session → Value
  | .draft d => d.toValue
  | .bool b => b.toValue

/-- Makes a call in a session. A call that the open draft or sub-draft does not know fails. -/
def call : Session → SessionCall → Outcome Session
  | .draft d, .draft c => .draft <$> d.call c
  | .draft d, .openBool => .ok (.bool ⟨d, [], [], [], []⟩)
  | .bool b, .clause clause predicate => .bool <$> b.call clause predicate
  | .bool b, .done => .ok (.draft b.done)
  | _, _ => fail .noSuchPart

/-- Makes calls one after another; one that fails changes nothing. -/
def run (s : Session) (calls : List SessionCall) : Session :=
  calls.foldl (fun s c => (s.call c).toOption.getD s) s

end Session

end QueryDraft.Search
