import QueryDraft.Search.Document
import QueryDraft.Search.Draft

/-!
# Built searches

A draft always builds to a request. Filters turn the primary predicate into a `bool` predicate that
demands it and filters by them; without filters it stays as it is. The document of a request holds
its predicate and, of the other parts, those that are set; the index is no part of it.
-/

namespace QueryDraft.Search

/-- A built search. -/
structure Request where
  predicate : Predicate := .matchAll
  filters : List Predicate := []
  sort : List SortField := []
  size : Option Int := none
  start : Option Int := none
  aggregations : List (String × Aggregation) := []
  highlight : Option Highlight := none
  source : Option (List String) := none
  index : Option String := none

namespace Draft

/-- The predicate that a draft searches by. -/
def finalPredicate (d : Draft) : Predicate :=
  if d.filters.isEmpty then d.predicate
  else .bool (predicateTuple [d.predicate]) (.tuple []) (.tuple []) (predicateTuple d.filters)

/-- Builds the request of a draft. -/
def build (d : Draft) : Request where
  predicate := d.finalPredicate
  filters := d.filters
  sort := d.sort
  size := d.size
  start := d.start
  aggregations := d.aggregations
  highlight := d.highlight
  source := d.source
  index := d.index

/-- The note that building a request leaves in the log. -/
def buildNote (d : Draft) : String :=
  "Built search query index=" ++ d.index.getD "None" ++ " predicate="
    ++ d.finalPredicate.kind.name ++ " filters=" ++ toString d.filters.length

end Draft

namespace Request

/-- The named aggregations of a request as a value, absent if there are none. -/
def aggregationMap (r : Request) : Value :=
  if r.aggregations.isEmpty then .null
  else .map (r.aggregations.map fun (name, a) => (.text name, a.toValue))

/-- The value that a request is. -/
def toValue (r : Request) : Value :=
  .part .request [
    r.predicate.toValue, predicateTuple r.filters, .tuple (r.sort.map SortField.toValue),
    .ofOption .int r.size, .ofOption .int r.start, r.aggregationMap,
    .ofOption Highlight.toValue r.highlight, .ofOption .textTuple r.source,
    .ofOption .text r.index]

/-- The document of a request. -/
def document (r : Request) : Outcome Value := r.toValue.requestDocument

end Request

end QueryDraft.Search
