import QueryDraft.Access
import QueryDraft.Query

/-!
# Analysis of built queries

Each rule looks at the built query alone and may leave a note; a note may carry a rating, and the
worst one decides. The notes stand in a fixed order. Limits are compared exactly, also where one
side is a whole number and the other is not.

A query may also have been put together by hand, so a rule takes the query and the limits as values
and fails where they do not have what it looks at. On a query that was built from a draft no rule
fails.
-/

namespace QueryDraft

namespace Analysis

/-- The limits that rules compare with. -/
structure Thresholds where
  maxCost : Binary64 := .finite (Dyadic.ofInt 5)
  largeResultSize : Int := 1000
  sortRequiredSize : Int := 100

/-- The value that limits are. -/
def Thresholds.toValue (t : Thresholds) : Value :=
  .part .thresholds [.float t.maxCost, .int t.largeResultSize, .int t.sortRequiredSize]

/-- What a rule may point out. -/
inductive Note where
  | selectAll
  | highCost
  | unbounded
  | allRows
  | pagination
  | sorting
  | filters
  deriving DecidableEq

/-- The wording of a note. -/
def Note.text : Note → String
  | .selectAll => "Avoid selecting all columns (SELECT *); list the needed columns"
  | .highCost => "High estimated cost; consider adding indexes"
  | .unbounded => "Add LIMIT to bound the result size"
  | .allRows => "Statement affects every row; add a WHERE condition"
  | .pagination => "Large result set; consider pagination"
  | .sorting => "Add sorting for deterministic results"
  | .filters => "Add filters to improve performance"

/-- The rating that a note carries. -/
def Note.rating : Note → Rating
  | .selectAll | .highCost | .allRows => .poor
  | .unbounded | .pagination => .fair
  | .sorting | .filters => .good

/-- A rating with the notes that led to it. -/
structure Report where
  rating : Rating
  notes : List Note := []

namespace Report

/-- The report that notes lead to. -/
def ofNotes (notes : List Note) : Report where
  rating := notes.foldl (fun rating note => rating.worst note.rating) .good
  notes := notes

/-- The value that a report is. -/
def toValue (r : Report) : Value :=
  .part .report [.word (.rating r.rating), .textTuple (r.notes.map Note.text)]

end Report

/-- A rule: the note that it leaves, and whether it does. -/
abbrev Rule := Note × Outcome Bool

/-- The notes of the rules that hold. The first rule that fails is reported. -/
def triggered : List Rule → Outcome (List Note)
  | [] => .ok []
  | (note, rule) :: rules => do
    let holds ← rule
    let notes ← triggered rules
    return if holds then note :: notes else notes

/-- Whether two things hold; the second is not looked at if the first does not. -/
def both (first second : Outcome Bool) : Outcome Bool := do
  if ← first then second else return false

/-- Whether a statement is a selection. -/
def isSelection (q : Value) : Outcome Bool := do
  match ← q.field "kind" with
  | .word (.verb .select) => return true
  | _ => return false

/-- Whether a statement changes or deletes rows. -/
def changesRows (q : Value) : Outcome Bool := do
  let verb := (← q.field "kind").text?
  return verb == some Verb.update.text || verb == some Verb.delete.text

/-- Whether a statement has no conditions on rows. -/
def hasNoConditions (q : Value) : Outcome Bool := do
  return (← q.field "where_count").same (.int 0)

/-- The rules for a statement. -/
def statementRules (q t : Value) : List Rule :=
  [(.selectAll, both (isSelection q) do (← q.field "projection").holds (.text "*")),
    (.highCost, do
      let cost ← q.field "estimated_cost"
      (← t.field "max_cost").less cost),
    (.unbounded, both (isSelection q) (both (do return (← q.field "limit").isNull)
      (hasNoConditions q))),
    (.allRows, both (changesRows q) (hasNoConditions q))]

/-- The size of a search, zero if none is set. -/
def pageSize (q : Value) : Outcome Value := do
  let size ← q.field "size"
  return if size.isTruthy then size else .int 0

/-- Whether a value is the predicate that matches everything. -/
def isMatchAll : Value → Bool
  | .part .matchAll _ => true
  | _ => false

/-- The rules for a search. -/
def searchRules (q t : Value) : List Rule :=
  let isLarger := fun (limit : String) => do
    let size ← pageSize q
    (← t.field limit).less size
  [(.pagination, isLarger "large_result_size"),
    (.sorting, both (do return !(← q.field "sort").isTruthy) (isLarger "sort_required_size")),
    (.filters, both (do return isMatchAll (← q.field "predicate"))
      (do return !(← q.field "filters").isTruthy))]

/-- The report that rules lead to. -/
def follow (rules : List Rule) : Outcome Report := Report.ofNotes <$> triggered rules

/-- The report on a statement. -/
def statement (q t : Value) : Outcome Report := follow (statementRules q t)

/-- The report on a search. -/
def search (q t : Value) : Outcome Report := follow (searchRules q t)

/-- The report on whatever was handed in, which has to be a query. -/
def report (q t : Value) : Outcome Report :=
  match q with
  | .part .statement _ => statement q t
  | .part .request _ => search q t
  | _ => .error (.kind (.query q.typeName))

end Analysis

end QueryDraft
