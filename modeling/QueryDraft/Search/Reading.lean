import QueryDraft.Search.Document

/-!
# Reading parts of a search from documents

A document names the kind of a predicate or aggregation by its one key. A clause of a `bool`
predicate may hold one predicate instead of a list, and the fields of a `multi_match` may be one
name.

The clauses of a `bool` body are all read where they stand (`readClauses`) and then looked up in
their fixed order, which is also the order in which their faults are reported.
-/

namespace QueryDraft

/-- The one entry of a mapping whose key is a text. -/
def singleEntry (what : String) : Value → Outcome (Value × Value)
  | .map [(k, body)] => if k.text?.isSome then .ok (k, body) else refuse (.keyNotText what)
  | _ => refuse (.notSingleEntry what)

/-- The members of a list, one value standing for a list of itself and an absent one for none. -/
def listOf : Value → List Value
  | .null => []
  | .list vs => vs
  | .tuple vs => vs
  | v => [v]

namespace Predicate

/-- The names of the clauses of a `bool` predicate. -/
def clauseNames : List String := ["must", "must_not", "should", "filter"]

/-- A predicate about one field. -/
def ofField (kind : Value) (body : Value) : Outcome Predicate := do
  let (field, arg) ← singleEntry kind.plain body
  match kind.text?.getD "" with
  | "match" => return .matching field arg
  | "match_phrase" => return .phrase field arg
  | "term" => return .term field arg
  | "terms" => match arg.sequence? with
    | some vs => return .terms field vs
    | none => refuse .termsValues
  | "range" => return .range field (← Bounds.coerce arg).toValue
  | _ => refuse (.predicateKind kind.plain)

/-- A match in several fields. -/
def ofMultiMatch : Value → Outcome Predicate
  | .map es => match Entries.get? es "query" with
    | some value => makeMultiMatch value (.tuple (listOf (Entries.getD es "fields")))
    | none => refuse .multiMatchQuery
  | _ => refuse .multiMatchQuery

/-- What was read for a clause, nothing if the clause is absent. -/
def clauseOf (read : List (Value × Outcome (List Value))) (name : String) :
    Outcome (List Value) :=
  match read.find? fun e => e.1.text? == some name with
  | some e => e.2
  | none => .ok []

mutual

/-- The predicate with a key and a body. -/
def ofEntry (kind body : Value) : Outcome Predicate :=
  match kind.text? with
  | none => refuse (.keyNotText "predicate")
  | some "match_all" => .ok .matchAll
  | some "bool" => match body with
    | .map es => do
      rejectUnknown es clauseNames .unknownBoolClauses
      let read := readClauses es
      let must ← clauseOf read "must"
      let mustNot ← clauseOf read "must_not"
      let should ← clauseOf read "should"
      let filter ← clauseOf read "filter"
      return .bool (.tuple must) (.tuple mustNot) (.tuple should) (.tuple filter)
    | _ => refuse .boolBody
  | some "multi_match" => ofMultiMatch body
  | some _ => ofField kind body

/-- The clauses of a body, each read on its own. -/
def readClauses : List (Value × Value) → List (Value × Outcome (List Value))
  | [] => []
  | (k, v) :: es => (k, readClause v) :: readClauses es

/-- The predicates of a clause. -/
def readClause : Value → Outcome (List Value)
  | .null => .ok []
  | .list vs => readAll vs
  | .tuple vs => readAll vs
  | .map [(k, body)] => do return [(← ofEntry k body).toValue]
  | _ => refuse (.notSingleEntry "predicate")

/-- The predicate in a list of predicates. -/
def readOne : Value → Outcome Value
  | .map [(k, body)] => do return (← ofEntry k body).toValue
  | _ => refuse (.notSingleEntry "predicate")

/-- The predicates of a list. -/
def readAll : List Value → Outcome (List Value)
  | [] => .ok []
  | v :: vs => do
    let first ← readOne v
    let rest ← readAll vs
    return first :: rest

end

/-- The predicate that a document describes. -/
def ofDocument : Value → Outcome Predicate
  | .map [(k, body)] => ofEntry k body
  | _ => refuse (.notSingleEntry "predicate")

end Predicate

namespace Aggregation

/-- The aggregation that a document describes. -/
def ofDocument (v : Value) : Outcome Aggregation := do
  let (kind, body) ← singleEntry "aggregation" v
  let es := body.entries?.getD []
  let field := Entries.getD es "field"
  if !field.isTruthy then refuse (.aggregationField kind.plain)
  match kind.text?.getD "" with
  | "avg" => return .avg field
  | "sum" => return .sum field
  | "terms" => makeTerms field ((Entries.get? es "size").getD (.int 10))
  | "date_histogram" =>
    let interval := (Entries.get? es "calendar_interval").getD (Entries.getD es "interval")
    if interval.isTruthy then return .dateHistogram field interval else refuse .histogramBody
  | _ => refuse (.aggregationKind kind.plain)

end Aggregation

end QueryDraft
