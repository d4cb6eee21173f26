import QueryDraft.Json.Printer
import QueryDraft.Search.Document

/-!
# Query reports as data

A mapping for one query: its name and kind, the statement with its parameters and cost or the index
and the document of the search, and the rating with its notes.
-/

namespace QueryDraft

namespace Report

/-- A rating and its notes as a mapping. -/
def ratingData (report : Value) : Outcome Value := do
  let rating ← (← report.field "rating").field "value"
  let notes ← (← report.field "notes").items
  return Document.ofFields [("rating", rating), ("notes", .list notes)]

/-- The mapping on a statement. -/
def statementData (name q analysis : Value) : Outcome Value := do
  let verb ← (← q.field "kind").field "value"
  let text ← q.field "text"
  let parameters ← (← q.field "parameters").items
  let cost ← q.field "estimated_cost"
  return Document.ofFields [
    ("name", name),
    ("type", .text "relational"),
    ("kind", verb),
    ("sql", text),
    ("parameters", .list (literals parameters)),
    ("estimated_cost", cost),
    ("analysis", analysis)]

/-- The mapping on a search. -/
def searchData (name q analysis : Value) : Outcome Value := do
  let index ← q.field "index"
  let document ← q.requestDocument
  return Document.ofFields [
    ("name", name),
    ("type", .text "search"),
    ("index", index),
    ("document", document),
    ("analysis", analysis)]

/-- The mapping on a query. -/
def data (name q report : Value) : Outcome Value := do
  let analysis ← ratingData report
  match q with
  | .part .statement _ => statementData name q analysis
  | _ => searchData name q analysis

/-- The mapping on a query as JSON text. -/
def jsonBlock (name q report : Value) : Outcome String := do
  (← data name q report).jsonBlock

end Report

end QueryDraft
