import QueryDraft.Json.Printer
import QueryDraft.Search.Document
import QueryDraft.Text.Lines

/-!
# Query reports as text

A block of lines for one query: a header with its name, the statement with its parameters and cost
or the document of the search, the rating, and a line for each note. All lines but the header are
indented by three spaces.
-/

namespace QueryDraft

namespace Report

/-- What a header says where a search has no index. -/
def indexLabel (index : Value) : String := if index.isTruthy then index.plain else "-"

/-- The lines on a statement before its rating. -/
def statementLines (name q : Value) : Outcome (List String) := do
  let verb ← (← q.field "kind").field "value"
  let table ← q.field "table"
  let text ← q.field "text"
  let parameters ← (← (← q.field "parameters").items).mapM Value.jsonText
  let cost ← q.field "estimated_cost"
  return ["[" ++ name.plain ++ "] " ++ verb.plain ++ " on " ++ table.plain,
    "   SQL: " ++ text.plain,
    "   Parameters: [" ++ ", ".intercalate parameters ++ "]",
    "   Estimated cost: " ++ cost.plain]

/-- The lines on a search before its rating. -/
def searchLines (name q : Value) : Outcome (List String) := do
  let index ← q.field "index"
  let document ← q.requestDocument
  let block ← document.jsonBlock
  return ("[" ++ name.plain ++ "] search on " ++ indexLabel index) ::
    (Text.lines block).map ("   " ++ ·)

/-- The lines on a query before its rating. -/
def bodyLines (name q : Value) : Outcome (List String) :=
  match q with
  | .part .statement _ => statementLines name q
  | _ => searchLines name q

/-- The lines on a rating. -/
def ratingLines (report : Value) : Outcome (List String) := do
  let rating ← (← report.field "rating").field "value"
  let notes ← (← report.field "notes").items
  return ("   Rating: " ++ rating.plain) :: notes.map fun note => "   - " ++ note.plain

/-- The block of lines on a query, each line ended. -/
def textBlock (name q report : Value) : Outcome String := do
  let body ← bodyLines name q
  let rating ← ratingLines report
  return "\n".intercalate (body ++ rating) ++ "\n"

end Report

end QueryDraft
