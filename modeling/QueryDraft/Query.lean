import QueryDraft.Search.Request
import QueryDraft.Sql.Statement

/-!
# Queries of either sort

What statements and searches have in common: a draft that builds to a query, and a note for the log
on what was built.
-/

namespace QueryDraft

/-- A built query of either sort. -/
inductive Query where
  | statement (s : Sql.Statement)
  | search (r : Search.Request)

/-- The value that a query is. -/
def Query.toValue : Query → Value
  | .statement s => s.toValue
  | .search r => r.toValue

/-- A query of either sort that is not built yet. -/
inductive Draft where
  | statement (d : Sql.Draft)
  | search (d : Search.Draft)

namespace Draft

/-- The kind of a draft, as definitions spell it. -/
def kind : Draft → String
  | .statement _ => "relational"
  | .search _ => "search"

/-- The value that a draft is. -/
def toValue : Draft → Value
  | .statement d => d.toValue
  | .search d => d.toValue

/-- Builds the query of a draft, with the note that this leaves in the log. -/
def build : Draft → Outcome (Query × String)
  | .statement d => do
    let s ← d.build
    return (.statement s, d.buildNote s)
  | .search d => .ok (.search d.build, d.buildNote)

end Draft

end QueryDraft
