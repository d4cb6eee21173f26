import QueryDraft.Config.Relational
import QueryDraft.Config.Search
import QueryDraft.Query

/-!
# Query definitions

A definition has a name, a kind and the parts that its kind takes. The parts are read into edits,
which make up a draft; the refusal of a part is reported under the key of the definition.
-/

namespace QueryDraft.Config

/-- A named query that is not built yet. -/
structure Definition where
  name : String
  draft : Draft

namespace Definition

/-- The value that a definition is. -/
def toValue (d : Definition) : Value :=
  .part .definition [.text d.name, .text d.draft.kind, d.draft.toValue]

/-- What is read, a refusal being reported under the key of the definition. -/
def under {α : Type} (key : String) : Outcome α → Outcome α
  | .error (.refused r) => .error (.refused (.inDefinition key r))
  | o => o

/-- The draft of a definition of the kind given. -/
def readDraft (key kind : String) (es : Entries) : Outcome Draft :=
  match kind with
  | "relational" => under key do
    rejectKeys es Relational.keys key
    return .statement ((← Relational.edits key es).foldl Sql.Draft.edit {})
  | "search" => under key do
    rejectKeys es Search.keys key
    return .search ((← Search.edits key es).foldl QueryDraft.Search.Draft.edit {})
  | _ => .error (.setting (.definitionType key))

/-- The definition that a value describes. -/
def read (key : String) (v : Value) : Outcome Definition := do
  let es ← expectMapping key v
  let name := Text.trim (← requireTextAt es key "name")
  if name = "" then .error (.setting (.emptyName key))
  else do
    let kind := Text.lower (Text.trim (← requireTextAt es key "type"))
    return ⟨name, ← readDraft key kind es⟩

end Definition

end QueryDraft.Config
