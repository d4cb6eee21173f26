import QueryDraft.Analysis
import QueryDraft.Proofs.PlainData
import QueryDraft.Report.Console
import QueryDraft.Report.Data

/-!
# The parameters in both reports

The data on a statement holds the parameters as literals, with lists for tuples at any depth of
tuples; the text writes each as it is. JSON writes a tuple as it writes a list, so it does not see
the difference (`Value.toJson_literal`), and the text between the brackets is the JSON of the list.
-/

namespace QueryDraft

mutual

theorem Value.toJson_literal : ∀ v : Value, v.literal.toJson = v.toJson
  | .tuple vs => by rw [Value.literal, Value.toJson, Value.toJson, itemsToJson_literals vs]
  | .null | .bool _ | .int _ | .float _ | .text _ | .word _ | .bytes _ | .date _ | .list _ | .set _
  | .map _ | .part _ _ => rfl

theorem itemsToJson_literals : ∀ vs : List Value, itemsToJson (literals vs) = itemsToJson vs
  | [] => rfl
  | v :: vs => by
    rw [literals, itemsToJson, itemsToJson, Value.toJson_literal v, itemsToJson_literals vs]

end

/-- Writing values one by one and writing their trees as items of an array is the same. -/
theorem mapM_jsonText (vs : List Value) :
    vs.mapM Value.jsonText = Json.compactItems <$> itemsToJson vs := by
  induction vs with
  | nil => rfl
  | cons v vs ih =>
    rw [List.mapM_cons, ih, Value.jsonText, itemsToJson]
    cases v.toJson with
    | error e => rfl
    | ok j => cases itemsToJson vs <;> rfl

theorem jsonText_list (vs : List Value) : (Value.list vs).jsonText =
    (fun items => "[" ++ ", ".intercalate items ++ "]") <$> vs.mapM Value.jsonText := by
  rw [mapM_jsonText, Value.jsonText, Value.toJson]
  cases itemsToJson vs <;> rfl

theorem jsonText_list_literals (vs : List Value) :
    (Value.list (literals vs)).jsonText = (Value.list vs).jsonText := by
  rw [Value.jsonText, Value.jsonText, Value.toJson, Value.toJson, itemsToJson_literals]

namespace Report

/-- The parameters in the data on a query, as JSON on one line. -/
def dataParameters (name q report : Value) : Outcome String := do
  let item ← data name q report
  (← item.fetch (.text "parameters")).jsonText

theorem dataParameters_statement (name : Value) (s : Sql.Statement) (r : Analysis.Report) :
    dataParameters name s.toValue r.toValue = (Value.list (literals s.parameters)).jsonText := rfl

/-- The block of lines on a statement around its parameters. -/
def linesAround (name : Value) (s : Sql.Statement) (r : Analysis.Report) (parameters : String) :
    List String :=
  ["[" ++ name.plain ++ "] " ++ s.verb.text ++ " on " ++ s.table,
    "   SQL: " ++ s.text,
    "   Parameters: " ++ parameters,
    "   Estimated cost: " ++ s.cost.text,
    "   Rating: " ++ r.rating.text] ++ r.notes.map fun note => "   - " ++ note.text

theorem ratingLines_toValue (r : Analysis.Report) : ratingLines r.toValue =
    .ok (("   Rating: " ++ r.rating.text) :: r.notes.map fun note => "   - " ++ note.text) := by
  have hnotes : (((r.notes.map Analysis.Note.text).map Value.text).map fun note =>
      "   - " ++ note.plain) = r.notes.map fun note => "   - " ++ note.text := by
    rw [List.map_map, List.map_map]
    rfl
  rw [← hnotes]
  rfl

theorem textBlock_statement (name : Value) (s : Sql.Statement) (r : Analysis.Report) :
    textBlock name s.toValue r.toValue =
      (fun parameters => "\n".intercalate (linesAround name s r parameters) ++ "\n") <$>
        (Value.list s.parameters).jsonText := by
  have hbody : bodyLines name s.toValue = (do
      let items ← s.parameters.mapM Value.jsonText
      return ["[" ++ name.plain ++ "] " ++ s.verb.text ++ " on " ++ s.table,
        "   SQL: " ++ s.text,
        "   Parameters: [" ++ ", ".intercalate items ++ "]",
        "   Estimated cost: " ++ s.cost.text]) := rfl
  rw [textBlock, hbody, ratingLines_toValue, jsonText_list]
  cases s.parameters.mapM Value.jsonText with
  | error e => rfl
  | ok items =>
    have hopening : "   Parameters: [" = "   Parameters: " ++ "[" := by decide
    simp only [ok_bind, map_ok, linesAround, hopening, String.append_assoc]
    rfl

/-- The text on a statement shows the parameters as the JSON of what the data has for them, and
neither can be written if the other cannot; what is written of a value is what is written of its
literal. -/
theorem parameters_in_text_and_data :
    (∀ (name : Value) (s : Sql.Statement) (r : Analysis.Report),
      textBlock name s.toValue r.toValue =
        (fun parameters => "\n".intercalate (linesAround name s r parameters) ++ "\n") <$>
          dataParameters name s.toValue r.toValue) ∧
    ∀ v : Value, v.literal.jsonText = v.jsonText ∧ v.literal.jsonBlock = v.jsonBlock := by
  constructor
  · intro name s r
    rw [textBlock_statement, dataParameters_statement, jsonText_list_literals]
  · intro v
    rw [Value.jsonText, Value.jsonBlock, v.toJson_literal]
    exact ⟨rfl, rfl⟩

end Report
end QueryDraft
