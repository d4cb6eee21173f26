import QueryDraft.Analysis
import QueryDraft.Proofs.PlainData
import QueryDraft.Report.Console
import QueryDraft.Report.Data

/-!
# Reports on built queries

Every rule of the analysis finds in a built query what it looks at, so there is always a report
(`exists_report`). Text and data show of a query the values that it writes (`Query.written`) and
beyond them only texts and numbers. So they have a JSON form exactly when those values have one
(`exists_textBlock`, `exists_data`).
-/

namespace QueryDraft

open Analysis (Note)
open Document (ofFields)
open Value (data_ofFields_iff)

/-- The values that the reports on a query show: those of a statement, the document of a search. -/
def Query.written : Query → Outcome (List Value)
  | .statement s => .ok s.parameters
  | .search r => (fun document => [document]) <$> r.document

namespace Analysis

/-! ## Rules -/

theorem exists_triggered : ∀ {rules : List Rule}, (∀ rule ∈ rules, ∃ b, rule.2 = .ok b) →
    ∃ notes, triggered rules = .ok notes
  | [], _ => ⟨[], rfl⟩
  | (note, rule) :: rules, h => by
    obtain ⟨⟨b, hb⟩, hrules⟩ := List.forall_mem_cons.1 h
    obtain ⟨notes, hnotes⟩ := exists_triggered hrules
    obtain rfl : rule = .ok b := hb
    exact ⟨_, by rw [triggered, ok_bind, hnotes]; rfl⟩

theorem exists_follow {rules : List Rule} (h : ∀ rule ∈ rules, ∃ b, rule.2 = .ok b) :
    ∃ r, follow rules = .ok r :=
  exists_map_eq_ok.2 (exists_triggered h)

theorem exists_both {first second : Outcome Bool} (h : ∃ b, first = .ok b)
    (h' : ∃ b, second = .ok b) : ∃ b, both first second = .ok b := by
  obtain ⟨b, rfl⟩ := h
  cases b
  · exact ⟨false, rfl⟩
  · exact h'

theorem exists_isSelection (s : Sql.Statement) : ∃ b, isSelection s.toValue = .ok b := by
  obtain ⟨text, parameters, verb, cost, table, projection, whereCount, limit⟩ := s
  cases verb <;> exact ⟨_, rfl⟩

theorem exists_pageSize (r : Search.Request) : ∃ n, pageSize r.toValue = .ok (.int n) := by
  have hfield : r.toValue.field "size" = .ok (.ofOption .int r.size) := rfl
  rw [pageSize, hfield, ok_bind]
  cases r.size with
  | none => exact ⟨0, rfl⟩
  | some n =>
    by_cases hn : (Value.int n).isTruthy
    · exact ⟨n, by simp [Value.ofOption, hn]⟩
    · exact ⟨0, by simp [Value.ofOption, hn]⟩

/-- There is a report on every built query. -/
theorem exists_report (q : Query) (t : Thresholds) :
    ∃ r, report q.toValue t.toValue = .ok r := by
  cases q with
  | statement s =>
    show ∃ r, follow (statementRules s.toValue t.toValue) = .ok r
    refine exists_follow ?_
    simp only [statementRules, List.forall_mem_cons, List.not_mem_nil, false_imp_iff, implies_true,
      and_true]
    have hconditions : ∃ b, hasNoConditions s.toValue = .ok b := ⟨_, rfl⟩
    exact ⟨exists_both (exists_isSelection s) ⟨_, rfl⟩, ⟨_, rfl⟩,
      exists_both (exists_isSelection s) (exists_both ⟨_, rfl⟩ hconditions),
      exists_both ⟨_, rfl⟩ hconditions⟩
  | search r =>
    show ∃ r', follow (searchRules r.toValue t.toValue) = .ok r'
    refine exists_follow ?_
    simp only [searchRules, List.forall_mem_cons, List.not_mem_nil, false_imp_iff, implies_true,
      and_true]
    -- limits and sizes are whole numbers, which can be compared
    obtain ⟨n, hn⟩ := exists_pageSize r
    simp only [hn, ok_bind]
    exact ⟨⟨_, rfl⟩, exists_both ⟨_, rfl⟩ ⟨_, rfl⟩, exists_both ⟨_, rfl⟩ ⟨_, rfl⟩⟩

end Analysis

namespace Report

variable {name : String} {q : Query} {written : List Value}

/-! ## Text -/

theorem exists_statementLines {s : Sql.Statement} :
    (∃ lines, statementLines (.text name) s.toValue = .ok lines)
      ↔ ∀ v ∈ s.parameters, ∃ j, v.toJson = .ok j := by
  have hkind : s.toValue.field "kind" = .ok (.word (.verb s.verb)) := rfl
  have hverb : (Value.word (.verb s.verb)).field "value" = .ok (.text s.verb.text) := rfl
  have htable : s.toValue.field "table" = .ok (.text s.table) := rfl
  have htext : s.toValue.field "text" = .ok (.text s.text) := rfl
  have hparameters : s.toValue.field "parameters" = .ok (.tuple s.parameters) := rfl
  have hitems : (Value.tuple s.parameters).items = .ok s.parameters := rfl
  have hcost : s.toValue.field "estimated_cost" = .ok (.float s.cost) := rfl
  simp only [statementLines, hkind, hverb, htable, htext, hparameters, hitems, hcost, ok_bind,
    exists_bind_eq_ok, pure_eq_ok, exists_eq', and_true, exists_mapM_eq_ok, Value.exists_jsonText]

theorem exists_searchLines {r : Search.Request} {document : Value}
    (h : r.document = .ok document) :
    (∃ lines, searchLines (.text name) r.toValue = .ok lines)
      ↔ ∃ j, document.toJson = .ok j := by
  have hindex : r.toValue.field "index" = .ok (.ofOption .text r.index) := rfl
  have hdocument : r.toValue.requestDocument = .ok document := h
  simp only [searchLines, hindex, hdocument, ok_bind, exists_bind_eq_ok, pure_eq_ok, exists_eq',
    and_true, Value.exists_jsonBlock]

/-- The text on a query can be written exactly when the values that it shows can. -/
theorem exists_textBlock (h : q.written = .ok written) (r : Analysis.Report) :
    (∃ text, textBlock (.text name) q.toValue r.toValue = .ok text)
      ↔ ∀ v ∈ written, ∃ j, v.toJson = .ok j := by
  obtain ⟨lines, hlines⟩ : ∃ lines, ratingLines r.toValue = .ok lines := ⟨_, rfl⟩
  simp only [textBlock, exists_bind_eq_ok, hlines, ok_bind, pure_eq_ok, exists_eq', and_true]
  cases q with
  | statement s =>
    obtain rfl := Except.ok.inj h
    exact exists_statementLines
  | search request =>
    obtain ⟨document, hdocument, rfl⟩ := map_eq_ok.1 h
    rw [List.forall_mem_singleton]
    exact exists_searchLines hdocument

/-! ## Data -/

/-- The rating and the notes are texts. -/
theorem exists_ratingData (r : Analysis.Report) : ∃ analysis, ratingData r.toValue = .ok analysis
    ∧ ∀ P : Value → Bool, (∀ s, P (.text s)) → analysis.Data P :=
  ⟨_, rfl, fun _ hP => (data_ofFields_iff hP).2 (List.forall_mem_cons.2
    ⟨.scalar rfl, List.forall_mem_singleton.2 (Value.data_textList (r.notes.map Note.text))⟩)⟩

/-- The data on a query is plain data exactly when the values that it shows are. -/
theorem exists_data (name : String) (h : q.written = .ok written) (r : Analysis.Report) :
    ∃ item, data (.text name) q.toValue r.toValue = .ok item
      ∧ ∀ P : Value → Bool, (∀ s, P (.text s)) → (item.Data P ↔ ∀ v ∈ written, v.Data P) := by
  obtain ⟨analysis, hanalysis, hdata⟩ := exists_ratingData r
  rw [data, hanalysis, ok_bind]
  cases q with
  | statement s =>
    obtain rfl := Except.ok.inj h
    refine ⟨_, rfl, fun P hP => ?_⟩
    have htext : ∀ t, (Value.text t).Data P := fun t => .scalar rfl
    have hcost : (Value.float s.cost).Data P := .scalar rfl
    simp [data_ofFields_iff hP, htext, hcost, hdata P hP, Value.data_literals_iff]
  | search request =>
    obtain ⟨document, hdocument, rfl⟩ := map_eq_ok.1 h
    have hsearch : (Query.search request).toValue.requestDocument = .ok document := hdocument
    refine ⟨_, by rw [searchData, hsearch]; rfl, fun P hP => ?_⟩
    have htext : ∀ t, (Value.text t).Data P := fun t => .scalar rfl
    have hindex : (Value.ofOption .text request.index).Data P := by
      cases request.index <;> exact .scalar rfl
    simp [data_ofFields_iff hP, htext, hindex, hdata P hP]

end Report

end QueryDraft
