import QueryDraft.Proofs.StatementInv
import QueryDraft.Sql.Statement

/-!
# Statements with their values written out

A draft can be written with its values in their places instead of placeholders, given how a value
is shown (`Draft.inline`). On a draft that satisfies the invariant the two halves of a built
statement never fail: its texts are the inline ones with `?` shown for every value (`texts_eq`),
and its values are the operands of its assignments and conditions in order (`values_eq`). So a
draft that passes the checks of `Draft.build` builds to `Draft.statement` (`build_eq`).
-/

namespace QueryDraft.Sql

/-! ## Inline texts and operands -/

namespace Condition

/-- The values that a condition compares its field with. -/
def operands (c : Condition) : List Value :=
  match c.operator, c.value with
  | .isNull, _ | .isNotNull, _ => []
  | .isIn, .tuple vs | .notIn, .tuple vs | .between, .tuple vs => vs
  | _, v => [v]

/-- A condition with its values written out. -/
def inline (shown : Value → String) (c : Condition) : String :=
  match c.operator, c.value with
  | .isNull, _ => c.field ++ " IS NULL"
  | .isNotNull, _ => c.field ++ " IS NOT NULL"
  | .isIn, .tuple vs => c.field ++ " IN (" ++ ", ".intercalate (vs.map shown) ++ ")"
  | .notIn, .tuple vs => c.field ++ " NOT IN (" ++ ", ".intercalate (vs.map shown) ++ ")"
  | .between, .tuple [low, high] => c.field ++ " BETWEEN " ++ shown low ++ " AND " ++ shown high
  | o, v => c.field ++ " " ++ o.text ++ " " ++ shown v

end Condition

/-- Conditions with their values written out: all but the first stand after their connector. -/
def inlineConditions (shown : Value → String) : List Condition → List String
  | [] => []
  | c :: cs => c.inline shown :: cs.map fun c => c.connector.text ++ " " ++ c.inline shown

namespace Draft

/-- The verb of a draft with its tables, columns and values. -/
def inlineHead (shown : Value → String) (d : Draft) : List String :=
  match d.verb with
  | .select =>
    ["SELECT " ++ ", ".intercalate d.projection, "FROM " ++ d.table]
      ++ d.joins.map fun j => j.kind.text ++ " JOIN " ++ j.table ++ " ON " ++ j.condition
  | .insert =>
    ["INSERT INTO " ++ d.table ++ " (" ++ ", ".intercalate (d.assignments.map fun a => a.1)
      ++ ") VALUES (" ++ ", ".intercalate (d.assignments.map fun a => shown a.2) ++ ")"]
  | .update =>
    ["UPDATE " ++ d.table,
      "SET " ++ ", ".intercalate (d.assignments.map fun a => a.1 ++ " = " ++ shown a.2)]
  | .delete => ["DELETE FROM " ++ d.table]

/-- The clauses of a draft with their values written out. -/
def inlineTexts (shown : Value → String) (d : Draft) : List String :=
  d.inlineHead shown
    ++ (if d.conditions = [] then []
      else ["WHERE " ++ " ".intercalate (inlineConditions shown d.conditions)])
    ++ (if d.groupBy = [] then [] else ["GROUP BY " ++ ", ".intercalate d.groupBy])
    ++ (if d.having = [] then []
      else ["HAVING " ++ " ".intercalate (inlineConditions shown d.having)])
    ++ (if d.orderBy = [] then []
      else ["ORDER BY " ++ ", ".intercalate
        (d.orderBy.map fun o => o.field ++ " " ++ o.direction.text)])
    ++ d.limit.toList.map (fun n => "LIMIT " ++ toString n)
    ++ d.offset.toList.map fun n => "OFFSET " ++ toString n

/-- The statement that a draft stands for, with its values written out. -/
def inline (shown : Value → String) (d : Draft) : String := " ".intercalate (d.inlineTexts shown)

/-- The values that a draft assigns and compares with, in the order in which they are written. -/
def operands (d : Draft) : List Value :=
  d.headValues ++ d.conditions.flatMap Condition.operands ++ d.having.flatMap Condition.operands

end Draft

/-! ## Both halves of a statement -/

theorem Condition.text_eq {c : Condition} (h : c.WellFormed) :
    c.text = .ok (c.inline fun _ => "?") := by
  obtain ⟨field, o, v, k⟩ := c
  have hv := h.value
  cases o
  case isIn | notIn =>
    obtain ⟨vs, rfl, -⟩ := hv
    simp [Condition.text, Condition.inline, Value.items, Value.items?, Operator.text,
      ← String.toList_inj]
  case between =>
    obtain ⟨low, high, rfl⟩ := hv
    simp [Condition.text, Condition.inline, ← String.toList_inj]
  all_goals simp [Condition.text, Condition.inline, Operator.text, ← String.toList_inj]

theorem Condition.joinedText_eq {c : Condition} (h : c.WellFormed) :
    c.joinedText = .ok (c.connector.text ++ " " ++ c.inline fun _ => "?") := by
  simp [Condition.joinedText, Condition.text_eq h]

theorem Condition.parameters_eq {c : Condition} (h : c.WellFormed) :
    c.parameters = .ok c.operands := by
  obtain ⟨field, o, v, k⟩ := c
  have hv := h.value
  cases o
  case isIn | notIn =>
    obtain ⟨vs, rfl, -⟩ := hv
    rfl
  case between =>
    obtain ⟨low, high, rfl⟩ := hv
    rfl
  all_goals rfl

theorem conditionTexts_eq {cs : List Condition} (h : ∀ c ∈ cs, c.WellFormed) :
    conditionTexts cs = .ok (inlineConditions (fun _ => "?") cs) := by
  cases cs with
  | nil => rfl
  | cons c cs =>
    obtain ⟨hc, hcs⟩ := List.forall_mem_cons.1 h
    simp [conditionTexts, inlineConditions, Condition.text_eq hc,
      mapM_ok fun c hc => Condition.joinedText_eq (hcs c hc)]

theorem conditionValues_eq {cs : List Condition} (h : ∀ c ∈ cs, c.WellFormed) :
    conditionValues cs = .ok (cs.flatMap Condition.operands) := by
  simp [conditionValues, mapM_ok fun c hc => Condition.parameters_eq (h c hc), List.flatMap]

theorem inlineConditions_eq_nil {shown : Value → String} {cs : List Condition} :
    inlineConditions shown cs = [] ↔ cs = [] := by
  cases cs <;> simp [inlineConditions]

namespace Draft

theorem headTexts_eq (d : Draft) : d.headTexts = d.inlineHead fun _ => "?" := by
  have hset : (fun a : String × Value => a.1 ++ " = ?") = fun a => a.1 ++ " = " ++ "?" := by
    funext a
    rw [String.append_assoc]
    rfl
  cases h : d.verb <;> simp [headTexts, inlineHead, h, Join.text, hset]

theorem texts_eq {d : Draft} (h : d.WellFormed) :
    d.texts = .ok (d.inlineTexts fun _ => "?") := by
  have horder : OrderEntry.text = fun o => o.field ++ " " ++ o.direction.text := rfl
  simp [texts, inlineTexts, conditionTexts_eq h.conditions,
    conditionTexts_eq fun c hc => (h.having c hc).1, headTexts_eq, clauseOf,
    inlineConditions_eq_nil, horder]

theorem values_eq {d : Draft} (h : d.WellFormed) : d.values = .ok d.operands := by
  simp [values, operands, conditionValues_eq h.conditions,
    conditionValues_eq fun c hc => (h.having c hc).1]

/-- The statement that a draft stands for. -/
def statement (d : Draft) : Statement where
  text := d.inline fun _ => "?"
  parameters := d.operands
  verb := d.verb
  cost := d.cost
  table := d.table
  projection := d.projection
  whereCount := d.conditions.length
  limit := d.limit

/-- Once the checks are passed nothing fails. -/
theorem build_eq {d : Draft} (h : d.WellFormed) :
    d.build =
      if d.table = "" then refuse .missingTable
      else if d.verb = .select ∧ d.projection = [] then refuse .missingProjection
      else if d.unsupported ≠ [] then
        refuse (.unsupportedClauses d.verb (d.unsupported.map Clause.text))
      else .ok d.statement := by
  simp [build, texts_eq h, values_eq h, statement, inline]

theorem eq_statement_of_build {d : Draft} (h : d.WellFormed) {s : Statement}
    (hs : d.build = .ok s) : s = d.statement := by
  rw [build_eq h] at hs
  split_ifs at hs <;> simp at hs
  exact hs.symm

end Draft

end QueryDraft.Sql
