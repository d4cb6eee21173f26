import Mathlib.Algebra.GroupWithZero.Nat
import QueryDraft.Proofs.StatementInline

/-!
# Placeholders and values line up

A template is a text with placeholders together with the values for them and the texts that callers
wrote into it (`Template`): the placeholders number the values and whatever question marks the
callers wrote, and if they wrote none, filling the placeholders in order gives the text with its
values written out. Templates can be put after each other and joined by separators, so every clause
is one, and with it the statement of every draft (`Draft.template`, `build_placeholders`).
-/

namespace QueryDraft.Sql

/-! ## Filling placeholders -/

/-- How many placeholders stand in a text. -/
def placeholders (s : String) : Nat := s.toList.count '?'

/-- Characters with their placeholders filled, the first with the first value and so on. A
placeholder without a value stays. -/
def fillChars (shown : Value → String) : List Char → List Value → List Char
  | [], _ => []
  | '?' :: cs, v :: vs => (shown v).toList ++ fillChars shown cs vs
  | c :: cs, vs => c :: fillChars shown cs vs

/-- A text with its placeholders filled. -/
def fill (shown : Value → String) (text : String) (vs : List Value) : String :=
  String.ofList (fillChars shown text.toList vs)

theorem fillChars_cons_of_ne {shown : Value → String} {c : Char} (h : c ≠ '?') (cs : List Char)
    (vs : List Value) : fillChars shown (c :: cs) vs = c :: fillChars shown cs vs := by
  rw [fillChars]
  exact fun _ _ _ hc => h hc

theorem fillChars_append {shown : Value → String} :
    ∀ (cs rest : List Char) (vs : List Value), '?' ∉ cs →
      fillChars shown (cs ++ rest) vs = cs ++ fillChars shown rest vs
  | [], _, _, _ => rfl
  | c :: cs, rest, vs, h => by
    simp only [List.mem_cons, not_or] at h
    obtain ⟨hc, hcs⟩ := h
    rw [List.cons_append, fillChars_cons_of_ne (Ne.symm hc), fillChars_append cs rest vs hcs,
      List.cons_append]

/-! ## Templates -/

/-- A text that depends on how values are shown, with the values that it shows and the texts that
callers wrote into it. -/
structure Template (inline : (Value → String) → String) (values : List Value)
    (raw : List String) : Prop where
  count : placeholders (inline fun _ => "?") = values.length + (raw.map placeholders).sum
  fill : (∀ s ∈ raw, '?' ∉ s.toList) → ∀ (shown : Value → String) (rest : List Char)
    (others : List Value),
    fillChars shown ((inline fun _ => "?").toList ++ rest) (values ++ others)
      = (inline shown).toList ++ fillChars shown rest others

namespace Template

variable {f g : (Value → String) → String} {vs ws : List Value} {r q : List String}

theorem of_eq (h : Template f vs r) (hv : vs = ws) (hr : r = q) : Template f ws q :=
  hv ▸ hr ▸ h

theorem const {s : String} (h : '?' ∉ s.toList) : Template (fun _ => s) [] [] where
  count := by simpa [placeholders, List.count_eq_zero] using h
  fill := fun _ _ _ _ => fillChars_append _ _ _ h

theorem raw (s : String) : Template (fun _ => s) [] [s] where
  count := by simp
  fill := fun hs _ _ _ => fillChars_append _ _ _ (hs s (List.mem_singleton_self s))

theorem value (v : Value) : Template (fun shown => shown v) [v] [] where
  count := by simp [placeholders]
  fill := by simp [fillChars]

theorem append (hf : Template f vs r) (hg : Template g ws q) :
    Template (fun shown => f shown ++ g shown) (vs ++ ws) (r ++ q) where
  count := by
    have h1 := hf.count
    have h2 := hg.count
    simp only [placeholders, String.toList_append, List.count_append, List.length_append,
      List.map_append, List.sum_append] at h1 h2 ⊢
    omega
  fill := by
    intro h shown rest others
    obtain ⟨hr, hq⟩ := List.forall_mem_append.1 h
    rw [String.toList_append, List.append_assoc, List.append_assoc, hf.fill hr, hg.fill hq,
      String.toList_append, List.append_assoc]

end Template

/-- Texts one after another, each of them a template. -/
inductive Templates : ((Value → String) → List String) → List Value → List String → Prop
  | nil : Templates (fun _ => []) [] []
  | cons {f fs vs ws r q} (hf : Template f vs r) (hfs : Templates fs ws q) :
    Templates (fun shown => f shown :: fs shown) (vs ++ ws) (r ++ q)

namespace Templates

variable {fs gs : (Value → String) → List String} {vs ws : List Value} {r q : List String}

theorem of_eq (h : Templates fs vs r) (hv : vs = ws) (hr : r = q) : Templates fs ws q :=
  hv ▸ hr ▸ h

theorem singleton {f : (Value → String) → String} (h : Template f vs r) :
    Templates (fun shown => [f shown]) vs r :=
  (cons h nil).of_eq (List.append_nil _) (List.append_nil _)

theorem append (hf : Templates fs vs r) (hg : Templates gs ws q) :
    Templates (fun shown => fs shown ++ gs shown) (vs ++ ws) (r ++ q) := by
  induction hf with
  | nil => exact hg
  | cons h _ ih =>
    exact (cons h ih).of_eq (List.append_assoc _ _ _).symm (List.append_assoc _ _ _).symm

theorem map {α : Type} {f : α → (Value → String) → String} {values : α → List Value}
    {raw : α → List String} :
    ∀ as : List α, (∀ a ∈ as, Template (f a) (values a) (raw a)) →
      Templates (fun shown => as.map fun a => f a shown) (as.flatMap values) (as.flatMap raw)
  | [], _ => nil
  | a :: as, h => by
    obtain ⟨ha, has⟩ := List.forall_mem_cons.1 h
    exact cons ha (map as has)

/-- A clause with its word is left out when there is nothing to stand in it. -/
theorem clause {p : Prop} [Decidable p] (word : String) {f : (Value → String) → String}
    (hword : '?' ∉ word.toList) (hv : p → vs = []) (hr : p → r = []) (h : Template f vs r) :
    Templates (fun shown => if p then [] else [word ++ f shown]) vs r := by
  by_cases hp : p
  · simp only [hp, if_true]
    rw [hv hp, hr hp]
    exact nil
  · simp only [hp, if_false]
    exact singleton ((Template.const hword).append h)

theorem intercalate (sep : String) (hsep : '?' ∉ sep.toList) (h : Templates fs vs r) :
    Template (fun shown => sep.intercalate (fs shown)) vs r := by
  induction h with
  | nil =>
    simp only [String.intercalate_nil]
    exact .const (by decide)
  | cons hf hfs ih =>
    cases hfs with
    | nil =>
      simp only [String.intercalate_singleton, List.append_nil]
      exact hf
    | cons hg hgs =>
      simp only [String.intercalate_cons_cons]
      exact ((hf.append (.const hsep)).append ih).of_eq (by simp) (by simp)

end Templates

/-! ## The statement of a draft -/

namespace Draft

/-- The texts that callers wrote and that the verb of a draft shows. -/
def rawHead (d : Draft) : List String :=
  match d.verb with
  | .select => d.projection ++ d.table :: d.joins.flatMap fun j => [j.table, j.condition]
  | .insert | .update => d.table :: d.assignments.map (·.1)
  | .delete => [d.table]

/-- The texts that callers wrote and that the statement of a draft shows, in the order in which it
shows them. -/
def rawTexts (d : Draft) : List String :=
  d.rawHead ++ d.conditions.map (·.field) ++ d.groupBy ++ d.having.map (·.field)
    ++ d.orderBy.map (·.field)

end Draft

namespace Template

/-- Values with a separator between two of them. -/
theorem values (sep : String) (hsep : '?' ∉ sep.toList) (vs : List Value) :
    Template (fun shown => sep.intercalate (vs.map shown)) vs [] :=
  ((Templates.map vs fun v _ => value v).intercalate sep hsep).of_eq (by simp) (by simp)

/-- Names of callers with commas between them. -/
theorem names (ns : List String) : Template (fun _ => ", ".intercalate ns) [] ns := by
  have h := Templates.map ns fun n _ => raw n
  rw [List.map_id'] at h
  exact (h.intercalate ", " (by decide)).of_eq (by simp) (by simp)

end Template

theorem Operator.not_mem_text (o : Operator) : '?' ∉ o.text.toList := by
  cases o <;> decide

theorem not_mem_toString_int (n : Int) : '?' ∉ (toString n).toList := by
  have hdigits : ∀ m : Nat, '?' ∉ m.repr.toList := by
    intro m h
    simp only [Nat.repr, String.toList_ofList] at h
    exact absurd (Nat.isDigit_of_mem_toDigits (by decide) (by decide) h) (by decide)
  rw [Int.toString_eq_repr, Int.repr_eq_if]
  split_ifs
  · exact hdigits _
  · simpa using hdigits _

theorem Connector.not_mem_text (k : Connector) : '?' ∉ k.text.toList := by
  cases k <;> decide

theorem JoinKind.not_mem_text (k : JoinKind) : '?' ∉ k.text.toList := by
  cases k <;> decide

theorem Direction.not_mem_text (k : Direction) : '?' ∉ k.text.toList := by
  cases k <;> decide

theorem Condition.template {c : Condition} (h : c.WellFormed) :
    Template (fun shown => c.inline shown) c.operands [c.field] := by
  obtain ⟨field, o, v, k⟩ := c
  have hv := h.value
  have hfield := Template.raw field
  cases o
  case isNull | isNotNull => exact hfield.append (.const (by decide))
  case isIn | notIn =>
    obtain ⟨vs, rfl, -⟩ := hv
    have hvalues := Template.values ", " (by decide) vs
    exact (((hfield.append (.const (by decide))).append hvalues).append
      (.const (by decide))).of_eq (List.append_nil _) rfl
  case between =>
    obtain ⟨low, high, rfl⟩ := hv
    exact (((hfield.append (.const (by decide))).append (.value low)).append
      (.const (by decide))).append (.value high)
  all_goals
    exact (((hfield.append (.const (by decide))).append (.const (Operator.not_mem_text _))).append
      (.const (by decide))).append (.value v)

theorem conditions_template {cs : List Condition} (h : ∀ c ∈ cs, c.WellFormed) :
    Templates (fun shown => inlineConditions shown cs) (cs.flatMap Condition.operands)
      (cs.map (·.field)) := by
  cases cs with
  | nil => exact .nil
  | cons c cs =>
    obtain ⟨hc, hcs⟩ := List.forall_mem_cons.1 h
    have hjoined : ∀ c ∈ cs, Template (fun shown => c.connector.text ++ " " ++ c.inline shown)
        c.operands [c.field] := fun c hc =>
      ((Template.const (Connector.not_mem_text _)).append (.const (by decide))).append
        (Condition.template (hcs c hc))
    exact (Templates.cons (Condition.template hc) (.map cs hjoined)).of_eq rfl
      (by simp [List.map_eq_flatMap])

theorem Join.template (j : Join) :
    Template (fun _ => j.kind.text ++ " JOIN " ++ j.table ++ " ON " ++ j.condition) []
      [j.table, j.condition] :=
  ((((Template.const (JoinKind.not_mem_text _)).append (.const (by decide))).append
    (.raw j.table)).append (.const (by decide))).append (.raw j.condition)

theorem OrderEntry.template (o : OrderEntry) :
    Template (fun _ => o.field ++ " " ++ o.direction.text) [] [o.field] :=
  ((Template.raw o.field).append (.const (by decide))).append (.const (Direction.not_mem_text _))

namespace Draft

theorem head_template (d : Draft) :
    Templates (fun shown => d.inlineHead shown) d.headValues d.rawHead := by
  cases hv : d.verb with
  | select =>
    simp only [inlineHead, headValues, rawHead, hv]
    have hselect := (Template.const (s := "SELECT ") (by decide)).append (.names d.projection)
    have hfrom := (Template.const (s := "FROM ") (by decide)).append (.raw d.table)
    have hjoins := Templates.map d.joins fun j _ => Join.template j
    exact ((Templates.cons hselect (.singleton hfrom)).append hjoins).of_eq (by simp) (by simp)
  | insert =>
    simp only [inlineHead, headValues, rawHead, hv]
    have htable := ((Template.const (s := "INSERT INTO ") (by decide)).append
      (.raw d.table)).append (.const (s := " (") (by decide))
    have hcolumns := (htable.append (.names (d.assignments.map fun a => a.1))).append
      (.const (s := ") VALUES (") (by decide))
    have hvalues := (Templates.map d.assignments fun a _ => Template.value a.2).intercalate
      ", " (by decide)
    exact (Templates.singleton ((hcolumns.append hvalues).append (.const (by decide)))).of_eq
      (by simp [List.map_eq_flatMap]) (by simp)
  | update =>
    simp only [inlineHead, headValues, rawHead, hv]
    have htable := (Template.const (s := "UPDATE ") (by decide)).append (.raw d.table)
    have hset := (Templates.map d.assignments fun a _ =>
      ((Template.raw a.1).append (.const (s := " = ") (by decide))).append (.value a.2)).intercalate
      ", " (by decide)
    exact (Templates.cons htable (.singleton ((Template.const (by decide)).append hset))).of_eq
      (by simp [List.map_eq_flatMap]) (by simp [List.map_eq_flatMap])
  | delete =>
    simp only [inlineHead, headValues, rawHead, hv]
    exact .singleton ((Template.const (by decide)).append (.raw d.table))

theorem count_template (word : String) (hword : '?' ∉ word.toList) (count : Option Int) :
    Templates (fun _ => count.toList.map fun n => word ++ toString n) [] [] :=
  (Templates.map count.toList fun n _ =>
    (Template.const hword).append (.const (not_mem_toString_int n))).of_eq (by simp) (by simp)

/-- The statement of a draft is a template with its operands. -/
theorem template {d : Draft} (h : d.WellFormed) :
    Template (fun shown => d.inline shown) d.operands d.rawTexts := by
  have hwhere := Templates.clause (p := d.conditions = []) "WHERE " (by decide)
    (by simp +contextual) (by simp +contextual)
    ((conditions_template h.conditions).intercalate " " (by decide))
  have hgroup := Templates.clause (p := d.groupBy = []) "GROUP BY " (by decide)
    (by simp) (by simp +contextual) (.names d.groupBy)
  have hhaving := Templates.clause (p := d.having = []) "HAVING " (by decide)
    (by simp +contextual) (by simp +contextual)
    ((conditions_template fun c hc => (h.having c hc).1).intercalate " " (by decide))
  have horder := Templates.clause (p := d.orderBy = []) "ORDER BY " (by decide)
    (by simp +contextual) (by simp +contextual)
    ((Templates.map d.orderBy fun o _ => OrderEntry.template o).intercalate ", " (by decide))
  have hlimit := count_template "LIMIT " (by decide) d.limit
  have hoffset := count_template "OFFSET " (by decide) d.offset
  have htexts := (((((d.head_template.append hwhere).append hgroup).append hhaving).append
    horder).append hlimit).append hoffset
  exact (htexts.intercalate " " (by decide)).of_eq (by simp [operands])
    (by simp [rawTexts, List.map_eq_flatMap])

/-- The placeholders of a statement number its values and the question marks that callers wrote.
Where they wrote none, showing each value at its placeholder gives the statement with its values
written out. -/
theorem build_placeholders (calls : List Call) {s : Statement}
    (h : (Draft.run {} calls).build = .ok s) :
    let d := Draft.run {} calls
    s.placeholderCount = s.parameters.length + (d.rawTexts.map placeholders).sum
      ∧ ((∀ t ∈ d.rawTexts, '?' ∉ t.toList) → ∀ shown : Value → String,
        fill shown s.text s.parameters = d.inline shown) := by
  intro d
  have hd : d.WellFormed := wellFormed_run calls
  obtain rfl := eq_statement_of_build hd h
  have htemplate := template hd
  refine ⟨htemplate.count, fun hraw shown => ?_⟩
  have hfill := htemplate.fill hraw shown [] []
  simp only [List.append_nil, fillChars] at hfill
  rw [fill, ← String.toList_inj, String.toList_ofList]
  exact hfill

/-- A membership test and a range take as many placeholders as they have values. -/
theorem build_placeholders_in_and_between :
    let calls : List Call := [.select (.text "id"), .table (.text "users"),
      .condition .and (.text "age") (.text "in") (some (.list [.int 1, .int 2])),
      .condition .or (.text "name") (.text "it's"),
      .having (.text "total") (.text "between") (.tuple [.int 3, .int 4]), .limit (.int 10)]
    ∃ s, (Draft.run {} calls).build = .ok s
      ∧ s.placeholderCount
        = s.parameters.length + ((Draft.run {} calls).rawTexts.map placeholders).sum
      ∧ (∀ t ∈ (Draft.run {} calls).rawTexts, '?' ∉ t.toList)
      ∧ fill Value.plain s.text s.parameters
        = "SELECT id FROM users WHERE age IN (1, 2) OR name = it's HAVING total BETWEEN 3 AND 4"
          ++ " LIMIT 10" := by
  intro calls
  have h : (Draft.run {} calls).build = .ok (Draft.run {} calls).statement := by
    rw [build_eq (wellFormed_run calls)]
    rfl
  have hraw : ∀ t ∈ (Draft.run {} calls).rawTexts, '?' ∉ t.toList := by decide +kernel
  obtain ⟨hcount, hfill⟩ := build_placeholders calls h
  refine ⟨_, h, hcount, hraw, ?_⟩
  rw [hfill hraw]
  decide +kernel

theorem sum_placeholders_eq_zero {ts : List String} :
    (ts.map placeholders).sum = 0 ↔ ∀ t ∈ ts, '?' ∉ t.toList := by
  simp [List.sum_eq_zero_iff_forall_eq_nat, placeholders, List.count_eq_zero]

/-- A statement never has fewer placeholders than values, and it has as many exactly when no text
that callers wrote into it holds a question mark. -/
theorem placeholderCount_eq_iff (calls : List Call) {s : Statement}
    (h : (Draft.run {} calls).build = .ok s) :
    s.parameters.length ≤ s.placeholderCount
      ∧ (s.placeholderCount = s.parameters.length
        ↔ ∀ t ∈ (Draft.run {} calls).rawTexts, '?' ∉ t.toList) := by
  have hd : (Draft.run {} calls).WellFormed := wellFormed_run calls
  obtain rfl := eq_statement_of_build hd h
  have hcount : (Draft.run {} calls).statement.placeholderCount
      = (Draft.run {} calls).statement.parameters.length
        + ((Draft.run {} calls).rawTexts.map placeholders).sum := (template hd).count
  rw [← sum_placeholders_eq_zero]
  omega

/-- A question mark in a value is no placeholder. -/
theorem placeholderCount_eq_of_question_mark_in_value :
    let calls : List Call := [.update (.text "users") (.map [(.text "name", .text "why?")]),
      .condition .and (.text "email") (.text "like") (some (.text "%?%"))]
    ∃ s, (Draft.run {} calls).build = .ok s ∧ s.placeholderCount = s.parameters.length := by
  intro calls
  have h : (Draft.run {} calls).build = .ok (Draft.run {} calls).statement := by
    rw [build_eq (wellFormed_run calls)]
    rfl
  have hraw : ∀ t ∈ (Draft.run {} calls).rawTexts, '?' ∉ t.toList := by decide +kernel
  exact ⟨_, h, (placeholderCount_eq_iff calls h).2.2 hraw⟩

/-- A condition on an expression with a question mark of its own has two placeholders for one
value. -/
theorem placeholderCount_ne_of_question_mark :
    let calls : List Call := [.select (.text "id"), .table (.text "docs"),
      .condition .and (.text "payload ? 'owner'") (.text "=") (some (.bool true))]
    ∃ s, (Draft.run {} calls).build = .ok s
      ∧ s.placeholderCount = 2 ∧ s.parameters = [.bool true] := by
  intro calls
  have h : (Draft.run {} calls).build = .ok (Draft.run {} calls).statement := by
    rw [build_eq (wellFormed_run calls)]
    rfl
  exact ⟨_, h, by decide +kernel, rfl⟩

end Draft

end QueryDraft.Sql
