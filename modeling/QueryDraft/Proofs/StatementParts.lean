import QueryDraft.Proofs.StatementBuild

/-!
# Nothing is left out of a statement

Whatever callers put into a draft stands in the statement that it builds to: each clause with its
text and its values (`Part.shown`), and the columns and values of an insertion or update
(`showsAssignments_of_verb`). Columns and values that an earlier insertion or update left behind are
another matter. A selection or deletion is built as if they were not there
(`build_without_assignments`), so they are shown exactly when the verb writes (`build_shows_parts`).
-/

namespace QueryDraft.Sql

/-! ## Texts within texts -/

/-- A text stands somewhere in another. -/
def Occurs (part text : String) : Prop := part.toList <:+: text.toList

theorem Occurs.refl (s : String) : Occurs s s := List.infix_rfl

theorem Occurs.trans {s t u : String} (h : Occurs s t) (h' : Occurs t u) : Occurs s u :=
  List.IsInfix.trans h h'

theorem occurs_append_left (s t : String) : Occurs s (s ++ t) := by
  rw [Occurs, String.toList_append]
  exact (List.prefix_append _ _).isInfix

theorem occurs_append_right (s t : String) : Occurs t (s ++ t) := by
  rw [Occurs, String.toList_append]
  exact (List.suffix_append _ _).isInfix

theorem occurs_intercalate (sep : String) {t : String} :
    ∀ {ts : List String}, t ∈ ts → Occurs t (sep.intercalate ts)
  | [s], h => by
    obtain rfl := List.mem_singleton.1 h
    rw [String.intercalate_singleton]
    exact .refl t
  | s :: u :: ts, h => by
    rw [String.intercalate_cons_cons]
    rcases List.mem_cons.1 h with rfl | h
    · rw [String.append_assoc]
      exact occurs_append_left t _
    · exact (occurs_intercalate sep h).trans (occurs_append_right _ _)

namespace Draft

/-! ## Clauses -/

/-- What callers have put into a draft besides columns to write, each part with the text and the
values that it takes in a statement. -/
inductive Part (d : Draft) : String → List Value → Prop
  | projection (h : d.projection ≠ []) : Part d ("SELECT " ++ ", ".intercalate d.projection) []
  | join {j : Join} (h : j ∈ d.joins) : Part d j.text []
  | conditions (h : d.conditions ≠ []) :
    Part d ("WHERE " ++ " ".intercalate (inlineConditions (fun _ => "?") d.conditions))
      (d.conditions.flatMap Condition.operands)
  | groupBy (h : d.groupBy ≠ []) : Part d ("GROUP BY " ++ ", ".intercalate d.groupBy) []
  | having (h : d.having ≠ []) :
    Part d ("HAVING " ++ " ".intercalate (inlineConditions (fun _ => "?") d.having))
      (d.having.flatMap Condition.operands)
  | orderBy (h : d.orderBy ≠ []) :
    Part d ("ORDER BY " ++ ", ".intercalate (d.orderBy.map OrderEntry.text)) []
  | limit {n : Int} (h : d.limit = some n) : Part d ("LIMIT " ++ toString n) []
  | offset {n : Int} (h : d.offset = some n) : Part d ("OFFSET " ++ toString n) []

theorem select_of_unsupported {d : Draft} (h : d.unsupported = [])
    (hd : d.projection ≠ [] ∨ d.joins ≠ [] ∨ d.groupBy ≠ [] ∨ d.having ≠ [] ∨ d.offset ≠ none) :
    d.verb = .select := by
  obtain ⟨hinsert, hchange⟩ := unsupported_eq_nil_iff.1 h
  cases hv : d.verb with
  | select => rfl
  | insert =>
    obtain ⟨h1, h2, -, h3, h4, -, -, h5⟩ := hinsert hv
    simp [h1, h2, h3, h4, h5] at hd
  | update | delete =>
    obtain ⟨h1, h2, h3, h4, h5⟩ := hchange (by simp [hv])
    simp [h1, h2, h3, h4, h5] at hd

theorem ne_insert_of_unsupported {d : Draft} (h : d.unsupported = [])
    (hd : d.conditions ≠ [] ∨ d.orderBy ≠ [] ∨ d.limit ≠ none) : d.verb ≠ .insert := by
  intro hv
  obtain ⟨-, -, h1, -, -, h2, h3, -⟩ := (unsupported_eq_nil_iff.1 h).1 hv
  simp [h1, h2, h3] at hd

namespace Part

variable {d : Draft} {text : String} {values : List Value}

/-- Each part is one of the clauses, the projection and the joins because a draft that has some is
a selection. -/
theorem mem_inlineTexts (p : d.Part text values) (h : d.unsupported = []) :
    text ∈ d.inlineTexts fun _ => "?" := by
  cases p with
  | projection hp =>
    have hv := select_of_unsupported h (.inl hp)
    simp [inlineTexts, inlineHead, hv]
  | @join j hj =>
    have hv := select_of_unsupported h (.inr (.inl (List.ne_nil_of_mem hj)))
    have hmem : j.text ∈ d.inlineHead fun _ => "?" := by
      simp only [inlineHead, hv]
      exact List.mem_append_right _ (List.mem_map.2 ⟨j, hj, rfl⟩)
    simp [inlineTexts, hmem]
  | conditions hp => simp [inlineTexts, hp]
  | groupBy hp => simp [inlineTexts, hp]
  | having hp => simp [inlineTexts, hp]
  | orderBy hp =>
    have htext : OrderEntry.text = fun o => o.field ++ " " ++ o.direction.text := rfl
    simp [inlineTexts, hp, htext]
  | limit hp => simp [inlineTexts, hp]
  | offset hp => simp [inlineTexts, hp]

theorem infix_operands (p : d.Part text values) : values <:+: d.operands := by
  cases p with
  | conditions hp => exact ⟨d.headValues, d.having.flatMap Condition.operands, rfl⟩
  | having hp => exact (List.suffix_append _ _).isInfix
  | _ => exact List.nil_infix

/-- A part stands in the statement with its text and its values. -/
theorem shown (p : d.Part text values) (h : d.unsupported = []) :
    Occurs text d.statement.text ∧ values <:+: d.statement.parameters :=
  ⟨occurs_intercalate " " (p.mem_inlineTexts h), p.infix_operands⟩

end Part

/-! ## Columns to write -/

/-- A statement shows what its draft assigns: it writes rows, each column is named in it, and its
parameters start with the values. -/
def ShowsAssignments (d : Draft) (s : Statement) : Prop :=
  d.assignments ≠ [] → (d.verb = .insert ∨ d.verb = .update)
    ∧ (∀ a ∈ d.assignments, Occurs a.1 s.text) ∧ d.assignments.map (·.2) <+: s.parameters

theorem occurs_column {d : Draft} (hv : d.verb = .insert ∨ d.verb = .update)
    {a : String × Value} (ha : a ∈ d.assignments) : Occurs a.1 d.statement.text := by
  rcases hv with hv | hv
  · have hnames : Occurs a.1 (", ".intercalate (d.assignments.map fun a => a.1)) :=
      occurs_intercalate ", " (List.mem_map.2 ⟨a, ha, rfl⟩)
    have hhead := (((hnames.trans (occurs_append_right ("INSERT INTO " ++ d.table ++ " (") _)).trans
      (occurs_append_left _ ") VALUES (")).trans (occurs_append_left _
        (", ".intercalate (d.assignments.map fun _ => "?")))).trans (occurs_append_left _ ")")
    refine hhead.trans (occurs_intercalate " " ?_)
    simp [inlineTexts, inlineHead, hv]
  · have hset : Occurs a.1
        ("SET " ++ ", ".intercalate (d.assignments.map fun a => a.1 ++ " = " ++ "?")) :=
      (((occurs_append_left a.1 " = ").trans (occurs_append_left _ "?")).trans
        (occurs_intercalate ", " (List.mem_map.2 ⟨a, ha, rfl⟩))).trans (occurs_append_right _ _)
    refine hset.trans (occurs_intercalate " " ?_)
    simp [inlineTexts, inlineHead, hv]

theorem showsAssignments_of_verb {d : Draft} (hv : d.verb = .insert ∨ d.verb = .update) :
    d.ShowsAssignments d.statement := by
  refine fun _ => ⟨hv, fun a ha => occurs_column hv ha, ?_⟩
  have hhead : d.headValues = d.assignments.map (·.2) := by
    rcases hv with hv | hv <;> simp [headValues, hv]
  show _ <+: d.headValues ++ _ ++ _
  rw [hhead, List.append_assoc]
  exact List.prefix_append _ _

/-- A selection or deletion is built as if there were no columns to write. -/
theorem build_without_assignments {d : Draft} (hv : d.verb = .select ∨ d.verb = .delete) :
    { d with assignments := [] }.build = d.build := by
  have htexts : { d with assignments := [] }.headTexts = d.headTexts := by
    rcases hv with hv | hv <;> simp [headTexts, hv]
  have hvalues : { d with assignments := [] }.headValues = d.headValues := by
    rcases hv with hv | hv <;> simp [headValues, hv]
  simp only [build, texts, values, htexts, hvalues]
  rfl

theorem refused_of_carries {d : Draft} (hd : d.WellFormed) {name : String} (hc : d.Carries name)
    (ht : name ∉ d.verb.takes) : ∃ r, d.build = refuse r := by
  have hne : d.unsupported ≠ [] := by
    intro hnil
    have hmem := mem_unsupported.2 ⟨hc, ht⟩
    simp [hnil] at hmem
  rw [build_eq hd]
  split_ifs
  · exact ⟨_, rfl⟩
  · exact ⟨_, rfl⟩
  · exact ⟨_, rfl⟩

/-- A draft that builds shows what callers put into it: its clauses are those of its verb and stand
in the statement with their values. What it assigns is shown exactly when it writes rows; a
selection or deletion is built without the columns that an earlier call left behind. A draft with a
clause that its verb does not take is refused. -/
theorem build_shows_parts (calls : List Call) :
    let d := Draft.run {} calls
    (∀ s, d.build = .ok s →
      (d.projection ≠ [] ∨ d.joins ≠ [] ∨ d.groupBy ≠ [] ∨ d.having ≠ [] ∨ d.offset ≠ none →
          d.verb = .select)
        ∧ (d.conditions ≠ [] ∨ d.orderBy ≠ [] ∨ d.limit ≠ none → d.verb ≠ .insert)
        ∧ (∀ text values, d.Part text values → Occurs text s.text ∧ values <:+: s.parameters)
        ∧ (d.ShowsAssignments s ↔ d.assignments = [] ∨ d.verb = .insert ∨ d.verb = .update)
        ∧ (d.verb = .select ∨ d.verb = .delete → { d with assignments := [] }.build = .ok s))
      ∧ ∀ name, d.Carries name → name ∉ d.verb.takes → ∃ r, d.build = refuse r := by
  intro d
  have hd : d.WellFormed := wellFormed_run calls
  refine ⟨fun s hs => ?_, fun name => refused_of_carries hd⟩
  have hunsupported : d.unsupported = [] := ((build_ok_iff hd).1 ⟨s, hs⟩).2.2
  have hdrop : d.verb = .select ∨ d.verb = .delete → { d with assignments := [] }.build = .ok s :=
    fun hv => (build_without_assignments hv).trans hs
  obtain rfl := eq_statement_of_build hd hs
  refine ⟨select_of_unsupported hunsupported, ne_insert_of_unsupported hunsupported,
    fun text values p => p.shown hunsupported, ⟨fun h => ?_, ?_⟩, hdrop⟩
  · by_cases hempty : d.assignments = []
    · exact .inl hempty
    · exact .inr (h hempty).1
  · rintro (hempty | hv)
    · exact fun hne => absurd hempty hne
    · exact showsAssignments_of_verb hv

/-- An update shows the condition and the limit put into it before and after. -/
theorem build_shows_parts_of_update :
    let calls : List Call := [.condition .and (.text "id") (.text "=") (some (.int 7)),
      .insert (.text "people") (.map [(.text "age", .int 1)]),
      .update (.text "people") (.map [(.text "name", .text "Ann")]), .limit (.int 5)]
    let d := Draft.run {} calls
    ∃ s, d.build = .ok s ∧ Occurs "WHERE id = ?" s.text ∧ [Value.int 7] <:+: s.parameters
      ∧ Occurs "LIMIT 5" s.text ∧ d.ShowsAssignments s := by
  intro calls d
  have h : d.build = .ok d.statement := by
    rw [build_eq (wellFormed_run calls)]
    rfl
  obtain ⟨-, -, hparts, hassigned, -⟩ := (build_shows_parts calls).1 _ h
  have hwhere := hparts _ _ (.conditions (List.cons_ne_nil _ _))
  exact ⟨_, h, hwhere.1, hwhere.2, (hparts _ _ (.limit rfl)).1, hassigned.2 (.inr (.inr rfl))⟩

/-- A selection after an insertion builds, without the column and the value of the insertion. -/
theorem build_drops_assignments :
    let calls : List Call := [.insert (.text "users") (.map [(.text "name", .text "Ann")]),
      .select (.text "id")]
    let d := Draft.run {} calls
    ∃ s, d.build = .ok s ∧ s.text = "SELECT id FROM users" ∧ s.parameters = []
      ∧ d.assignments = [("name", .text "Ann")] ∧ ¬ d.ShowsAssignments s := by
  intro calls d
  have h : d.build = .ok d.statement := by
    rw [build_eq (wellFormed_run calls)]
    rfl
  have hassigned : d.assignments = [("name", .text "Ann")] := rfl
  refine ⟨_, h, by decide +kernel, rfl, hassigned, fun hshows => ?_⟩
  obtain ⟨hv | hv, -⟩ := hshows (by simp [hassigned])
  · exact absurd hv (by decide)
  · exact absurd hv (by decide)

end Draft

end QueryDraft.Sql
