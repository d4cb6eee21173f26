import QueryDraft.Proofs.Checks
import QueryDraft.Sql.Draft

/-!
# The invariant of a draft

Whatever a call hands to an edit has passed a check: texts are trimmed, the value of a condition
fits its operator, counts are not negative, and an insertion or update has columns
(`check_wellFormed`). An edit of this kind keeps a draft of this kind (`WellFormed.edit`), so every
run of calls from the empty draft ends in one (`wellFormed_run`).
-/

namespace QueryDraft

open Text (IsTrimmed)

namespace Sql

/-- Whether a value is in the form that an operator wants. -/
def Fits (o : Operator) (v : Value) : Prop :=
  match o with
  | .isNull | .isNotNull => v = .null
  | .isIn | .notIn => ∃ vs, v = .tuple vs ∧ vs ≠ []
  | .between => ∃ low high, v = .tuple [low, high]
  | _ => True

theorem fits_of_fitValue {o : Operator} {v w : Value} (h : fitValue o v = .ok w) : Fits o w := by
  cases o
  case isNull | isNotNull =>
    simp only [fitValue] at h
    split_ifs at h
    · exact (Except.ok.inj h).symm
    · simp at h
  case isIn | notIn =>
    simp only [fitValue] at h
    split at h
    · simp at h
    · simp at h
    · rename_i vs hne _
      exact ⟨vs, (Except.ok.inj h).symm, hne⟩
  case between =>
    simp only [fitValue] at h
    split at h
    · simp at h
    · exact ⟨_, _, (Except.ok.inj h).symm⟩
    · simp at h
  all_goals trivial

/-- A condition whose field is trimmed and whose value fits its operator. -/
structure Condition.WellFormed (c : Condition) : Prop where
  field : IsTrimmed c.field
  value : Fits c.operator c.value

namespace Condition

theorem make_wellFormed {field v : Value} {o : Operator} {k : Connector} {c : Condition}
    (h : make field o v k = .ok c) : c.WellFormed ∧ c.connector = k := by
  simp only [make, bind_eq_ok, pure_eq_ok] at h
  obtain ⟨name, hname, w, hw, rfl⟩ := h
  exact ⟨⟨isTrimmed_of_requireText hname, fits_of_fitValue hw⟩, rfl⟩

theorem compare_wellFormed {field operator v : Value} {k : Connector} {c : Condition}
    (h : compare field operator v k = .ok c) : c.WellFormed ∧ c.connector = k := by
  simp only [compare, bind_eq_ok] at h
  obtain ⟨o, -, h⟩ := h
  exact make_wellFormed h

theorem short_wellFormed {field second : Value} {k : Connector} {c : Condition}
    (h : short field second k = .ok c) : c.WellFormed ∧ c.connector = k := by
  unfold short at h
  split at h
  · exact make_wellFormed h
  · split_ifs at h
    · simp only [bind_eq_ok] at h
      obtain ⟨o, -, h⟩ := h
      exact make_wellFormed h
    · exact make_wellFormed h

end Condition

theorem Join.make_eq_ok {table on kind : Value} {j : Join} (h : Join.make table on kind = .ok j) :
    IsTrimmed j.table ∧ IsTrimmed j.condition := by
  unfold Join.make at h
  split at h
  · rename_i t c ht hc
    simp only [bind_eq_ok, pure_eq_ok] at h
    obtain ⟨k, -, rfl⟩ := h
    obtain ⟨_, -, ht⟩ := Option.bind_eq_some_iff.1 ht
    obtain ⟨_, -, hc⟩ := Option.bind_eq_some_iff.1 hc
    exact ⟨Text.isTrimmed_of_nonBlank? ht, Text.isTrimmed_of_nonBlank? hc⟩
  · simp at h

/-- Whether a column has its name and its value from an entry of a mapping. -/
def Assigned (entry : Value × Value) (column : String × Value) : Prop :=
  entry.1.trimmed? = some column.1 ∧ entry.2 = column.2

theorem assignments_eq_ok {verb : Verb} {v : Value} {columns : List (String × Value)} :
    assignments verb v = .ok columns ↔
      ∃ es, v.entries? = some es ∧ es ≠ [] ∧ List.Forall₂ Assigned es columns := by
  have hcolumn (e : Value × Value) (c : String × Value) :
      (do return (← requireText (.columnName verb) e.1, e.2)) = Except.ok c ↔ Assigned e c := by
    simp only [bind_eq_ok, pure_eq_ok, requireText_eq_ok, Assigned]
    constructor
    · rintro ⟨name, hname, rfl⟩
      exact ⟨hname, rfl⟩
    · rintro ⟨hname, hvalue⟩
      exact ⟨c.1, hname, by rw [hvalue]⟩
  unfold assignments
  split
  · simp_all
  · simp_all
  · rename_i es hne hes
    rw [mapM_eq_ok]
    simp_all

/-- The columns of an insertion or update: at least one, and each has a trimmed name. -/
def ColumnsOk (columns : List (String × Value)) : Prop :=
  columns ≠ [] ∧ ∀ c ∈ columns, IsTrimmed c.1

theorem columnsOk_of_assignments {verb : Verb} {v : Value} {columns : List (String × Value)}
    (h : assignments verb v = .ok columns) : ColumnsOk columns := by
  obtain ⟨es, -, hne, hcolumns⟩ := assignments_eq_ok.1 h
  refine ⟨?_, ?_⟩
  · rintro rfl
    cases hcolumns
    exact hne rfl
  · exact forall_mem_of_forall₂ hcolumns fun _ _ hc => isTrimmed_of_text? hc.1

/-! ## The steps -/

/-- What a check makes sure of about an edit. -/
def Edit.WellFormed : Edit → Prop
  | .project names | .groupBy names => ∀ s ∈ names, IsTrimmed s
  | .table name | .delete name => IsTrimmed name
  | .join j => IsTrimmed j.table ∧ IsTrimmed j.condition
  | .condition c => c.WellFormed
  | .having c => c.WellFormed ∧ c.connector = .and
  | .orderBy o => IsTrimmed o.field
  | .limit n | .offset n => 0 ≤ n
  | .insert name columns | .update name columns => IsTrimmed name ∧ ColumnsOk columns

theorem check_wellFormed {c : Call} {e : Edit} (h : c.check = .ok e) : e.WellFormed := by
  cases c with
  | select fields =>
    simp only [Call.check, bind_eq_ok, pure_eq_ok] at h
    obtain ⟨names, hnames, rfl⟩ := h
    exact isTrimmed_of_requireTexts hnames
  | table name =>
    simp only [Call.check, bind_eq_ok, pure_eq_ok] at h
    obtain ⟨name, hname, rfl⟩ := h
    exact isTrimmed_of_requireText hname
  | join t on kind =>
    simp only [Call.check, bind_eq_ok, pure_eq_ok] at h
    obtain ⟨j, hj, rfl⟩ := h
    exact Join.make_eq_ok hj
  | condition k field second third =>
    cases third with
    | none =>
      simp only [Call.check, bind_eq_ok, pure_eq_ok] at h
      obtain ⟨c, hc, rfl⟩ := h
      exact (Condition.short_wellFormed hc).1
    | some v =>
      simp only [Call.check, bind_eq_ok, pure_eq_ok] at h
      obtain ⟨c, hc, rfl⟩ := h
      exact (Condition.compare_wellFormed hc).1
  | orderBy field direction =>
    simp only [Call.check, bind_eq_ok, pure_eq_ok] at h
    obtain ⟨name, hname, dir, -, rfl⟩ := h
    exact isTrimmed_of_requireText hname
  | groupBy fields =>
    simp only [Call.check, bind_eq_ok, pure_eq_ok] at h
    obtain ⟨names, hnames, rfl⟩ := h
    exact isTrimmed_of_requireTexts hnames
  | having field operator v =>
    simp only [Call.check, bind_eq_ok, pure_eq_ok] at h
    obtain ⟨c, hc, rfl⟩ := h
    exact Condition.compare_wellFormed hc
  | limit count | offset count =>
    simp only [Call.check, bind_eq_ok, pure_eq_ok] at h
    obtain ⟨n, hn, rfl⟩ := h
    exact nonneg_of_requireCount hn
  | insert t values | update t values =>
    simp only [Call.check, bind_eq_ok, pure_eq_ok] at h
    obtain ⟨name, hname, columns, hcolumns, rfl⟩ := h
    exact ⟨isTrimmed_of_requireText hname, columnsOk_of_assignments hcolumns⟩
  | delete t =>
    simp only [Call.check, bind_eq_ok, pure_eq_ok] at h
    obtain ⟨name, hname, rfl⟩ := h
    exact isTrimmed_of_requireText hname

namespace Draft

/-- The invariant. The kinds of joins, the directions and the operators are words of their
vocabularies, and the counts whole numbers, by their types. -/
structure WellFormed (d : Draft) : Prop where
  table : d.table = "" ∨ IsTrimmed d.table
  projection : ∀ s ∈ d.projection, IsTrimmed s
  joins : ∀ j ∈ d.joins, IsTrimmed j.table ∧ IsTrimmed j.condition
  conditions : ∀ c ∈ d.conditions, c.WellFormed
  groupBy : ∀ s ∈ d.groupBy, IsTrimmed s
  having : ∀ c ∈ d.having, c.WellFormed ∧ c.connector = .and
  orderBy : ∀ o ∈ d.orderBy, IsTrimmed o.field
  limit : ∀ n ∈ d.limit, 0 ≤ n
  offset : ∀ n ∈ d.offset, 0 ≤ n
  columns : ∀ c ∈ d.assignments, IsTrimmed c.1
  changes : d.verb = .insert ∨ d.verb = .update → d.table ≠ "" ∧ d.assignments ≠ []
  deletes : d.verb = .delete → d.table ≠ ""

theorem wellFormed_empty : ({} : Draft).WellFormed := by
  constructor <;> simp

theorem WellFormed.edit {d : Draft} {e : Edit} (hd : d.WellFormed) (he : e.WellFormed) :
    (d.edit e).WellFormed := by
  cases e with
  | project names =>
    refine { hd with
      projection := ?_
      changes := by simp [Draft.edit]
      deletes := by simp [Draft.edit] }
    simp only [Draft.edit]
    split_ifs
    · exact he
    · exact List.forall_mem_append.2 ⟨hd.projection, he⟩
  | table name =>
    exact { hd with
      table := .inr he
      changes := fun h => ⟨he.1, (hd.changes h).2⟩
      deletes := fun _ => he.1 }
  | join j =>
    exact { hd with joins := List.forall_mem_append.2 ⟨hd.joins, List.forall_mem_singleton.2 he⟩ }
  | condition c =>
    exact { hd with
      conditions := List.forall_mem_append.2 ⟨hd.conditions, List.forall_mem_singleton.2 he⟩ }
  | groupBy names => exact { hd with groupBy := List.forall_mem_append.2 ⟨hd.groupBy, he⟩ }
  | having c =>
    exact { hd with having := List.forall_mem_append.2 ⟨hd.having, List.forall_mem_singleton.2 he⟩ }
  | orderBy o =>
    exact { hd with
      orderBy := List.forall_mem_append.2 ⟨hd.orderBy, List.forall_mem_singleton.2 he⟩ }
  | limit n => exact { hd with limit := by rintro _ ⟨⟩; exact he }
  | offset n => exact { hd with offset := by rintro _ ⟨⟩; exact he }
  | insert name columns | update name columns =>
    obtain ⟨hname, hne, hcolumns⟩ := he
    exact { hd with
      table := .inr hname
      columns := hcolumns
      changes := fun _ => ⟨hname.1, hne⟩
      deletes := by simp [Draft.edit] }
  | delete name =>
    exact { hd with
      table := .inr he
      changes := by simp [Draft.edit]
      deletes := fun _ => he.1 }

/-- A call keeps the invariant: one that fails leaves the draft as it was. -/
theorem WellFormed.call {d : Draft} (hd : d.WellFormed) (c : Call) :
    ((d.call c).toOption.getD d).WellFormed := by
  unfold Draft.call
  cases h : c.check with
  | error _ => exact hd
  | ok e => exact hd.edit (check_wellFormed h)

theorem WellFormed.run {d : Draft} (hd : d.WellFormed) (calls : List Call) :
    (d.run calls).WellFormed := by
  induction calls generalizing d with
  | nil => exact hd
  | cons c calls ih => exact ih (hd.call c)

theorem wellFormed_run (calls : List Call) : (Draft.run {} calls).WellFormed :=
  wellFormed_empty.run calls

/-- The parts of a draft after any run of calls, whatever their arguments. -/
theorem run_parts (calls : List Call) :
    let d := Draft.run {} calls
    (d.table = "" ∨ IsTrimmed d.table)
      ∧ (∀ s ∈ d.projection, IsTrimmed s)
      ∧ (∀ j ∈ d.joins, IsTrimmed j.table ∧ IsTrimmed j.condition)
      ∧ (∀ s ∈ d.groupBy, IsTrimmed s)
      ∧ (∀ o ∈ d.orderBy, IsTrimmed o.field)
      ∧ (∀ a ∈ d.assignments, IsTrimmed a.1)
      ∧ (∀ c ∈ d.conditions ++ d.having, IsTrimmed c.field
        ∧ (c.operator = .isNull ∨ c.operator = .isNotNull → c.value = .null)
        ∧ (c.operator = .isIn ∨ c.operator = .notIn → ∃ vs, c.value = .tuple vs ∧ vs ≠ [])
        ∧ (c.operator = .between → ∃ low high, c.value = .tuple [low, high]))
      ∧ (∀ c ∈ d.having, c.connector = .and)
      ∧ (∀ n, d.limit = some n → 0 ≤ n)
      ∧ (∀ n, d.offset = some n → 0 ≤ n)
      ∧ (d.verb = .insert ∨ d.verb = .update → d.table ≠ "" ∧ d.assignments ≠ [])
      ∧ (d.verb = .delete → d.table ≠ "") := by
  intro d
  have hd : d.WellFormed := wellFormed_run calls
  have hcs : ∀ c ∈ d.conditions ++ d.having, c.WellFormed :=
    List.forall_mem_append.2 ⟨hd.conditions, fun c hc => (hd.having c hc).1⟩
  refine ⟨hd.table, hd.projection, hd.joins, hd.groupBy, hd.orderBy, hd.columns, fun c hc => ?_,
    fun c hc => (hd.having c hc).2, hd.limit, hd.offset, hd.changes, hd.deletes⟩
  obtain ⟨hfield, hfits⟩ := hcs c hc
  refine ⟨hfield, ?_, ?_, ?_⟩
  · rintro (ho | ho) <;> rwa [ho] at hfits
  · rintro (ho | ho) <;> rwa [ho] at hfits
  · intro ho
    rwa [ho] at hfits

end Draft

end Sql
end QueryDraft
