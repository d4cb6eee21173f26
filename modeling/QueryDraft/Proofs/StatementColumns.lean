import Mathlib.Data.List.Nodup
import QueryDraft.Proofs.StatementBuild
import QueryDraft.Proofs.StatementDefinition

/-!
# Columns that are written

An insertion or update is given a mapping, by a call or by a definition, and trims each of its keys
by itself. So a draft writes the columns of the mapping in their order, each with its own value
(`Draft.WritesColumns`), and a column comes twice exactly if two keys are one text once they are
trimmed (`nodup_columns_iff`). The statement lists the columns as the draft has them, with one
placeholder and one value for each (`Draft.showsColumns_of_build`).
-/

namespace QueryDraft.Sql

theorem nodup_columns_iff {es : Entries} {columns : List (String × Value)}
    (h : List.Forall₂ Assigned es columns) :
    (columns.map (·.1)).Nodup ↔ es.Pairwise fun e e' => e.1.trimmed? ≠ e'.1.trimmed? := by
  have hnames : es.map (·.1.trimmed?) = (columns.map (·.1)).map some := by
    rw [List.map_map]
    exact map_eq_map_of_forall₂ h fun _ _ hc => hc.1
  have hinj : Function.Injective (some : String → Option String) := fun _ _ => Option.some.inj
  rw [← List.nodup_map_iff hinj, ← hnames, List.Nodup, List.pairwise_map]

namespace Draft

/-- What a draft writes when it is given a mapping. -/
structure WritesColumns (d : Draft) (verb : Verb) (es : Entries) : Prop where
  verb : d.verb = verb
  columns : List.Forall₂ Assigned es d.assignments
  distinct : (d.assignments.map (·.1)).Nodup
    ↔ es.Pairwise fun e e' => e.1.trimmed? ≠ e'.1.trimmed?

/-- The calls that write columns, with the names that definitions have for them. -/
inductive Writing : String → Verb → (Value → Value → Call) → Prop
  | insert : Writing "insert" .insert .insert
  | update : Writing "update" .update .update

variable {name : String} {verb : Verb} {call : Value → Value → Call}

theorem writesColumns_of_check (hcall : Writing name verb call) {table values : Value} {e : Edit}
    (h : (call table values).check = .ok e) (d : Draft) :
    ∃ es, values.entries? = some es ∧ (d.edit e).WritesColumns verb es := by
  cases hcall
  all_goals
    simp only [Call.check, bind_eq_ok, pure_eq_ok] at h
    obtain ⟨t, -, columns, hcolumns, rfl⟩ := h
    obtain ⟨es, hes, -, hassigned⟩ := assignments_eq_ok.1 hcolumns
    exact ⟨es, hes, rfl, hassigned, nodup_columns_iff hassigned⟩

/-! ## Columns in a statement -/

/-- The clauses that may follow the columns of an update. -/
def FollowsColumns (clause : String) : Prop :=
  ∃ rest, clause = "WHERE " ++ rest ∨ clause = "ORDER BY " ++ rest ∨ clause = "LIMIT " ++ rest

/-- The clauses of an update after its columns. -/
def clausesOfUpdate (d : Draft) : List String :=
  (if d.conditions = [] then []
    else ["WHERE " ++ " ".intercalate (inlineConditions (fun _ => "?") d.conditions)])
    ++ (if d.orderBy = [] then [] else ["ORDER BY " ++ ", ".intercalate
      (d.orderBy.map fun o => o.field ++ " " ++ o.direction.text)])
    ++ d.limit.toList.map fun n => "LIMIT " ++ toString n

theorem followsColumns_of_mem {d : Draft} {clause : String} (h : clause ∈ d.clausesOfUpdate) :
    FollowsColumns clause := by
  unfold clausesOfUpdate at h
  rcases List.mem_append.1 h with h | h
  · rcases List.mem_append.1 h with h | h
    · split_ifs at h
      · cases h
      · exact ⟨_, .inl (List.mem_singleton.1 h)⟩
    · split_ifs at h
      · cases h
      · exact ⟨_, .inr (.inl (List.mem_singleton.1 h))⟩
  · obtain ⟨n, -, rfl⟩ := List.mem_map.1 h
    exact ⟨_, .inr (.inr rfl)⟩

/-- How a statement shows the columns that its draft writes. -/
structure ShowsColumns (d : Draft) (s : Statement) : Prop where
  insert : d.verb = .insert →
    s.text = "INSERT INTO " ++ d.table ++ " (" ++ ", ".intercalate (d.assignments.map (·.1))
        ++ ") VALUES (" ++ ", ".intercalate (d.assignments.map fun _ => "?") ++ ")"
      ∧ s.parameters = d.assignments.map (·.2)
  update : d.verb = .update →
    (∃ clauses, (∀ c ∈ clauses, FollowsColumns c)
        ∧ s.text = " ".intercalate (("UPDATE " ++ d.table)
          :: ("SET " ++ ", ".intercalate (d.assignments.map fun a => a.1 ++ " = ?")) :: clauses))
      ∧ d.assignments.map (·.2) <+: s.parameters

theorem showsColumns_of_build {d : Draft} (hd : d.WellFormed) {s : Statement}
    (hs : d.build = .ok s) : d.ShowsColumns s := by
  have hunsupported := ((build_ok_iff hd).1 ⟨s, hs⟩).2.2
  obtain ⟨hinsert, hupdate⟩ := unsupported_eq_nil_iff.1 hunsupported
  obtain rfl := eq_statement_of_build hd hs
  constructor
  · intro hv
    obtain ⟨-, -, hconditions, hgroup, hhaving, horder, hlimit, hoffset⟩ := hinsert hv
    constructor
    · simp [statement, inline, inlineTexts, inlineHead, hv, hconditions, hgroup, hhaving, horder,
        hlimit, hoffset]
    · simp [statement, operands, headValues, hv, hconditions, hhaving]
  · intro hv
    obtain ⟨-, -, hgroup, hhaving, hoffset⟩ := hupdate (.inl hv)
    constructor
    · refine ⟨d.clausesOfUpdate, fun c hc => followsColumns_of_mem hc, ?_⟩
      show " ".intercalate (d.inlineTexts fun _ => "?") = _
      rw [inlineTexts, ← headTexts_eq]
      simp [headTexts, clausesOfUpdate, hv, hgroup, hhaving, hoffset]
    · rw [statement, operands, headValues, hv, List.append_assoc]
      exact List.prefix_append _ _

end Draft

end QueryDraft.Sql

namespace QueryDraft.Config.Relational

open Sql (Call Edit)
open Sql.Draft (Writing)

/-- What a definition writes is the last edit that it makes. -/
theorem exists_edit_of_writing {name : String} {verb : Verb} {call : Value → Value → Call}
    (hcall : Writing name verb call) {key : String} {es : Entries} {as : List Edit} {v : Value}
    (h : edits key es = .ok as) (hv : Entries.get? es name = some v) :
    ∃ before a, as = before ++ [a] ∧ readValues call (key ++ "." ++ name) v = .ok a := by
  simp only [edits, bind_eq_ok, pure_eq_ok] at h
  obtain ⟨select, -, table, -, joins, -, conditions, -, groupBy, -, having', -, orderBy, -, limit,
    -, offset, -, ⟨⟩, hverbs, insert, hinsert, update, hupdate, delete, hdelete, rfl⟩ := h
  obtain ⟨hothers, hother⟩ := verbs_of_checkVerbs hverbs
  cases hcall with
  | insert =>
    obtain ⟨hu, hd⟩ := hothers.resolve_left (by simp [hv])
    obtain rfl := eq_nil_of_optional hupdate hu
    obtain rfl := eq_nil_of_optional hdelete hd
    obtain ⟨a, ha, rfl⟩ := exists_of_optional hinsert hv
    exact ⟨_, a, by rw [List.append_nil, List.append_nil], ha⟩
  | update =>
    have hi : Entries.get? es "insert" = none := hothers.resolve_right (by simp [hv])
    have hd : Entries.get? es "delete" = none := hother.resolve_left (by simp [hv])
    obtain rfl := eq_nil_of_optional hinsert hi
    obtain rfl := eq_nil_of_optional hdelete hd
    obtain ⟨a, ha, rfl⟩ := exists_of_optional hupdate hv
    exact ⟨_, a, by rw [List.append_nil, List.append_nil], ha⟩

theorem writesColumns_of_read {name : String} {verb : Verb} {call : Value → Value → Call}
    (hcall : Writing name verb call) {key query : String} {es : Entries} {d : Sql.Draft} {v : Value}
    (h : Definition.read key (.map es) = .ok ⟨query, .statement d⟩)
    (hv : Entries.get? es name = some v) :
    ∃ e columns, v = .map e ∧ Entries.get? e "values" = some (.map columns)
      ∧ d.WritesColumns verb columns := by
  obtain ⟨as, has, rfl⟩ := edits_of_read h
  obtain ⟨before, a, rfl, ha⟩ := exists_edit_of_writing hcall has hv
  obtain ⟨e, t, columns, rfl, hvalues, hcheck⟩ := readValues_eq_ok ha
  rw [List.foldl_append]
  obtain ⟨_, ⟨⟩, hwrites⟩ := Sql.Draft.writesColumns_of_check hcall hcheck (before.foldl _ {})
  exact ⟨e, columns, rfl, hvalues, hwrites⟩

/-- The draft of a definition satisfies the invariant of drafts. -/
theorem wellFormed_of_read {key query : String} {es : Entries} {d : Sql.Draft}
    (h : Definition.read key (.map es) = .ok ⟨query, .statement d⟩) : d.WellFormed := by
  obtain ⟨as, has, rfl⟩ := edits_of_read h
  exact (draft_of_edits has).1

end QueryDraft.Config.Relational

namespace QueryDraft.Sql.Draft

/-- Whether calls lead to a draft, or a definition. -/
def Reached (d : Draft) : Prop :=
  (∃ calls, d = run {} calls)
    ∨ ∃ key query es, Config.Definition.read key (.map es) = .ok ⟨query, .statement d⟩

theorem Reached.wellFormed {d : Draft} (h : d.Reached) : d.WellFormed := by
  rcases h with ⟨calls, rfl⟩ | ⟨key, query, es, h⟩
  · exact wellFormed_run calls
  · exact Config.Relational.wellFormed_of_read h

/-- What insertions and updates write, by a call on any draft or by a definition: the trimmed keys
of their mapping in its order, each with its own value. The columns are distinct exactly if no two
keys are one text once they are trimmed. A statement that is built lists the columns as its draft
has them, with one placeholder and one value for each. -/
theorem write_columns {name : String} {verb : Verb} {call : Value → Value → Call}
    (hcall : Writing name verb call) :
    (∀ (d d' : Draft) table values, d.call (call table values) = .ok d' →
      ∃ es, values.entries? = some es ∧ d'.WritesColumns verb es)
      ∧ (∀ key query es d v, Config.Definition.read key (.map es) = .ok ⟨query, .statement d⟩ →
        Entries.get? es name = some v →
          ∃ e columns, v = .map e ∧ Entries.get? e "values" = some (.map columns)
            ∧ d.WritesColumns verb columns)
      ∧ ∀ d : Draft, d.Reached → ∀ s, d.build = .ok s → d.ShowsColumns s := by
  refine ⟨?_, ?_, ?_⟩
  · intro d d' table values h
    obtain ⟨e, he, rfl⟩ := map_eq_ok.1 h
    exact writesColumns_of_check hcall he d
  · intro key query es d v h hv
    exact Config.Relational.writesColumns_of_read hcall h hv
  · intro d hd s hs
    exact showsColumns_of_build hd.wellFormed hs

/-- A definition whose keys are distinct once they are trimmed. -/
theorem write_columns_of_definition :
    let columns : Entries := [(.text " name", .text "Ann"), (.text "age\t", .int 3)]
    let es : Entries := [(.text "name", .text "q"), (.text "type", .text "relational"),
      (.text "update", .map [(.text "table", .text "users"), (.text "values", .map columns)]),
      (.text "limit", .int 1)]
    ∃ d s, Config.Definition.read "queries[0]" (.map es) = .ok ⟨"q", .statement d⟩
      ∧ d.build = .ok s ∧ (d.assignments.map (·.1)).Nodup
      ∧ d.assignments = [("name", .text "Ann"), ("age", .int 3)]
      ∧ s.text = "UPDATE users SET name = ?, age = ? LIMIT 1"
      ∧ s.parameters = [.text "Ann", .int 3] := by
  intro columns es
  let d : Draft := {
    verb := .update
    table := "users"
    limit := some 1
    assignments := [("name", .text "Ann"), ("age", .int 3)] }
  have hread : Config.Definition.read "queries[0]" (.map es) = .ok ⟨"q", .statement d⟩ := by
    with_unfolding_all rfl
  have hbuild : d.build = .ok d.statement := rfl
  obtain ⟨-, hdefinition, -⟩ := write_columns .update
  obtain ⟨e, columns', hmap, hvalues, hwrites⟩ := hdefinition _ _ _ d _ hread rfl
  obtain rfl := Value.map.inj hmap
  obtain rfl : columns = columns' := Value.map.inj (Option.some.inj hvalues)
  refine ⟨d, _, hread, hbuild, hwrites.distinct.2 ?_, rfl, ?_, rfl⟩
  · decide +kernel
  · decide +kernel

/-- Two paddings of one name are two keys of a mapping, and the column is written twice. -/
theorem insert_of_padded_column :
    let name := Value.text "name"
    let padded := Value.text " name"
    ∃ d s, ({} : Draft).call (.insert (.text "users") (.map [(name, .text "Ann"),
        (padded, .text "Bob")])) = .ok d
      ∧ name.sameKey padded = false ∧ ¬(d.assignments.map (·.1)).Nodup ∧ d.build = .ok s
      ∧ s.text = "INSERT INTO users (name, name) VALUES (?, ?)"
      ∧ s.parameters = [.text "Ann", .text "Bob"] := by
  intro name padded
  let d : Draft := {
    verb := .insert
    table := "users"
    assignments := [("name", .text "Ann"), ("name", .text "Bob")] }
  have hcall : ({} : Draft).call (.insert (.text "users") (.map [(name, .text "Ann"),
      (padded, .text "Bob")])) = .ok d := by
    with_unfolding_all rfl
  refine ⟨d, d.statement, hcall, ?_, ?_, rfl, ?_, rfl⟩
  all_goals decide +kernel

end QueryDraft.Sql.Draft
