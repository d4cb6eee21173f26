import QueryDraft.Proofs.BuildRun
import QueryDraft.Proofs.QueryReport
import QueryDraft.Proofs.SearchDocument
import QueryDraft.Proofs.StatementDefinition

/-!
# Configurations whose reports can be written

A configuration of plain data has definitions of plain data, and what the reports on their queries
show is plain data again, with keys that the configuration passes on
(`Definition.exists_shows_of_read`). So text and JSON on a query that builds can be written exactly
when each key in those values can name a member, and a build reports on all definitions exactly when
each of them builds and can be written (`Plain.isMember_of_reported`, `Plain.exists_reported`). A
date is written where it is a value; as a key it is in the way.
-/

namespace QueryDraft

open Value (Data data_tuple_iff data_map_iff data_list_iff isScalar isMember)

variable {P : Value → Bool}

namespace Config

/-! ## What definitions show -/

namespace Relational

variable {es : Entries}

theorem data_operands {e : Entries} {c : Sql.Condition} (he : (Value.map e).Data P)
    (h : Describes e c) : ∀ v ∈ c.operands, v.Data P := by
  have hvalue : c.value.Data P := h.value ▸ (he.getOr "value" (.scalar rfl)).normalize
  cases hnull : c.operator.isNullCheck with
  | true => simp [h.nothing hnull]
  | false => cases hmulti : c.operator.isMultiValue with
    | true =>
      rw [h.members hmulti] at hvalue
      exact data_tuple_iff.1 hvalue
    | false =>
      rw [h.single hnull hmulti]
      exact List.forall_mem_singleton.2 hvalue

theorem data_listed (hes : (Value.map es).Data P) (name : String) :
    ∀ v ∈ listed es name, v.Data P := by
  unfold listed
  split
  · rename_i vs hvs
    exact data_list_iff.1 (hes.get? hvs)
  · simp

theorem data_columnValues {v : Value} (hv : v.Data P) : ∀ w ∈ columnValues v, w.Data P := by
  unfold columnValues
  split
  · split
    · rename_i columns hcolumns
      intro w hw
      obtain ⟨e, he, rfl⟩ := List.mem_map.1 hw
      exact (data_map_iff.1 (hv.get? hcolumns)).2 e he
    · simp
  · simp

theorem data_writtenValues (hes : (Value.map es).Data P) : ∀ w ∈ writtenValues es, w.Data P := by
  unfold writtenValues
  split
  · rename_i hv
    exact data_columnValues (hes.get? hv)
  · rename_i hv
    exact data_columnValues (hes.get? hv)
  · simp

/-- The statement of a definition of plain data has plain data for parameters. -/
theorem data_parameters_of_read {key name : String} {d : Sql.Draft} {s : Sql.Statement}
    (hes : (Value.map es).Data P) (h : Definition.read key (.map es) = .ok ⟨name, .statement d⟩)
    (hs : d.build = .ok s) : ∀ v ∈ s.parameters, v.Data P := by
  obtain ⟨as, has, rfl⟩ := edits_of_read h
  obtain ⟨hd, hwhere, hhaving, hvalues⟩ := draft_of_edits has
  have hrows := forall_mem_of_forall₂_of hwhere (data_listed hes "where") fun _ c hv hc => by
    obtain ⟨e, rfl, hdescribes, -⟩ := hc
    exact data_operands hv hdescribes
  have hgroups := forall_mem_of_forall₂_of hhaving (data_listed hes "having") fun _ c hv hc => by
    obtain ⟨e, rfl, hdescribes, -⟩ := hc
    exact data_operands hv hdescribes
  obtain rfl := Sql.Draft.eq_statement_of_build hd hs
  intro v hv
  have hparts : v ∈ writtenValues es
        ++ (as.foldl Sql.Draft.edit {}).conditions.flatMap Sql.Condition.operands
        ++ (as.foldl Sql.Draft.edit {}).having.flatMap Sql.Condition.operands := hvalues ▸ hv
  rw [List.mem_append, List.mem_append, List.mem_flatMap, List.mem_flatMap] at hparts
  rcases hparts with (hv | ⟨c, hc, hv⟩) | ⟨c, hc, hv⟩
  · exact data_writtenValues hes v hv
  · exact hrows c hc v hv
  · exact hgroups c hc v hv

end Relational

/-- The values that the reports on a definition show, if it can be built. -/
def Definition.Shows (d : Definition) (written : List Value) : Prop :=
  ∃ q note, d.draft.build = .ok (q, note) ∧ q.written = .ok written

/-- A definition of plain data that can be built shows plain data. -/
theorem Definition.exists_shows_of_read (hP : ∀ s, P (.text s)) {key : String} {v : Value}
    {d : Definition} {q : Query} {note : String} (hv : v.Data P) (h : Definition.read key v = .ok d)
    (hbuild : d.draft.build = .ok (q, note)) :
    ∃ written, q.written = .ok written ∧ ∀ w ∈ written, w.Data P := by
  obtain ⟨⟨⟨es, -, rfl, -, -⟩, -⟩, -⟩ := names_of_read h
  obtain ⟨name, statement | search⟩ := d
  · simp only [Draft.build, bind_eq_ok, pure_eq_ok, Prod.mk.injEq] at hbuild
    obtain ⟨s, hs, rfl, -⟩ := hbuild
    exact ⟨_, rfl, Relational.data_parameters_of_read hv h hs⟩
  · simp only [Draft.build, Except.ok.injEq, Prod.mk.injEq] at hbuild
    obtain ⟨rfl, -⟩ := hbuild
    obtain ⟨document, hdocument, hdata⟩ := Search.exists_document_of_read hP hv h
    exact ⟨[document], by rw [Query.written, hdocument, map_ok], List.forall_mem_singleton.2 hdata⟩

/-- The definitions of a configuration of plain data are made of plain data. -/
theorem Settings.exists_read_of_mem {root : Value} {s : Settings} (hroot : root.Data P)
    (h : Settings.read root = .ok s) :
    ∀ d ∈ s.definitions, ∃ key v, v.Data P ∧ Definition.read key v = .ok d := by
  obtain ⟨-, es, vs, rfl, hvs, hall⟩ := valid_of_read h
  have hdata : ∀ v ∈ vs.zipIdx, v.1.Data P := fun v hv =>
    data_list_iff.1 (hroot.get? hvs) v.1 (List.fst_mem_of_mem_zipIdx hv)
  exact forall_mem_of_forall₂_of hall hdata fun v d hv hread => ⟨_, v.1, hv, hread⟩

end Config

namespace Build

open Config (Settings Definition)

variable {s : Settings} {d : Definition} {written : List Value}

theorem exists_listed {α : Type} {output : Config.OutputSettings} {format : String}
    {o : Outcome α} :
    (∃ a, listed output format o = .ok a) ↔ (format ∈ output.formats → ∃ b, o = .ok b) := by
  unfold listed
  split_ifs with h
  · simp [exists_map_eq_ok, h]
  · simp [h]

/-- A definition is shown if its text need not be written or can be. -/
theorem exists_showOne (h : d.Shows written) (hdata : ∀ w ∈ written, w.Data isScalar) :
    (∃ x, showOne s d = .ok x)
      ↔ ("console" ∈ s.output.formats → ∀ w ∈ written, w.Data isMember) := by
  obtain ⟨q, note, hbuild, hwritten⟩ := h
  obtain ⟨r, hr⟩ := Analysis.exists_report q s.thresholds
  obtain ⟨item, hitem, -⟩ := Report.exists_data d.name hwritten r
  have hmember : (∀ w ∈ written, ∃ j, w.toJson = .ok j) ↔ ∀ w ∈ written, w.Data isMember :=
    forall₂_congr fun w hw => (hdata w hw).exists_toJson
  have hjson : ∃ v, listed s.output "json" (Report.data (.text d.name) q.toValue r.toValue)
      = .ok v := exists_listed.2 fun _ => ⟨item, hitem⟩
  obtain ⟨v, hv⟩ := hjson
  simp only [showOne, hbuild, hr, hv, ok_bind, exists_bind_eq_ok, pure_eq_ok, exists_eq', and_true,
    exists_listed, Report.exists_textBlock hwritten, hmember]

/-- The item of a definition for the JSON report is made of what the definition shows. -/
theorem data_item_iff (hP : ∀ s, P (.text s)) (h : d.Shows written) {x : Shown} {item : Value}
    (hx : showOne s d = .ok x) (hitem : x.item = some item) :
    item.Data P ↔ ∀ w ∈ written, w.Data P := by
  obtain ⟨q, note, hbuild, hwritten⟩ := h
  simp only [showOne, hbuild, ok_bind, bind_eq_ok, pure_eq_ok] at hx
  obtain ⟨r, -, block, -, item', hitem', rfl⟩ := hx
  obtain ⟨v, hv, hdata⟩ := Report.exists_data d.name hwritten r
  obtain rfl : item' = some item := hitem
  rw [hv, listed] at hitem'
  split_ifs at hitem'
  · obtain rfl := Option.some.inj (Except.ok.inj hitem')
    exact hdata P hP
  · simp at hitem'

/-- Definitions that show plain data as far as they can be built. -/
def Plain (s : Settings) : Prop := ∀ d ∈ s.definitions, ∀ q note, d.draft.build = .ok (q, note) →
  ∃ written, q.written = .ok written ∧ ∀ w ∈ written, w.Data isScalar

theorem Plain.exists_shows (hs : Plain s) (hd : d ∈ s.definitions) {x : Shown}
    (hx : showOne s d = .ok x) : ∃ written, d.Shows written ∧ ∀ w ∈ written, w.Data isScalar := by
  obtain ⟨⟨q, note⟩, hbuild, -⟩ := bind_eq_ok.1 hx
  obtain ⟨written, hwritten, hdata⟩ := hs d hd q note hbuild
  exact ⟨written, ⟨q, note, hbuild, hwritten⟩, hdata⟩

theorem ShownAll.exists_mem {all : List Shown} (hall : ShownAll s all) :
    ∀ d ∈ s.definitions, ∃ x ∈ all, showOne s d = .ok x :=
  forall_mem_of_forall₂_of hall.flip (fun _ => id) fun x _ hx h => ⟨x, hx, h⟩

/-- Every item of the JSON report is the item of a definition. -/
theorem ShownAll.exists_of_item {all : List Shown} (hall : ShownAll s all) {items : List Value}
    (hitems : all.map (·.item) = items.map some) :
    ∀ item ∈ items, ∃ d ∈ s.definitions, ∃ x, showOne s d = .ok x ∧ x.item = some item := by
  intro item hitem
  obtain ⟨x, hx, heq⟩ := List.mem_map.1 (hitems ▸ List.mem_map_of_mem hitem)
  have hshown : ∀ x ∈ all, ∃ d ∈ s.definitions, showOne s d = .ok x :=
    forall_mem_of_forall₂_of hall (fun _ => id) fun d _ hd h => ⟨d, hd, h⟩
  obtain ⟨d, hd, hdx⟩ := hshown x hx
  exact ⟨d, hd, x, hdx, heq⟩

/-- The JSON report can be written exactly when each of its items can. -/
theorem Plain.exists_jsonBlock (hs : Plain s) {all : List Shown} (hall : ShownAll s all)
    {items : List Value} (hitems : all.map (·.item) = items.map some) :
    (∃ text, (Value.list items).jsonBlock = .ok text) ↔ ∀ item ∈ items, item.Data isMember := by
  have hdata : ∀ item ∈ items, item.Data isScalar := by
    intro item hitem
    obtain ⟨d, hd, x, hshown, heq⟩ := hall.exists_of_item hitems item hitem
    obtain ⟨written, hshows, hwritten⟩ := hs.exists_shows hd hshown
    exact (data_item_iff (fun _ => rfl) hshows hshown heq).2 hwritten
  rw [Value.exists_jsonBlock, Value.exists_toJson_list]
  exact forall₂_congr fun item hitem => (hdata item hitem).exists_toJson

theorem json_mem_of_console_notMem (hvalid : s.Valid) (h : "console" ∉ s.output.formats) :
    "json" ∈ s.output.formats := by
  obtain ⟨f, hf⟩ := List.exists_mem_of_ne_nil _ hvalid.formats
  rcases List.mem_cons.1 (hvalid.known f hf) with rfl | hjson
  · exact absurd hf h
  · exact List.mem_singleton.1 hjson ▸ hf

/-- Some sink is listed, and each sink writes all that is shown. -/
theorem Plain.isMember_of_reported (hs : Plain s) (hvalid : s.Valid) {all : List Shown}
    {content : Option String} (h : reported s = .ok (all, content)) (hd : d ∈ s.definitions) :
    ∃ written, d.Shows written ∧ ∀ w ∈ written, w.Data isMember := by
  obtain ⟨hall, hcontent⟩ := reported_eq_ok.1 h
  obtain ⟨x, hx, hshown⟩ := hall.exists_mem d hd
  obtain ⟨written, hshows, hdata⟩ := hs.exists_shows hd hshown
  refine ⟨written, hshows, ?_⟩
  by_cases hconsole : "console" ∈ s.output.formats
  · exact (exists_showOne hshows hdata).1 ⟨x, hshown⟩ hconsole
  · have hjson := json_mem_of_console_notMem hvalid hconsole
    obtain ⟨items, hitems⟩ := exists_items hjson hall
    rw [filterMap_item hitems, listed, if_pos hjson, map_eq_ok] at hcontent
    obtain ⟨text, htext, -⟩ := hcontent
    have hmember := (hs.exists_jsonBlock hall hitems).1 ⟨text, htext⟩
    obtain ⟨item, hitem, heq⟩ := List.mem_map.1 (hitems ▸ List.mem_map_of_mem hx)
    exact (data_item_iff (fun _ => rfl) hshows hshown heq.symm).1 (hmember item hitem)

theorem Plain.exists_reported (hs : Plain s)
    (h : ∀ d ∈ s.definitions, ∃ written, d.Shows written ∧ ∀ w ∈ written, w.Data isMember) :
    ∃ shown, reported s = .ok shown := by
  have hshown : ∀ d ∈ s.definitions, ∃ x, showOne s d = .ok x := by
    intro d hd
    obtain ⟨written, hshows, hmember⟩ := h d hd
    have hdata : ∀ w ∈ written, w.Data isScalar := fun w hw =>
      (hmember w hw).mono fun _ => Value.isScalar_of_isMember
    exact (exists_showOne hshows hdata).2 fun _ => hmember
  obtain ⟨all, hall⟩ := exists_mapM_eq_ok.2 hshown
  replace hall : ShownAll s all := mapM_eq_ok.1 hall
  suffices hcontent : ∃ content,
      listed s.output "json" (Value.list (all.filterMap (·.item))).jsonBlock = .ok content by
    obtain ⟨content, hcontent⟩ := hcontent
    exact ⟨(all, content), reported_eq_ok.2 ⟨hall, hcontent⟩⟩
  refine exists_listed.2 fun hjson => ?_
  obtain ⟨items, hitems⟩ := exists_items hjson hall
  rw [filterMap_item hitems, hs.exists_jsonBlock hall hitems]
  intro item hitem
  obtain ⟨d, hd, x, hshown, heq⟩ := hall.exists_of_item hitems item hitem
  obtain ⟨written, hshows, hmember⟩ := h d hd
  exact (data_item_iff (fun _ => rfl) hshows hshown heq).2 hmember

theorem plain_of_read {root : Value} (hroot : root.Data isScalar)
    (h : Settings.read root = .ok s) : Plain s := by
  intro d hd q note hbuild
  obtain ⟨key, v, hv, hread⟩ := Settings.exists_read_of_mem hroot h d hd
  exact Definition.exists_shows_of_read (fun _ => rfl) hv hread hbuild

/-- A query that is built from an accepted configuration of plain data has a report, and text and
JSON on the two can be written exactly when each key in the values that they show can name a member;
a configuration without other keys has no other in them. All definitions are reported on exactly
when each of them can be built and written so. -/
theorem writable_of_read {root : Value} (hroot : root.Data isScalar)
    (h : Settings.read root = .ok s) :
    (∀ d ∈ s.definitions, ∀ q note, d.draft.build = .ok (q, note) →
      ∃ written r, q.written = .ok written
        ∧ Analysis.report q.toValue s.thresholds.toValue = .ok r
        ∧ ((∃ text, Report.textBlock (.text d.name) q.toValue r.toValue = .ok text)
          ↔ ∀ w ∈ written, w.Data isMember)
        ∧ ((∃ text, Report.jsonBlock (.text d.name) q.toValue r.toValue = .ok text)
          ↔ ∀ w ∈ written, w.Data isMember)
        ∧ (root.Data isMember → ∀ w ∈ written, w.Data isMember))
    ∧ ((∃ shown, reported s = .ok shown) ↔
      ∀ d ∈ s.definitions, ∃ written, d.Shows written ∧ ∀ w ∈ written, w.Data isMember) := by
  have hplain := plain_of_read hroot h
  obtain ⟨hvalid, -⟩ := Settings.valid_of_read h
  refine ⟨fun d hd q note hbuild => ?_, fun ⟨shown, hshown⟩ d hd =>
    hplain.isMember_of_reported hvalid hshown hd, hplain.exists_reported⟩
  obtain ⟨written, hwritten, hdata⟩ := hplain d hd q note hbuild
  obtain ⟨r, hr⟩ := Analysis.exists_report q s.thresholds
  obtain ⟨item, hitem, hiff⟩ := Report.exists_data d.name hwritten r
  refine ⟨written, r, hwritten, hr, ?_, ?_, fun hmember => ?_⟩
  · rw [Report.exists_textBlock hwritten]
    exact forall₂_congr fun w hw => (hdata w hw).exists_toJson
  · have hscalar : item.Data isScalar := (hiff _ fun _ => rfl).2 hdata
    rw [Report.jsonBlock, hitem, ok_bind, Value.exists_jsonBlock, hscalar.exists_toJson]
    exact hiff _ fun _ => rfl
  · obtain ⟨key, v, hv, hread⟩ := Settings.exists_read_of_mem hmember h d hd
    obtain ⟨written', hwritten', hdata'⟩ :=
      Definition.exists_shows_of_read (fun _ => rfl) hv hread hbuild
    exact Except.ok.inj (hwritten'.symm.trans hwritten) ▸ hdata'

/-- A day that is a value of a mapping is written, next to a key that is a number. -/
theorem writable_of_read_day :
    let day : Value := .date ⟨2024, 1, 2⟩
    let row : Value := .map [(.text "field", .text "at"), (.text "value", .map [(.int 1, day)])]
    let root : Value := .map [(.text "queries", .list [.map [(.text "name", .text "q"),
      (.text "type", .text "relational"), (.text "select", .text "id"), (.text "from", .text "t"),
      (.text "where", .list [row])]])]
    ∃ s q note r text json shown, Settings.read root = .ok s
      ∧ (∃ d ∈ s.definitions, d.draft.build = .ok (q, note))
      ∧ Analysis.report q.toValue s.thresholds.toValue = .ok r
      ∧ Report.textBlock (.text "q") q.toValue r.toValue = .ok text
      ∧ Report.jsonBlock (.text "q") q.toValue r.toValue = .ok json
      ∧ reported s = .ok shown := by
  intro day row root
  let draft : Sql.Draft := { projection := ["id"], table := "t", conditions :=
    [⟨"at", .eq, .map [(.int 1, day)], .and⟩] }
  let d : Definition := ⟨"q", .statement draft⟩
  let s : Settings := { log := {}, output := {}, thresholds := {}, definitions := [d] }
  have hread : Settings.read root = .ok s := by with_unfolding_all rfl
  have hbuild : d.draft.build = .ok (.statement draft.statement, draft.buildNote draft.statement) :=
    rfl
  have hroot : ∀ {P : Value → Bool}, (∀ t, P (.text t)) → P (.int 1) → root.Data P := by
    intro P htext hint
    have hday : day.Data P := .scalar rfl
    have hscalar : ∀ t, (Value.text t).Data P := fun _ => .scalar rfl
    simp [root, row, htext, hint, hscalar, hday]
  obtain ⟨hall, hreported⟩ := writable_of_read (hroot (fun _ => rfl) rfl) hread
  obtain ⟨written, r, hwritten, hr, htext, hjson, hmember⟩ :=
    hall d (List.mem_singleton_self d) _ _ hbuild
  have hdata := hmember (hroot (fun _ => rfl) rfl)
  obtain ⟨text, htext⟩ := htext.2 hdata
  obtain ⟨json, hjson⟩ := hjson.2 hdata
  obtain ⟨shown, hshown⟩ := hreported.2 (List.forall_mem_singleton.2
    ⟨written, ⟨_, _, hbuild, hwritten⟩, hdata⟩)
  exact ⟨s, _, _, r, text, json, shown, hread, ⟨d, List.mem_singleton_self d, hbuild⟩, hr, htext,
    hjson, hshown⟩

/-- A day that is a key of a mapping is in the way of text and JSON, though the query is built. -/
theorem unwritable_of_day_as_key :
    let day : Value := .date ⟨2024, 1, 2⟩
    let row : Value := .map [(.text "field", .text "at"), (.text "value", .map [(day, .int 1)])]
    let root : Value := .map [(.text "queries", .list [.map [(.text "name", .text "q"),
      (.text "type", .text "relational"), (.text "select", .text "id"), (.text "from", .text "t"),
      (.text "where", .list [row])]])]
    ∃ s q note r, Settings.read root = .ok s
      ∧ (∃ d ∈ s.definitions, d.draft.build = .ok (q, note))
      ∧ Analysis.report q.toValue s.thresholds.toValue = .ok r
      ∧ Report.textBlock (.text "q") q.toValue r.toValue = fail (.unwritableKey "date")
      ∧ Report.jsonBlock (.text "q") q.toValue r.toValue = fail (.unwritableKey "date")
      ∧ reported s = fail (.unwritableKey "date") := by
  intro day row root
  let draft : Sql.Draft := { projection := ["id"], table := "t", conditions :=
    [⟨"at", .eq, .map [(day, .int 1)], .and⟩] }
  let d : Definition := ⟨"q", .statement draft⟩
  let s : Settings := { log := {}, output := {}, thresholds := {}, definitions := [d] }
  have hread : Settings.read root = .ok s := by with_unfolding_all rfl
  let q : Query := .statement draft.statement
  have hbuild : d.draft.build = .ok (q, draft.buildNote draft.statement) := rfl
  obtain ⟨r, hr⟩ := Analysis.exists_report q s.thresholds
  have htext : Report.textBlock (.text "q") q.toValue r.toValue = fail (.unwritableKey "date") := by
    with_unfolding_all rfl
  have hjson : Report.jsonBlock (.text "q") q.toValue r.toValue = fail (.unwritableKey "date") := by
    with_unfolding_all rfl
  have hshown : showOne s d = fail (.unwritableKey "date") := by
    have hlisted : listed s.output "console" (Report.textBlock (.text d.name) q.toValue r.toValue)
        = some <$> Report.textBlock (.text "q") q.toValue r.toValue := if_pos (by decide)
    simp only [showOne, hbuild, hr, hlisted, htext, ok_bind]
    rfl
  refine ⟨s, q, _, r, hread, ⟨d, List.mem_singleton_self d, hbuild⟩, hr, htext, hjson, ?_⟩
  rw [reported, List.mapM_cons, hshown]
  rfl

end Build

end QueryDraft
