import QueryDraft.Proofs.Outside
import QueryDraft.Proofs.SettingsRead

/-!
# All of a build or nothing

What a build shows of a definition is computed from the definition alone (`showOne`), and what it
shows of all of them by one after another (`reported`). The plan of a build does what was computed
(`Plan.Performs`): as long as nothing is at fault it logs and collects, and a fault stops it with
nothing done but logging. So the file is written after everything else has succeeded, or not at all.
-/

namespace QueryDraft

open Log (Logger Record)

/-- Records below the level of failures. -/
def Log.Quiet (rs : List Record) : Prop := ∀ r ∈ rs, r.level < Log.Level.error

open Log (Quiet)

@[simp] theorem Log.quiet_nil : Quiet [] := by simp [Quiet]

@[simp] theorem Log.quiet_cons {r : Record} {rs : List Record} :
    Quiet (r :: rs) ↔ r.level < Log.Level.error ∧ Quiet rs := by
  simp [Quiet]

@[simp] theorem Log.level_debug_lt (message : String) :
    (Record.debug message).level < Log.Level.error := by
  show Log.Level.debug < Log.Level.error
  decide

@[simp] theorem Log.level_info_lt (message : String) :
    (Record.info message).level < Log.Level.error := by
  show Log.Level.info < Log.Level.error
  decide

theorem Log.Quiet.append {rs rs' : List Record} (h : Quiet rs) (h' : Quiet rs') :
    Quiet (rs ++ rs') := by
  intro r hr
  rcases List.mem_append.1 hr with hr | hr
  · exact h r hr
  · exact h' r hr

theorem Log.quiet_map_info (messages : List String) : Quiet (messages.map Record.info) := by
  intro r hr
  obtain ⟨m, -, rfl⟩ := List.mem_map.1 hr
  exact level_info_lt m

/-! ## Plans that do what was computed -/

/-- Records for the log and results for the JSON report, or a fault. -/
abbrev Shows := Outcome (List Record × List Value)

/-- What is shown one after another. -/
def Shows.andThen (x y : Shows) : Shows := do
  let (rs, items) ← x
  let (rs', items') ← y
  return (rs ++ rs', items ++ items')

namespace Plan

/-- A plan that does what was computed. With a fault it stops, having logged at most. -/
def Performs (p : Plan) : Shows → Prop
  | .ok (rs, items) => Quiet rs ∧ p = ⟨rs.map .log, items, none⟩
  | .error e => p.fault = some e ∧ ∃ rs, Quiet rs ∧ p.steps = rs.map .log

theorem andThen_nil (p : Plan) : p.andThen {} = p := by
  obtain ⟨steps, results, fault⟩ := p
  cases fault <;> simp [andThen]

theorem Performs.of_eq {p : Plan} {x y : Shows} (h : p.Performs x) (hxy : x = y) :
    p.Performs y := hxy ▸ h

theorem performs_nil : Performs {} (.ok ([], [])) := ⟨Log.quiet_nil, rfl⟩

theorem performs_logging {rs : List Record} (h : Quiet rs) :
    (logging rs).Performs (.ok (rs, [])) := ⟨h, rfl⟩

theorem performs_error (e : Error) : (ofOutcome (.error e)).Performs (.error e) :=
  ⟨rfl, [], Log.quiet_nil, rfl⟩

theorem performs_ofOutcome {α : Type} {o : Outcome α} {f : α → Plan}
    {g : α → List Record × List Value} (h : ∀ a, (f a).Performs (.ok (g a))) :
    (ofOutcome (o >>= fun a => pure (f a))).Performs (g <$> o) := by
  cases o with
  | error e => exact performs_error e
  | ok a => exact h a

theorem Performs.andThen {p q : Plan} {x y : Shows} (hp : p.Performs x) (hq : q.Performs y) :
    (p.andThen q).Performs (x.andThen y) := by
  cases x with
  | error e =>
    have hpq : p.andThen q = p := by simp [Plan.andThen, hp.1]
    rw [hpq]
    exact hp
  | ok shown =>
    obtain ⟨rs, items⟩ := shown
    obtain ⟨hrs, rfl⟩ := hp
    cases y with
    | error e =>
      obtain ⟨hfault, rs', hrs', hsteps⟩ := hq
      exact ⟨hfault, rs ++ rs', hrs.append hrs', by simp [Plan.andThen, hsteps]⟩
    | ok shown' =>
      obtain ⟨rs', items'⟩ := shown'
      obtain ⟨hrs', rfl⟩ := hq
      exact ⟨hrs.append hrs', by simp [Plan.andThen]⟩

end Plan

namespace Build

/-! ## What is computed -/

/-- What a build shows of a definition: its query, the note on it, the report on the query, and what
the sinks that are listed make of these. -/
structure Shown where
  definition : Config.Definition
  query : Query
  note : String
  report : Analysis.Report
  block : Option String
  item : Option Value

/-- What is computed for a format, if it is listed. -/
def listed {α : Type} (s : Config.OutputSettings) (format : String) (o : Outcome α) :
    Outcome (Option α) :=
  if format ∈ s.formats then some <$> o else .ok none

/-- Builds a definition, analyses it by the limits of the settings and renders it for the formats
that are listed. -/
def showOne (s : Config.Settings) (d : Config.Definition) : Outcome Shown := do
  let (q, note) ← d.draft.build
  let r ← Analysis.report q.toValue s.thresholds.toValue
  let block ← listed s.output "console" (Report.textBlock (.text d.name) q.toValue r.toValue)
  let item ← listed s.output "json" (Report.data (.text d.name) q.toValue r.toValue)
  return ⟨d, q, note, r, block, item⟩

/-- What is shown of the definitions, one by one and in their order. -/
def ShownAll (s : Config.Settings) (all : List Shown) : Prop :=
  List.Forall₂ (fun d x => showOne s d = .ok x) s.definitions all

/-- What is shown of all definitions, and the JSON report on them if it is listed. -/
def reported (s : Config.Settings) : Outcome (List Shown × Option String) := do
  let all ← s.definitions.mapM (showOne s)
  let content ← listed s.output "json" (Value.list (all.filterMap (·.item))).jsonBlock
  return (all, content)

/-- The records before a definition is built, the `index`-th of all. -/
def opening (total index : Nat) (d : Config.Definition) : List Record :=
  .debug ("Building query " ++ counted index total ++ " name=" ++ d.name ++ " type="
      ++ d.draft.kind) ::
    if 1 < total then [.info ("=== Query " ++ counted index total ++ " ===")] else []

namespace Shown

/-- The records on a built definition and its report. -/
def rated (x : Shown) : List Record :=
  [.debug x.note, .info ("name=" ++ x.definition.name ++ " rating=" ++ x.report.rating.text
    ++ " notes=" ++ toString x.report.notes.length)]

/-- The lines on the console. -/
def printed (x : Shown) : List Record := (x.block.toList.flatMap Text.lines).map .info

/-- All records on a definition, the `index`-th of all. -/
def records (total index : Nat) (x : Shown) : List Record :=
  opening total index x.definition ++ (x.rated ++ x.printed)

end Shown

/-- The records on definitions; `index` is the place of the first. -/
def recordsFrom (total index : Nat) (all : List Shown) : List Record :=
  (all.zipIdx index).flatMap fun (x, index) => x.records total index

/-! ## What the plan does -/

variable {s : Config.Settings}

theorem quiet_opening (total index : Nat) (d : Config.Definition) :
    Quiet (opening total index d) := by
  unfold opening
  split_ifs <;> simp

theorem performs_sinks (s : Config.Settings) (name q r : Value) :
    (Plan.sequence ((Sink.listed s.output).map (Sink.report name q r))).Performs (do
      let block ← listed s.output "console" (Report.textBlock name q r)
      let item ← listed s.output "json" (Report.data name q r)
      return ((block.toList.flatMap Text.lines).map .info, item.toList)) := by
  have hconsole : (Sink.report name q r .console).Performs
      ((fun block => ((Text.lines block).map .info, [])) <$> Report.textBlock name q r) :=
    Plan.performs_ofOutcome fun block => Plan.performs_logging (Log.quiet_map_info _)
  have hjson : (Sink.report name q r (.jsonFile s.output.baseDir.plain)).Performs
      ((fun item => ([], [item])) <$> Report.data name q r) :=
    Plan.performs_ofOutcome fun item => ⟨Log.quiet_nil, rfl⟩
  simp only [Sink.listed, listed]
  -- with both sinks the console comes first, so its fault is the one that counts
  by_cases hc : "console" ∈ s.output.formats <;> by_cases hj : "json" ∈ s.output.formats <;>
    simp only [hc, hj, if_true, if_false]
  · refine (hconsole.andThen (hjson.andThen Plan.performs_nil)).of_eq ?_
    cases Report.textBlock name q r <;> cases Report.data name q r <;> simp [Shows.andThen]
  · refine (hconsole.andThen Plan.performs_nil).of_eq ?_
    cases Report.textBlock name q r <;> simp [Shows.andThen]
  · refine (hjson.andThen Plan.performs_nil).of_eq ?_
    cases Report.data name q r <;> rfl
  · exact Plan.performs_nil

theorem performs_define (s : Config.Settings) (total index : Nat) (d : Config.Definition) :
    (define (Sink.listed s.output) s.thresholds total index d).Performs
      ((fun x => (x.records total index, x.item.toList)) <$> showOne s d) := by
  have hopening := Plan.performs_logging (quiet_opening total index d)
  -- the opening is logged in any case, what follows as far as it could be computed
  cases hbuild : d.draft.build with
  | error e =>
    rw [define, showOne, hbuild]
    exact hopening.andThen (Plan.performs_error e)
  | ok built =>
    obtain ⟨q, note⟩ := built
    cases hreport : Analysis.report q.toValue s.thresholds.toValue with
    | error e =>
      rw [define, showOne, hbuild]
      simp only [ok_bind, hreport]
      exact hopening.andThen (Plan.performs_error e)
    | ok r =>
      rw [define, showOne, hbuild]
      simp only [ok_bind, hreport]
      have hrated : Quiet [.debug note, .info ("name=" ++ d.name ++ " rating=" ++ r.rating.text
          ++ " notes=" ++ toString r.notes.length)] := by
        simp
      refine (hopening.andThen ((Plan.performs_logging hrated).andThen
        (performs_sinks s (.text d.name) q.toValue r.toValue))).of_eq ?_
      cases listed s.output "console" (Report.textBlock (.text d.name) q.toValue r.toValue) <;>
        cases listed s.output "json" (Report.data (.text d.name) q.toValue r.toValue) <;> rfl

theorem performs_defineAll (s : Config.Settings) (total : Nat) : ∀ (index : Nat)
    (ds : List Config.Definition),
    (defineAll (Sink.listed s.output) s.thresholds total index ds).Performs
      ((fun all => (recordsFrom total index all, all.filterMap (·.item))) <$> ds.mapM (showOne s))
  | _, [] => Plan.performs_nil
  | index, d :: ds => by
    refine ((performs_define s total index d).andThen
      (performs_defineAll s total (index + 1) ds)).of_eq ?_
    rw [List.mapM_cons]
    cases showOne s d with
    | error e => rfl
    | ok x => cases ds.mapM (showOne s) with
      | error e => rfl
      | ok all => cases hx : x.item <;> simp [Shows.andThen, recordsFrom, hx]

/-- The directory of JSON reports. -/
def jsonDir (s : Config.Settings) : Path := (Path.ofText s.output.baseDir.plain).child "json"

/-- The file of the JSON report of an action that is run at a time. -/
def jsonFile (s : Config.Settings) (action stamp : String) : Path :=
  (jsonDir s).child (action ++ "_" ++ stamp ++ ".json")

/-- The steps that save a JSON report. -/
def saving (s : Config.Settings) (action stamp content : String) : List Step :=
  [.save (jsonDir s).text (jsonFile s action stamp).text content,
    .log (.info ("JSON saved to " ++ (jsonFile s action stamp).text))]

/-- Finishing the sinks that are listed writes the JSON report if there is to be one. -/
theorem sequence_finish (s : Config.Settings) (action stamp : String) (results : List Value) :
    Plan.sequence ((Sink.listed s.output).map (Sink.finish action stamp results))
      = .ofOutcome ((fun content => { steps := content.toList.flatMap (saving s action stamp) })
        <$> listed s.output "json" (Value.list results).jsonBlock) := by
  have hjson : (Sink.finish action stamp results (.jsonFile s.output.baseDir.plain)).andThen {}
      = .ofOutcome ((fun content => { steps := saving s action stamp content })
        <$> (Value.list results).jsonBlock) := by
    rw [Plan.andThen_nil, Sink.finish]
    cases (Value.list results).jsonBlock <;> rfl
  simp only [Sink.listed, listed]
  split_ifs
  · refine hjson.trans ?_
    cases (Value.list results).jsonBlock <;> simp
  · rfl
  · refine hjson.trans ?_
    cases (Value.list results).jsonBlock <;> simp
  · rfl

/-- The plan of accepted settings: the definitions one after another, then the report. -/
theorem plan_eq {s : Config.Settings} (hs : s.Valid) (action stamp : String) :
    plan s action stamp = finishAll (Sink.listed s.output) action stamp
      (defineAll (Sink.listed s.output) s.thresholds s.definitions.length 1 s.definitions) := by
  rw [plan, Sink.ofSettings_eq hs]
  rfl

theorem plan_of_error {s : Config.Settings} (hs : s.Valid) (action : String) {e : Error}
    (h : reported s = .error e) :
    ∃ rs, Quiet rs ∧ ∀ stamp, (plan s action stamp).fault = some e
      ∧ (plan s action stamp).steps = rs.map .log := by
  have hbuilt := performs_defineAll s s.definitions.length 1 s.definitions
  simp only [plan_eq hs, finishAll, sequence_finish]
  rw [reported] at h
  cases hall : s.definitions.mapM (showOne s) with
  | error e' =>
    -- the sinks are not finished
    rw [hall] at h hbuilt
    obtain rfl := Except.error.inj h
    obtain ⟨hfault, rs, hquiet, hsteps⟩ := hbuilt
    refine ⟨rs, hquiet, fun stamp => ?_⟩
    rw [Plan.andThen, if_pos (by rw [hfault]; rfl)]
    exact ⟨hfault, hsteps⟩
  | ok all =>
    rw [hall] at h hbuilt
    obtain ⟨hquiet, hplan⟩ := hbuilt
    rw [hplan]
    cases hcontent : listed s.output "json" (Value.list (all.filterMap (·.item))).jsonBlock with
    | error e' =>
      -- the items cannot be written, and there is no step that saves them
      obtain rfl : e' = e := by simpa [hcontent] using h
      exact ⟨_, hquiet, fun stamp => ⟨rfl, by simp [Plan.andThen, Plan.ofOutcome]⟩⟩
    | ok content => simp [hcontent] at h

theorem plan_of_ok {s : Config.Settings} (hs : s.Valid) (action stamp : String)
    {all : List Shown} {content : Option String} (h : reported s = .ok (all, content)) :
    (plan s action stamp).fault = none
      ∧ (plan s action stamp).steps = (recordsFrom s.definitions.length 1 all).map .log
        ++ content.toList.flatMap (saving s action stamp) := by
  simp only [reported, bind_eq_ok, pure_eq_ok] at h
  obtain ⟨all, hall, content, hcontent, heq⟩ := h
  obtain ⟨rfl, rfl⟩ := Prod.mk.inj heq
  have hbuilt := performs_defineAll s s.definitions.length 1 s.definitions
  rw [hall] at hbuilt
  obtain ⟨-, hplan⟩ := hbuilt
  rw [plan_eq hs, finishAll, sequence_finish, hplan, hcontent]
  simp [Plan.andThen, Plan.ofOutcome]

/-! ## What the run does -/

variable {o : Outside}

theorem run_abort (l : Logger) (e : Error) (done : List Event) :
    (abort o.host l e).run done
      = (.aborted, done ++ o.lines l done (.error ("Build failed: " ++ e.text))) := by
  rw [abort, Outside.run_bind (Outside.run_log l _ done)]
  rfl

/-- A run whose log is set up performs its plan. It ends there, or logs the fault of the plan. -/
theorem run_eq_of_perform (ho : o.Succeeds) (l : Logger) (s : Config.Settings) (action : String)
    (done done' : List Event) :
    let l' := l.install (setup s.log action) (o.logStamp done)
    let start := done ++ (setup s.log action).events (o.logStamp done)
    let p := plan s action (o.reportStamp start)
    (perform o.host l' p.steps).run start = (.ok (), done') →
      (run o.host l s action).run done = match p.fault with
        | none => (.finished, done')
        | some e =>
          (.aborted, done' ++ o.lines l' done' (.error ("Build failed: " ++ e.text))) := by
  intro l' start p h
  rw [run, Outside.run_bind (Outside.run_configure ho l (setup s.log action) done)]
  have hstamp : ∀ done, o.host.reportStamp.run done = (o.reportStamp done, done) := fun _ => rfl
  simp only
  rw [Outside.run_bind (hstamp _), Outside.run_bind h]
  cases p.fault with
  | none => rfl
  | some e => exact run_abort _ e done'

theorem run_of_perform (ho : o.Succeeds) (l : Logger) (s : Config.Settings) (action : String)
    (done : List Event) :
    ∃ stamp, ∀ done',
      (perform o.host (l.install (setup s.log action) (o.logStamp done))
        (plan s action stamp).steps).run (done ++ (setup s.log action).events (o.logStamp done))
          = (.ok (), done') →
        (run o.host l s action).run done = match (plan s action stamp).fault with
          | none => (.finished, done')
          | some e => (.aborted, done' ++ o.lines (l.install (setup s.log action) (o.logStamp done))
            done' (.error ("Build failed: " ++ e.text))) :=
  ⟨_, fun done' h => run_eq_of_perform ho l s action done done' h⟩

theorem perform_of_error (hs : s.Valid) (action stamp : String) {e : Error}
    (h : reported s = .error e) (l : Logger) (done : List Event) :
    (plan s action stamp).fault = some e ∧ ∃ rs, Quiet rs
      ∧ (perform o.host l (plan s action stamp).steps).run done
        = (.ok (), done ++ o.logged l done rs) := by
  obtain ⟨rs, hquiet, htimes⟩ := plan_of_error hs action h
  obtain ⟨hfault, hsteps⟩ := htimes stamp
  refine ⟨hfault, rs, hquiet, ?_⟩
  rw [hsteps, ← List.append_nil (rs.map _), Outside.run_perform_logs]
  rfl

theorem perform_of_none (hs : s.Valid) (action stamp : String) {all : List Shown}
    (h : reported s = .ok (all, none)) (l : Logger) (done : List Event) :
    (plan s action stamp).fault = none
      ∧ (perform o.host l (plan s action stamp).steps).run done
        = (.ok (), done ++ o.logged l done (recordsFrom s.definitions.length 1 all)) := by
  obtain ⟨hfault, hsteps⟩ := plan_of_ok hs action stamp h
  refine ⟨hfault, ?_⟩
  rw [hsteps, Outside.run_perform_logs]
  rfl

theorem perform_of_some (ho : o.Succeeds) (hs : s.Valid) (action stamp : String)
    {all : List Shown} {text : String} (h : reported s = .ok (all, some text)) (l : Logger)
    (done : List Event) :
    let file := (jsonFile s action stamp).text
    let saved := done ++ o.logged l done (recordsFrom s.definitions.length 1 all)
      ++ [.directory (jsonDir s).text, .written file text]
    (plan s action stamp).fault = none
      ∧ (perform o.host l (plan s action stamp).steps).run done
        = (.ok (), saved ++ o.logged l saved [.info ("JSON saved to " ++ file)]) := by
  intro file saved
  obtain ⟨hfault, hsteps⟩ := plan_of_ok hs action stamp h
  refine ⟨hfault, ?_⟩
  rw [hsteps, Outside.run_perform_logs]
  show (perform o.host l (.save _ _ text :: ([Record.info _].map .log ++ []))).run _ = _
  rw [Outside.run_perform_save ho, Outside.run_perform_logs]
  rfl

theorem reported_eq_ok {all : List Shown} {content : Option String} :
    reported s = .ok (all, content) ↔
      ShownAll s all
        ∧ listed s.output "json" (Value.list (all.filterMap (·.item))).jsonBlock = .ok content := by
  simp only [reported, bind_eq_ok, pure_eq_ok, mapM_eq_ok, Prod.mk.injEq]
  constructor
  · rintro ⟨all, hall, content, hcontent, rfl, rfl⟩
    exact ⟨hall, hcontent⟩
  · rintro ⟨hall, hcontent⟩
    exact ⟨all, hall, content, hcontent, rfl, rfl⟩

/-- Where the JSON report is listed, every definition that is shown has its item. -/
theorem exists_items (hjson : "json" ∈ s.output.formats) {all : List Shown}
    (hall : ShownAll s all) :
    ∃ items : List Value, all.map (·.item) = items.map some := by
  have hitems : ∀ x ∈ all, x.item.isSome := forall_mem_of_forall₂ hall fun d x hx => by
    simp only [showOne, listed, hjson, if_true, bind_eq_ok, pure_eq_ok] at hx
    obtain ⟨built, -, r, -, block, -, item, hitem, rfl⟩ := hx
    cases hdata : Report.data (.text d.name) built.1.toValue r.toValue with
    | error e => simp [hdata] at hitem
    | ok v =>
      obtain rfl : some v = item := by simpa [hdata] using hitem
      rfl
  clear hall
  induction all with
  | nil => exact ⟨[], rfl⟩
  | cons x all ih =>
    obtain ⟨item, hitem⟩ := Option.isSome_iff_exists.1 (hitems x (List.mem_cons_self ..))
    obtain ⟨items, h⟩ := ih fun y hy => hitems y (List.mem_cons_of_mem _ hy)
    exact ⟨item :: items, by simp [hitem, h]⟩

theorem filterMap_item {all : List Shown} {items : List Value}
    (h : all.map (·.item) = items.map some) : all.filterMap (·.item) = items := by
  have hid : all.filterMap (·.item) = (all.map (·.item)).filterMap id := by
    simp [List.filterMap_map]
  rw [hid, h]
  simp [List.filterMap_map]

/-- A definition that fails, or items that cannot be written, are a fault of the whole. -/
theorem exists_fault_of_reported
    (h : (∃ d ∈ s.definitions, ∃ e, showOne s d = .error e)
      ∨ ("json" ∈ s.output.formats ∧ ∃ all, ∃ items : List Value, ∃ e, ShownAll s all
        ∧ all.map (·.item) = items.map some ∧ (Value.list items).jsonBlock = .error e)) :
    ∃ e, reported s = .error e := by
  cases hreported : reported s with
  | error e => exact ⟨e, rfl⟩
  | ok shown =>
    obtain ⟨all, content⟩ := shown
    obtain ⟨hall, hcontent⟩ := reported_eq_ok.1 hreported
    rcases h with ⟨d, hd, e, he⟩ | ⟨hjson, all', items, e, hall', hitems, he⟩
    · have hshown : ∀ d ∈ s.definitions, ∃ x, showOne s d = .ok x :=
        forall_mem_of_forall₂ hall.flip fun x _ hx => ⟨x, hx⟩
      obtain ⟨x, hx⟩ := hshown d hd
      exact absurd (he.symm.trans hx) nofun
    · obtain rfl : all = all' :=
        Except.ok.inj ((mapM_eq_ok.2 hall).symm.trans (mapM_eq_ok.2 hall'))
      rw [filterMap_item hitems, listed, if_pos hjson, he] at hcontent
      exact absurd hcontent nofun

/-- A build of accepted settings, where operations on files succeed, does all or nothing. If a
definition cannot be built, analysed or rendered, or the items cannot be written as JSON, the build
is aborted; it has added lines to the log and nothing else, the last of them for its one failure.
Otherwise the build is finished; it has logged what it shows of each definition, in their order, and
has then written one file with the items of all definitions in the same order, if that is listed. -/
theorem run_all_or_nothing {o : Outside} (ho : o.Succeeds) {root : Value} {s : Config.Settings}
    (hs : Config.Settings.read root = .ok s) (l : Logger) (action : String) (done : List Event) :
    let l' := l.install (setup s.log action) (o.logStamp done)
    let start := done ++ (setup s.log action).events (o.logStamp done)
    ((∃ d ∈ s.definitions, ∃ e, showOne s d = .error e)
        ∨ ("json" ∈ s.output.formats ∧ ∃ all, ∃ items : List Value, ∃ e,
          ShownAll s all
            ∧ all.map (·.item) = items.map some ∧ (Value.list items).jsonBlock = .error e) →
      ∃ e rs added, reported s = .error e ∧ Quiet rs
        ∧ added = o.logged l' start (rs ++ [.error ("Build failed: " ++ e.text)])
        ∧ (∀ x ∈ added, x.isLine)
        ∧ (run o.host l s action).run done = (.aborted, start ++ added))
    ∧ ∀ all, ShownAll s all →
      let shown := start ++ o.logged l' start (recordsFrom s.definitions.length 1 all)
      ("json" ∉ s.output.formats → (run o.host l s action).run done = (.finished, shown))
      ∧ ("json" ∈ s.output.formats → ∃ items : List Value, all.map (·.item) = items.map some
        ∧ ∀ text, (Value.list items).jsonBlock = .ok text → ∃ stamp,
          let file := (jsonFile s action stamp).text
          let saved := shown ++ [.directory (jsonDir s).text, .written file text]
          (run o.host l s action).run done
            = (.finished, saved ++ o.logged l' saved [.info ("JSON saved to " ++ file)])) := by
  intro l' start
  obtain ⟨hvalid, -⟩ := Config.Settings.valid_of_read hs
  obtain ⟨stamp, hrun⟩ := run_of_perform ho l s action done
  refine ⟨fun hfails => ?_, fun all hall => ⟨fun hjson => ?_, fun hjson => ?_⟩⟩
  · obtain ⟨e, he⟩ := exists_fault_of_reported hfails
    obtain ⟨hfault, rs, hquiet, hperform⟩ := perform_of_error hvalid action stamp he l' start
    refine ⟨e, rs, _, he, hquiet, rfl, fun x hx => Outside.isLine_of_mem_logged o l' x hx, ?_⟩
    rw [hrun _ hperform, hfault, Outside.logged_concat, ← List.append_assoc]
  · have hreported : reported s = .ok (all, none) := reported_eq_ok.2 ⟨hall, if_neg hjson⟩
    obtain ⟨hfault, hperform⟩ := perform_of_none hvalid action stamp hreported l' start
    rw [hrun _ hperform, hfault]
  · obtain ⟨items, hitems⟩ := exists_items hjson hall
    refine ⟨items, hitems, fun text htext => ⟨stamp, ?_⟩⟩
    have hreported : reported s = .ok (all, some text) := by
      rw [reported_eq_ok, filterMap_item hitems, listed, if_pos hjson, htext]
      exact ⟨hall, rfl⟩
    obtain ⟨hfault, hperform⟩ := perform_of_some ho hvalid action stamp hreported l' start
    rw [hrun _ hperform, hfault]

/-- Of two definitions the second has no table: the build is aborted and has only logged. Without it
the report on the first is written. -/
theorem run_all_or_nothing_of_missing_table :
    let o : Outside := {
      programName := "cli", isDirectory := fun _ _ => .ok false
      read := fun _ path => .error (.missingFile path), fault? := fun _ _ => none
      lineStart := fun _ => "", logStamp := fun _ => "0101", reportStamp := fun _ => "2000" }
    let all : Value := .map [(.text "name", .text "all"), (.text "type", .text "search")]
    let broken : Value := .map [(.text "name", .text "broken"), (.text "type", .text "relational"),
      (.text "select", .text "id")]
    let root (queries : List Value) : Value := .map [
      (.text "output", .map [(.text "formats", .text "json")]), (.text "queries", .list queries)]
    ∃ s s', Config.Settings.read (root [all, broken]) = .ok s
      ∧ Config.Settings.read (root [all]) = .ok s'
      ∧ (∃ added, (run o.host {} s "build").run [] = (.aborted, added) ∧ ∀ x ∈ added, x.isLine)
      ∧ ∃ events file text, (run o.host {} s' "build").run [] = (.finished, events)
        ∧ .written file text ∈ events := by
  intro o all broken root
  let search : Config.Definition := ⟨"all", .search {}⟩
  let statement : Config.Definition := ⟨"broken", .statement { projection := ["id"] }⟩
  let settings (definitions : List Config.Definition) : Config.Settings := {
    log := {}, output := { formats := ["json"] }, thresholds := {}, definitions := definitions }
  have ho : o.Succeeds := fun _ _ => rfl
  have hread : Config.Settings.read (root [all, broken]) = .ok (settings [search, statement]) := by
    with_unfolding_all rfl
  have hread' : Config.Settings.read (root [all]) = .ok (settings [search]) := by
    with_unfolding_all rfl
  refine ⟨_, _, hread, hread', ?_, ?_⟩
  · have hbroken : ∃ e, showOne (settings [search, statement]) statement = .error e :=
      ⟨_, by with_unfolding_all rfl⟩
    obtain ⟨-, -, added, -, -, -, hlines, hrun⟩ := (run_all_or_nothing ho hread {} "build" []).1
      (.inl ⟨statement, List.mem_cons_of_mem _ (List.mem_singleton_self _), hbroken⟩)
    exact ⟨added, hrun, hlines⟩
  · let notes : List Analysis.Note := [.filters]
    let item : Value := Document.ofFields [("name", .text "all"), ("type", .text "search"),
      ("index", .null),
      ("document", Document.ofFields [("query", Document.single "match_all" (.map []))]),
      ("analysis", Document.ofFields [("rating", .text "Good"),
        ("notes", .textList (notes.map Analysis.Note.text))])]
    let x : Shown := ⟨search, .search ({} : Search.Draft).build, ({} : Search.Draft).buildNote,
      ⟨.good, notes⟩, none, some item⟩
    have hshown : showOne (settings [search]) search = .ok x := by with_unfolding_all rfl
    obtain ⟨items, hitems, hrun⟩ := ((run_all_or_nothing ho hread' {} "build" []).2 [x]
      (.cons hshown .nil)).2 (List.mem_singleton_self _)
    obtain rfl : items = [item] :=
      List.map_injective_iff.2 (fun _ _ => Option.some.inj) hitems.symm
    obtain ⟨text, htext⟩ : ∃ text, (Value.list [item]).jsonBlock = .ok text :=
      ⟨_, by with_unfolding_all rfl⟩
    obtain ⟨stamp, hfinished⟩ := hrun text htext
    exact ⟨_, _, text, hfinished, List.mem_append_left _ (List.mem_append_right _
      (List.mem_cons_of_mem _ (List.mem_singleton_self _)))⟩

end Build

end QueryDraft
