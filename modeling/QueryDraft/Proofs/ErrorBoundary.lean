import QueryDraft.Proofs.LogFile

/-!
# Where a build ends

Operations on files may fail at any point of a run. What is done one after another is done up to the
first failure, so a step and all steps of a plan are described, like the set-up of the log, by what
they do and how they fail, on any outside (`run_performStep_eq`, `run_perform_eq`).

The set-up comes before everything that a run guards: its failure leaves the run as it is, with
nothing logged. From there on what stops a run, a fault of its plan or a file that cannot be saved,
is the one error that it logs, and the last of its records (`run_boundary`).
-/

namespace QueryDraft

open Log (Logger Record Quiet Setup)

namespace Outside

/-- What a step does, and its failure. -/
def carriedStep (o : Outside) (l : Logger) (done : List Event) : Step → List Event × Option Failure
  | .log r => (o.lines l done r, none)
  | .save dir path content => upToFailure o.attempted done [.directory dir, .written path content]

/-- What steps do one after another, and the failure of the last one that is taken. -/
def carried (o : Outside) (l : Logger) : List Event → List Step → List Event × Option Failure :=
  upToFailure (o.carriedStep l)

variable {o : Outside} {l : Logger} {done made : List Event} {f : Failure}

theorem carried_of_failure {step : Step} (h : o.carriedStep l done step = (made, some f))
    (ss : List Step) : o.carried l done (step :: ss) = (made, some f) :=
  upToFailure_of_failure h ss

theorem carried_of_none {step : Step} (h : o.carriedStep l done step = (made, none))
    (ss : List Step) : o.carried l done (step :: ss)
      = (made ++ (o.carried l (done ++ made) ss).1, (o.carried l (done ++ made) ss).2) :=
  upToFailure_of_none h ss

theorem carried_log (r : Record) (ss : List Step) : o.carried l done (.log r :: ss)
    = (o.lines l done r ++ (o.carried l (done ++ o.lines l done r) ss).1,
      (o.carried l (done ++ o.lines l done r) ss).2) :=
  carried_of_none rfl ss

theorem snd_carried_logs (ss : List Step) : ∀ (rs : List Record) (done : List Event),
    (o.carried l done (rs.map .log ++ ss)).2 = (o.carried l (done ++ o.logged l done rs) ss).2
  | [], done => by rw [logged, List.append_nil, List.map_nil, List.nil_append]
  | r :: rs, done => by
    rw [List.map_cons, List.cons_append, carried_log, snd_carried_logs ss rs, logged,
      List.append_assoc]

/-! ## What the parts of a run add on any outside -/

theorem run_performStep_eq (l : Logger) (done : List Event) : ∀ step : Step,
    (Build.performStep o.host l step).run done
      = (answer (o.carriedStep l done step).2, done ++ (o.carriedStep l done step).1)
  | .log r => by
    rw [Build.performStep, run_bind (run_log l r done)]
    rfl
  | .save dir path content => by
    show (o.attempt _ >>= _ : StateM (List Event) _).run done = _
    rw [run_attempt_bind done _ (by exact fun _ => rfl), carriedStep]
    cases hmade : o.fault? done (.directory dir) with
    | some f => simp [upToFailure, attempted, hmade, answer]
    | none =>
      refine (run_attempt_eq o _ (.written path content)).trans ?_
      cases hwritten : o.fault? (done ++ [.directory dir]) (.written path content) <;>
        simp [upToFailure, attempted, hmade, hwritten]

theorem run_perform_eq (l : Logger) : ∀ (ss : List Step) (done : List Event),
    (Build.perform o.host l ss).run done
      = (answer (o.carried l done ss).2, done ++ (o.carried l done ss).1)
  | [], done => by
    rw [carried, upToFailure, List.append_nil]
    rfl
  | step :: ss, done => by
    rw [Build.perform, run_bind (run_performStep_eq l done step)]
    rcases hstep : o.carriedStep l done step with ⟨made, _ | f⟩
    · rw [carried_of_none hstep, ← List.append_assoc]
      exact run_perform_eq l ss (done ++ made)
    · rw [carried_of_failure hstep]
      rfl

/-! ## What is left behind -/

theorem fst_attempted_of_none : ∀ {es done : List Event},
    (upToFailure o.attempted done es).2 = none → (upToFailure o.attempted done es).1 = es
  | [], _, _ => rfl
  | e :: es, done, h => by
    cases hfault : o.fault? done e with
    | some f =>
      rw [upToFailure_of_failure (attempted_of_failure hfault)] at h
      exact absurd h nofun
    | none =>
      rw [upToFailure_of_none (attempted_of_none hfault)] at h ⊢
      exact congrArg (e :: ·) (fst_attempted_of_none h)

theorem mem_of_mem_attempted : ∀ {es done : List Event},
    ∀ e ∈ (upToFailure o.attempted done es).1, e ∈ es
  | [], _, e, he => absurd he List.not_mem_nil
  | e' :: es, done, e, he => by
    cases hfault : o.fault? done e' with
    | some f =>
      rw [upToFailure_of_failure (attempted_of_failure hfault)] at he
      exact absurd he List.not_mem_nil
    | none =>
      rw [upToFailure_of_none (attempted_of_none hfault)] at he
      exact (List.mem_cons.1 he).elim (· ▸ List.mem_cons_self ..)
        fun he => List.mem_cons_of_mem _ (mem_of_mem_attempted e he)

theorem Leaves.append {level : Int} {logFile : Option String} {rs rs' : List Record}
    {files files' : List (String × String)} {events events' : List Event}
    (h : o.Leaves level logFile rs files events) (h' : o.Leaves level logFile rs' files' events') :
    o.Leaves level logFile (rs ++ rs') (files ++ files') (events ++ events') := by
  obtain ⟨lines, rfl, hlines, hmessages, hadditions, hfiles⟩ := h
  obtain ⟨lines', rfl, hlines', hmessages', hadditions', hfiles'⟩ := h'
  refine ⟨lines ++ lines', List.map_append .., ?_, ?_, ?_, ?_⟩
  · exact fun x hx => (List.mem_append.1 hx).elim (hlines x) (hlines' x)
  · rw [List.filterMap_append, hmessages, hmessages', List.filter_append, List.map_append]
  · rw [List.filterMap_append, hadditions, hadditions']
    cases logFile <;> simp
  · rw [List.filterMap_append, hfiles, hfiles']

theorem Leaves.lines {su : Setup} {stamp : String} {r : Record}
    (hlevel : Log.Level.debug ≤ su.consoleLevel) (hr : Log.Level.debug ≤ r.level) (l : Logger)
    (done : List Event) :
    o.Leaves su.consoleLevel (su.logFile stamp) [r] [] (o.lines (l.install su stamp) done r) := by
  have hline : o.Leaves su.consoleLevel (su.logFile stamp) [r] []
      (o.lines (l.install su stamp) done r ++ []) := (Leaves.nil ..).log hlevel hr done
  rwa [List.append_nil] at hline

theorem Leaves.directory (level : Int) (logFile : Option String) (path : String) :
    o.Leaves level logFile [] [] [.directory path] :=
  ⟨[], rfl, nofun, rfl, by cases logFile <;> rfl, rfl⟩

/-- Of a file that could not be saved there is the directory at most. -/
theorem made_of_failure {dir path content : String}
    (h : o.carriedStep l done (.save dir path content) = (made, some f)) :
    made = [] ∨ made = [.directory dir] := by
  rw [carriedStep] at h
  cases hmade : o.fault? done (.directory dir) with
  | some f' =>
    rw [upToFailure_of_failure (attempted_of_failure hmade)] at h
    exact .inl (congrArg Prod.fst h).symm
  | none =>
    rw [upToFailure_of_none (attempted_of_none hmade)] at h
    cases hwritten : o.fault? (done ++ [.directory dir]) (.written path content) with
    | some f' =>
      rw [upToFailure_of_failure (attempted_of_failure hwritten)] at h
      exact .inr (congrArg Prod.fst h).symm
    | none =>
      rw [upToFailure_of_none (attempted_of_none hwritten)] at h
      exact absurd (congrArg Prod.snd h) nofun

/-- Steps that are stopped by a failure leave what the first of them leave. -/
theorem leaves_carried {su : Setup} (l : Logger) (stamp : String)
    (hlevel : Log.Level.debug ≤ su.consoleLevel) : ∀ (ss : List Step) (done : List Event),
    (∀ r ∈ ss.filterMap Step.record?, Log.Level.debug ≤ r.level) →
    ∃ rs files, rs <+: ss.filterMap Step.record? ∧ files <+: ss.filterMap Step.file?
      ∧ ((o.carried (l.install su stamp) done ss).2 = none →
        rs = ss.filterMap Step.record? ∧ files = ss.filterMap Step.file?)
      ∧ o.Leaves su.consoleLevel (su.logFile stamp) rs files
        (o.carried (l.install su stamp) done ss).1
  | [], done, _ => ⟨[], [], List.prefix_rfl, List.prefix_rfl, fun _ => ⟨rfl, rfl⟩, .nil _ _⟩
  | .log r :: ss, done, h => by
    obtain ⟨hr, hss⟩ := List.forall_mem_cons.1 h
    obtain ⟨rs, files, hrs, hfiles, hall, hleaves⟩ :=
      leaves_carried l stamp hlevel ss (done ++ o.lines (l.install su stamp) done r) hss
    rw [carried_log]
    exact ⟨r :: rs, files, List.cons_prefix_cons.2 ⟨rfl, hrs⟩, hfiles,
      fun hnone => ⟨congrArg _ (hall hnone).1, (hall hnone).2⟩, hleaves.log hlevel hr done⟩
  | .save dir path content :: ss, done, h => by
    rcases hsave : o.carriedStep (l.install su stamp) done (.save dir path content)
      with ⟨made, _ | f⟩
    · obtain ⟨rs, files, hrs, hfiles, hall, hleaves⟩ :=
        leaves_carried l stamp hlevel ss (done ++ made) h
      have hmade : made = [.directory dir, .written path content] := by
        have hfst := fst_attempted_of_none (congrArg Prod.snd hsave)
        rwa [← carriedStep, hsave] at hfst
      rw [carried_of_none hsave]
      subst hmade
      exact ⟨rs, (path, content) :: files, hrs, List.cons_prefix_cons.2 ⟨rfl, hfiles⟩,
        fun hnone => ⟨(hall hnone).1, congrArg _ (hall hnone).2⟩, hleaves.save dir path content⟩
    · rw [carried_of_failure hsave]
      refine ⟨[], [], List.nil_prefix, List.nil_prefix, nofun, ?_⟩
      rcases made_of_failure hsave with rfl | rfl
      · exact .nil _ _
      · exact .directory _ _ dir

end Outside

/-- The record of what stops a build. -/
def Build.stopRecord (e : Error) : Record := .error ("Build failed: " ++ e.text)

namespace Plan

theorem records_eq (p : Plan) :
    p.records = p.steps.filterMap Step.record? ++ (p.fault.map Build.stopRecord).toList := by
  rw [records, allSteps, List.filterMap_append]
  cases p.fault <;> rfl

theorem files_eq (p : Plan) : p.files = p.steps.filterMap Step.file? := by
  rw [files, allSteps, List.filterMap_append]
  cases p.fault <;> simp [Step.file?]

end Plan

namespace Build

variable {o : Outside} {s : Config.Settings}

/-- What stops a plan that is performed: the failure of a step, or else the fault of the plan. -/
def stop? (o : Outside) (l : Logger) (done : List Event) (p : Plan) : Option Error :=
  ((o.carried l done p.steps).2.map Error.failed).or p.fault

/-- What performing a plan adds, the record of what stops it last. -/
def adds (o : Outside) (l : Logger) (done : List Event) (p : Plan) : List Event :=
  let made := (o.carried l done p.steps).1
  match stop? o l done p with
  | none => made
  | some e => made ++ o.lines l (done ++ made) (stopRecord e)

theorem stop?_eq_none {l : Logger} {done : List Event} {p : Plan} :
    stop? o l done p = none ↔ (o.carried l done p.steps).2 = none ∧ p.fault = none := by
  rw [stop?]
  cases (o.carried l done p.steps).2 <;> simp

/-- A log that cannot be set up is not guarded against. -/
theorem run_of_unconfigured {l : Logger} {action : String} {done : List Event} {f : Failure}
    (h : (o.configured done (setup s.log action)).2 = some f) :
    (run o.host l s action).run done
      = (.failed (.failed f), done ++ (o.configured done (setup s.log action)).1) := by
  rw [run, Outside.run_bind (Outside.run_configure_eq l (setup s.log action) done), h]
  rfl

/-- A run whose log is set up ends, or logs what stops it. -/
theorem run_of_configured {l : Logger} {action : String} {done : List Event}
    (h : (o.configured done (setup s.log action)).2 = none) :
    let l' := l.install (setup s.log action) (o.logStamp done)
    let start := done ++ (setup s.log action).events (o.logStamp done)
    let p := plan s action (o.reportStamp start)
    (run o.host l s action).run done
      = (if (stop? o l' start p).isSome then .aborted else .finished,
        start ++ adds o l' start p) := by
  intro l' start p
  have hevents : (o.configured done (setup s.log action)).1
      = (setup s.log action).events (o.logStamp done) := Outside.fst_attempted_of_none h
  have hstamp : o.host.reportStamp.run start = (o.reportStamp start, start) := rfl
  have hconfigure := Outside.run_configure_eq (o := o) l (setup s.log action) done
  rw [h, hevents] at hconfigure
  rw [run, Outside.run_bind hconfigure]
  show (o.host.reportStamp >>= _ : StateM (List Event) _).run start = _
  rw [Outside.run_bind hstamp, Outside.run_bind (Outside.run_perform_eq l' p.steps start), adds,
    stop?]
  cases (o.carried l' start p.steps).2 with
  | some f => exact (run_abort l' (.failed f) _).trans (by rw [List.append_assoc]; rfl)
  | none =>
    cases p.fault with
    | none => rfl
    | some e => exact (run_abort l' e _).trans (by rw [List.append_assoc]; rfl)

/-- A plan that is stopped leaves what its first steps leave and the record of what stops it. -/
theorem leaves_adds {su : Log.Setup} {stamp : String} (l : Logger)
    (hlevel : Log.Level.debug ≤ su.consoleLevel) {p : Plan} (hp : p.Detailed)
    (done : List Event) :
    let l' := l.install su stamp
    let stopped := stop? o l' done p
    ∃ rs files, rs <+: p.steps.filterMap Step.record? ∧ files <+: p.files
      ∧ (stopped = none → rs = p.records ∧ files = p.files)
      ∧ o.Leaves su.consoleLevel (su.logFile stamp) (rs ++ (stopped.map stopRecord).toList) files
        (adds o l' done p) := by
  intro l' stopped
  have hdetailed : ∀ r ∈ p.steps.filterMap Step.record?, Log.Level.debug ≤ r.level := fun r hr =>
    hp.records r (p.records_eq ▸ List.mem_append_left _ hr)
  obtain ⟨rs, files, hrs, hfiles, hall, hleaves⟩ :=
    Outside.leaves_carried (o := o) l stamp hlevel p.steps done hdetailed
  refine ⟨rs, files, hrs, p.files_eq ▸ hfiles, fun hnone => ?_, ?_⟩
  · obtain ⟨hfailure, hfault⟩ := stop?_eq_none.1 hnone
    rw [p.records_eq, p.files_eq, hfault, Option.map_none, Option.toList_none, List.append_nil]
    exact hall hfailure
  · rw [adds]
    show o.Leaves _ _ (rs ++ ((stop? o l' done p).map stopRecord).toList) _ _
    cases stop? o l' done p with
    | none => simpa using hleaves
    | some e =>
      have hlast : Log.Level.debug ≤ (stopRecord e).level := by
        show Log.Level.debug ≤ Log.Level.error
        decide
      simpa using hleaves.append (Outside.Leaves.lines hlevel hlast l _)

theorem quiet_recordsFrom {all : List Shown} (h : ShownAll s all) :
    Quiet (recordsFrom s.definitions.length 1 all) := by
  have hbuilt := performs_defineAll s s.definitions.length 1 s.definitions
  rw [mapM_eq_ok.2 h] at hbuilt
  exact hbuilt.1

/-- The steps of a plan log nothing at the level of failures. -/
theorem quiet_plan (hs : s.Valid) (action stamp : String) :
    Quiet ((plan s action stamp).steps.filterMap Step.record?) := by
  cases h : reported s with
  | error e =>
    obtain ⟨rs, hquiet, htimes⟩ := plan_of_error hs action h
    rw [(htimes stamp).2, Step.filterMap_record?_logs]
    exact hquiet
  | ok shown =>
    obtain ⟨all, content⟩ := shown
    have hall := quiet_recordsFrom (reported_eq_ok.1 h).1
    rw [(plan_of_ok hs action stamp h).2, List.filterMap_append, Step.filterMap_record?_logs]
    refine hall.append ?_
    cases content with
    | none => exact Log.quiet_nil
    | some text => exact Log.quiet_map_info [_]

/-- A definition that cannot be shown stops a build before any file is tried. Of a build that shows
all of them, only saving the report can fail, and without one nothing stops it. -/
theorem stop?_plan (hs : s.Valid) (o : Outside) (l : Logger) (action stamp : String)
    (done : List Event) :
    (∀ e, reported s = .error e → stop? o l done (plan s action stamp) = some e)
    ∧ (∀ all, reported s = .ok (all, none) → stop? o l done (plan s action stamp) = none)
    ∧ ∀ all text, reported s = .ok (all, some text) →
      stop? o l done (plan s action stamp)
        = (Outside.upToFailure o.attempted
            (done ++ o.logged l done (recordsFrom s.definitions.length 1 all))
            [.directory (jsonDir s).text, .written (jsonFile s action stamp).text text]).2.map
          .failed := by
  refine ⟨fun e h => ?_, fun all h => ?_, fun all text h => ?_⟩
  · obtain ⟨rs, -, htimes⟩ := plan_of_error hs action h
    have hsteps : (plan s action stamp).steps = rs.map .log ++ [] := by simp [(htimes stamp).2]
    rw [stop?, hsteps, Outside.snd_carried_logs, (htimes stamp).1]
    rfl
  · obtain ⟨hfault, hsteps⟩ := plan_of_ok hs action stamp h
    rw [stop?, hsteps, Outside.snd_carried_logs, hfault]
    rfl
  · obtain ⟨hfault, hsteps⟩ := plan_of_ok hs action stamp h
    rw [stop?, hsteps, Outside.snd_carried_logs, hfault, Option.or_none]
    generalize done ++ o.logged l done _ = shown
    show Option.map _ (o.carried l shown (.save _ _ text :: [.log _])).2 = _
    rcases hsave : o.carriedStep l shown
      (.save (jsonDir s).text (jsonFile s action stamp).text text) with ⟨made, _ | f⟩
    · rw [Outside.carried_of_none hsave, Outside.carried_log, ← Outside.carriedStep, hsave]
      rfl
    · rw [Outside.carried_of_failure hsave, ← Outside.carriedStep, hsave]

/-- Whatever the outside does, a build of accepted settings ends in one of three ways. If the log
cannot be set up the failure leaves the run, and nothing is logged. Otherwise nothing leaves it: the
build is finished, or it is aborted by the first failure of a file or by the fault of its plan, and
has logged that as its one error after all other records. Without a log file there is nothing to set
up that could fail. -/
theorem run_boundary {root : Value} (hs : Config.Settings.read root = .ok s) (o : Outside)
    (l : Logger) (action : String) (done : List Event) :
    let su := setup s.log action
    let stamp := o.logStamp done
    let l' := l.install su stamp
    let start := done ++ su.events stamp
    let p := plan s action (o.reportStamp start)
    let stopped := stop? o l' start p
    (∀ f, (o.configured done su).2 = some f →
      (run o.host l s action).run done = (.failed (.failed f), done ++ (o.configured done su).1)
        ∧ ∀ e ∈ (o.configured done su).1, ¬ e.isLine)
    ∧ ((o.configured done su).2 = none →
      (run o.host l s action).run done
        = (if stopped.isSome then .aborted else .finished, start ++ adds o l' start p)
      ∧ ∃ rs files, Quiet rs
        ∧ o.Leaves su.consoleLevel (su.logFile stamp) (rs ++ (stopped.map stopRecord).toList) files
          (adds o l' start p)
        ∧ files <+: p.files ∧ (stopped = none → rs = p.records ∧ files = p.files))
    ∧ (su.hasFile = false → (o.configured done su).2 = none) := by
  intro su stamp l' start p stopped
  obtain ⟨hvalid, -⟩ := Config.Settings.valid_of_read hs
  refine ⟨fun f hf => ⟨run_of_unconfigured hf, fun e he => ?_⟩, fun hopened => ?_, fun hfile => ?_⟩
  · have hevent := Outside.mem_of_mem_attempted e he
    rw [Setup.events] at hevent
    split_ifs at hevent
    · rcases List.mem_cons.1 hevent with rfl | hevent
      · exact Bool.false_ne_true
      · obtain rfl := List.mem_singleton.1 hevent
        exact Bool.false_ne_true
    · exact absurd hevent List.not_mem_nil
  · obtain ⟨rs, files, hrs, hfiles, hall, hleaves⟩ := leaves_adds (o := o) l
      (debug_le_consoleLevel hvalid action) (detailed_plan s action _) start
    have hquiet : Quiet rs := fun r hr => quiet_plan hvalid action _ r (hrs.subset hr)
    exact ⟨run_of_configured hopened, rs, files, hquiet, hleaves, hfiles, hall⟩
  · rw [Outside.configured, Setup.events, hfile]
    rfl

/-- The report of a build cannot be written: the build is aborted, and prints that as its one error
after the information on its query. -/
theorem run_boundary_of_unwritable_report :
    let o : Outside := {
      programName := "cli", isDirectory := fun _ _ => .ok false
      read := fun _ path => .error (.missingFile path)
      fault? := fun _ e => match e with
        | .written path _ => some (.accessDenied path)
        | _ => none
      lineStart := fun _ => "0 ", logStamp := fun _ => "0101", reportStamp := fun _ => "2000" }
    let root : Value := .map [(.text "output", .map [(.text "formats", .text "json")]),
      (.text "queries", .list [.map [(.text "name", .text "all"), (.text "type", .text "search")]])]
    ∃ s, Config.Settings.read root = .ok s ∧ ∃ added rs,
      (run o.host {} s "build").run [] = (.aborted, added) ∧ Quiet rs
        ∧ added.filterMap Event.message?
          = ((rs ++ [stopRecord (.failed (.accessDenied "output/json/build_2000.json"))]).filter
            fun r => Log.Level.info ≤ r.level).map fun r => "0 " ++ r.text ++ "\n" := by
  intro o root
  let s : Config.Settings := {
    log := {}, output := { formats := ["json"] }, thresholds := {}
    definitions := [⟨"all", .search {}⟩] }
  have hread : Config.Settings.read root = .ok s := by with_unfolding_all rfl
  -- only the tree of the report is computed, its text does not matter
  obtain ⟨x, j, hx, hj⟩ : ∃ x j, showOne s ⟨"all", .search {}⟩ = .ok x
      ∧ (Value.list ([x].filterMap (·.item))).toJson = .ok j :=
    ⟨_, _, by with_unfolding_all rfl, by with_unfolding_all rfl⟩
  have hreported : reported s = .ok ([x], some j.indented) :=
    reported_eq_ok.2 ⟨.cons hx .nil, congrArg (fun tree => some <$> Json.indented <$> tree) hj⟩
  obtain ⟨hvalid, -⟩ := Config.Settings.valid_of_read hread
  have hstop : ∀ l start stamp, stop? o l start (plan s "build" stamp)
      = some (.failed (.accessDenied (jsonFile s "build" stamp).text)) := fun l start stamp =>
    (stop?_plan hvalid o l "build" stamp start).2.2 [x] j.indented hreported
  have hpath : (jsonFile s "build" "2000").text = "output/json/build_2000.json" := by
    decide +kernel
  have hlevel : (setup s.log "build").consoleLevel = Log.Level.info := by decide +kernel
  obtain ⟨-, hguarded, hfile⟩ := run_boundary hread o {} "build" []
  obtain ⟨hrun, rs, files, hquiet, hleaves, -⟩ := hguarded (hfile rfl)
  rw [hstop] at hrun hleaves
  -- every line is stamped alike, so what is printed can be read off the records
  obtain ⟨hmessages, -⟩ := hleaves.of_clock fun _ => rfl
  refine ⟨s, hread, _, rs, hrun, hquiet, ?_⟩
  rw [List.filterMap_append, hmessages, hlevel, ← hpath]
  rfl

/-- The directory of the log cannot be made: the failure leaves the build and nothing is printed. -/
theorem run_of_file_for_log_directory :
    let o : Outside := {
      programName := "cli", isDirectory := fun _ _ => .ok false
      read := fun _ path => .error (.missingFile path)
      fault? := fun _ e => match e with
        | .directory path => some (.notDirectory path)
        | _ => none
      lineStart := fun _ => "", logStamp := fun _ => "0101", reportStamp := fun _ => "2000" }
    let root : Value := .map [
      (.text "log", .map [(.text "to_file", .bool true), (.text "dir", .text "c.yml")]),
      (.text "queries", .list [.map [(.text "name", .text "a"), (.text "type", .text "search")]])]
    ∃ s, Config.Settings.read root = .ok s ∧ (run o.host {} s "build").run []
      = (.failed (.failed (.notDirectory "c.yml/build")), []) := by
  intro o root
  refine ⟨_, by with_unfolding_all rfl, ?_⟩
  with_unfolding_all rfl

end Build

end QueryDraft
