import QueryDraft.Proofs.BuildRun

/-!
# A log file changes nothing else

What a build logs and which files it writes is settled by its plan, whatever the log is set up as
(`Plan.records`, `Plan.files`). With a log file the logger lets everything through, but the console
handler still takes what it took without one, and no record lies below the details, so the file
handler takes them all (`receivers_install`). What steps leave behind follows record by record
(`leaves_performed`), and two runs whose settings differ in the log file alone leave the same on the
console and in their reports (`run_leaves`).
-/

namespace QueryDraft

open Log (Handler Logger Record Setup)

/-! ## What is seen of a run -/

namespace Event

/-- The line that an event prints on the console. -/
def message? : Event → Option String
  | .message line => some line
  | _ => none

/-- The file that an event adds to, and the line that it adds. -/
def addition? : Event → Option (String × String)
  | .appended path line => some (path, line)
  | _ => none

/-- The file that an event writes, and its content. -/
def file? : Event → Option (String × String)
  | .written path content => some (path, content)
  | _ => none

theorem file?_of_isLine {e : Event} (h : e.isLine) : e.file? = none := by
  cases e with
  | written => exact absurd h Bool.false_ne_true
  | _ => rfl

end Event

namespace Step

/-- The record that a step logs. -/
def record? : Step → Option Record
  | .log r => some r
  | .save .. => none

/-- The file that a step writes, and its content. -/
def file? : Step → Option (String × String)
  | .log _ => none
  | .save _ path content => some (path, content)

theorem filterMap_record?_logs (rs : List Record) :
    (rs.map Step.log).filterMap record? = rs := by
  rw [List.filterMap_map]
  exact List.filterMap_some

theorem filterMap_file?_logs (rs : List Record) : (rs.map Step.log).filterMap file? = [] := by
  rw [List.filterMap_map, List.filterMap_eq_nil_iff]
  exact fun _ _ => rfl

end Step

namespace Plan

/-- The steps of a plan, the record of its fault last. -/
def allSteps (p : Plan) : List Step :=
  p.steps ++ (p.fault.map fun e => .log (.error ("Build failed: " ++ e.text))).toList

/-- The records of a plan. -/
def records (p : Plan) : List Record := p.allSteps.filterMap Step.record?

/-- The files of a plan. -/
def files (p : Plan) : List (String × String) := p.allSteps.filterMap Step.file?

/-- The records that name the files of a plan. -/
def announcements (p : Plan) : List Record :=
  p.files.map fun file => .info ("JSON saved to " ++ file.1)

/-- How a run that performs a plan ends. -/
def ending (p : Plan) : Build.Ending := if p.fault.isSome then .aborted else .finished

theorem shows_of_fault {p : Plan} {e : Error} {rs : List Record} (hfault : p.fault = some e)
    (hsteps : p.steps = rs.map .log) :
    p.ending = .aborted ∧ p.records = rs ++ [.error ("Build failed: " ++ e.text)]
      ∧ p.files = [] := by
  rw [ending, records, files, allSteps, hfault, hsteps, List.filterMap_append,
    List.filterMap_append, Step.filterMap_record?_logs, Step.filterMap_file?_logs]
  exact ⟨rfl, rfl, rfl⟩

theorem shows_of_steps {p : Plan} {rs : List Record} {ss : List Step} (hfault : p.fault = none)
    (hsteps : p.steps = rs.map .log ++ ss) :
    p.ending = .finished ∧ p.records = rs ++ ss.filterMap Step.record?
      ∧ p.files = ss.filterMap Step.file? := by
  rw [ending, records, files, allSteps, hfault, hsteps, Option.map_none, Option.toList_none,
    List.append_nil, List.filterMap_append, List.filterMap_append, Step.filterMap_record?_logs,
    Step.filterMap_file?_logs]
  exact ⟨rfl, rfl, rfl⟩

end Plan

namespace Outside

/-- The line of a record, written at some time. -/
def IsLine (o : Outside) (r : Record) (line : String) : Prop :=
  ∃ done, line = o.lineStart done ++ r.text ++ "\n"

/-- What events show of records and files, with a level for the console and maybe a log file. Each
record has one line. The console has those of the records from its level on, the log file has them
all, and no other file is added to. -/
def Leaves (o : Outside) (level : Int) (logFile : Option String) (rs : List Record)
    (files : List (String × String)) (events : List Event) : Prop :=
  ∃ lines : List (Record × String), lines.map Prod.fst = rs
    ∧ (∀ x ∈ lines, o.IsLine x.1 x.2)
    ∧ events.filterMap Event.message?
        = (lines.filter fun x => level ≤ x.1.level).map Prod.snd
    ∧ events.filterMap Event.addition?
        = logFile.toList.flatMap (fun path => lines.map fun x => (path, x.2))
    ∧ events.filterMap Event.file? = files

end Outside

/-- The log file of a set-up, if it has one. -/
def Log.Setup.logFile (su : Setup) (stamp : String) : Option String :=
  if su.hasFile then some (su.filePath stamp).text else none

/-! ## Who gets a record -/

namespace Outside

variable {o : Outside} {su : Setup} {stamp : String}

/-- No record lies below the details, so the console gets what is at its level or above, and a log
file everything. -/
theorem receivers_install (l : Logger) {r : Record} (hlevel : Log.Level.debug ≤ su.consoleLevel)
    (hr : Log.Level.debug ≤ r.level) :
    (l.install su stamp).receivers r
      = (if su.consoleLevel ≤ r.level then [.console su.consoleLevel] else [])
        ++ (su.logFile stamp).toList.map .file := by
  have hdebug : Log.Level.debug = 10 := rfl
  unfold Logger.receivers Logger.threshold Logger.install Setup.handlers Setup.logFile
  cases hfile : su.hasFile with
  | false =>
    have hset : su.consoleLevel ≠ 0 := by omega
    by_cases hc : su.consoleLevel ≤ r.level <;> simp [hset, hc, Handler.level]
  | true =>
    have hset : Log.Level.debug ≠ 0 := by decide
    by_cases hc : su.consoleLevel ≤ r.level <;> simp [hset, hc, hr, Handler.level]

theorem message?_lines (l : Logger) {r : Record} (hlevel : Log.Level.debug ≤ su.consoleLevel)
    (hr : Log.Level.debug ≤ r.level) (done : List Event) :
    (o.lines (l.install su stamp) done r).filterMap Event.message?
      = if su.consoleLevel ≤ r.level then [o.lineStart done ++ r.text ++ "\n"] else [] := by
  rw [lines, receivers_install l hlevel hr]
  split_ifs <;> cases su.logFile stamp <;> rfl

theorem addition?_lines (l : Logger) {r : Record} (hlevel : Log.Level.debug ≤ su.consoleLevel)
    (hr : Log.Level.debug ≤ r.level) (done : List Event) :
    (o.lines (l.install su stamp) done r).filterMap Event.addition?
      = (su.logFile stamp).toList.map fun path => (path, o.lineStart done ++ r.text ++ "\n") := by
  rw [lines, receivers_install l hlevel hr]
  split_ifs <;> cases su.logFile stamp <;> rfl

theorem file?_lines (l : Logger) (r : Record) (done : List Event) :
    (o.lines l done r).filterMap Event.file? = [] := by
  rw [List.filterMap_eq_nil_iff]
  intro e he
  obtain ⟨h, -, he⟩ := List.mem_flatMap.1 he
  exact Event.file?_of_isLine (isLine_of_mem_events h e he)

theorem Leaves.nil (level : Int) (logFile : Option String) : o.Leaves level logFile [] [] [] :=
  ⟨[], rfl, nofun, rfl, by cases logFile <;> rfl, rfl⟩

/-- Where the clock stands still, the lines are those of the records. -/
theorem Leaves.of_clock {level : Int} {logFile : Option String} {rs : List Record}
    {files : List (String × String)} {events : List Event} {t : String}
    (h : o.Leaves level logFile rs files events) (hclock : ∀ done, o.lineStart done = t) :
    let line (r : Record) := t ++ r.text ++ "\n"
    events.filterMap Event.message? = (rs.filter fun r => level ≤ r.level).map line
      ∧ events.filterMap Event.addition?
        = logFile.toList.flatMap (fun path => rs.map fun r => (path, line r))
      ∧ events.filterMap Event.file? = files := by
  intro line
  obtain ⟨lines, rfl, hlines, hmessages, hadditions, hfiles⟩ := h
  have hline : ∀ x ∈ lines, x.2 = line x.1 := fun x hx => by
    obtain ⟨done, h⟩ := hlines x hx
    rw [h, hclock]
  refine ⟨hmessages.trans ?_, hadditions.trans ?_, hfiles⟩
  · rw [List.filter_map, List.map_map]
    exact List.map_congr_left fun x hx => hline x (List.mem_filter.1 hx).1
  · congr
    funext path
    rw [List.map_map]
    exact List.map_congr_left fun x hx => by rw [hline x hx]; rfl

theorem Leaves.log {l : Logger} {r : Record} {rs : List Record} {files : List (String × String)}
    {events : List Event} (h : o.Leaves su.consoleLevel (su.logFile stamp) rs files events)
    (hlevel : Log.Level.debug ≤ su.consoleLevel) (hr : Log.Level.debug ≤ r.level)
    (done : List Event) :
    o.Leaves su.consoleLevel (su.logFile stamp) (r :: rs) files
      (o.lines (l.install su stamp) done r ++ events) := by
  obtain ⟨lines, rfl, hlines, hmessages, hadditions, hfiles⟩ := h
  refine ⟨(r, o.lineStart done ++ r.text ++ "\n") :: lines, rfl,
    List.forall_mem_cons.2 ⟨⟨done, rfl⟩, hlines⟩, ?_, ?_, ?_⟩
  · rw [List.filterMap_append, message?_lines l hlevel hr, hmessages]
    split_ifs with hc <;> simp [hc]
  · rw [List.filterMap_append, addition?_lines l hlevel hr, hadditions]
    cases su.logFile stamp <;> simp
  · rw [List.filterMap_append, file?_lines, hfiles, List.nil_append]

theorem Leaves.save {level : Int} {logFile : Option String} {rs : List Record}
    {files : List (String × String)} {events : List Event}
    (h : o.Leaves level logFile rs files events) (dir path content : String) :
    o.Leaves level logFile rs ((path, content) :: files)
      (.directory dir :: .written path content :: events) := by
  obtain ⟨lines, hrs, hlines, hmessages, hadditions, hfiles⟩ := h
  exact ⟨lines, hrs, hlines, hmessages, hadditions, congrArg _ hfiles⟩

/-! ## Steps one after another -/

/-- What steps do after the events so far, where every operation succeeds. -/
def performed (o : Outside) (l : Logger) : List Event → List Step → List Event
  | _, [] => []
  | done, .log r :: ss => o.lines l done r ++ performed o l (done ++ o.lines l done r) ss
  | done, .save dir path content :: ss =>
    .directory dir :: .written path content
      :: performed o l (done ++ [.directory dir, .written path content]) ss

theorem run_perform (ho : o.Succeeds) (l : Logger) : ∀ (ss : List Step) (done : List Event),
    (Build.perform o.host l ss).run done = (.ok (), done ++ o.performed l done ss)
  | [], done => by
    rw [performed, List.append_nil]
    rfl
  | .log r :: ss, done => by
    have hlog := run_perform_logs (o := o) l ss [r] done
    rw [List.map_singleton, List.singleton_append, logged, logged, List.append_nil] at hlog
    rw [hlog, run_perform ho l ss, performed, List.append_assoc]
  | .save dir path content :: ss, done => by
    rw [run_perform_save ho, run_perform ho l ss, performed, List.append_assoc]
    rfl

theorem performed_append (o : Outside) (l : Logger) (ss' : List Step) : ∀ (ss : List Step)
    (done : List Event), o.performed l done (ss ++ ss')
      = o.performed l done ss ++ o.performed l (done ++ o.performed l done ss) ss'
  | [], done => by simp [performed]
  | .log r :: ss, done => by simp [performed, performed_append o l ss' ss]
  | .save dir path content :: ss, done => by simp [performed, performed_append o l ss' ss]

theorem leaves_performed (l : Logger) (hlevel : Log.Level.debug ≤ su.consoleLevel) :
    ∀ (ss : List Step) (done : List Event),
      (∀ r ∈ ss.filterMap Step.record?, Log.Level.debug ≤ r.level) →
      o.Leaves su.consoleLevel (su.logFile stamp) (ss.filterMap Step.record?)
        (ss.filterMap Step.file?) (o.performed (l.install su stamp) done ss)
  | [], done, _ => .nil _ _
  | .log r :: ss, done, h => by
    obtain ⟨hr, hss⟩ := List.forall_mem_cons.1 h
    exact (leaves_performed l hlevel ss _ hss).log hlevel hr done
  | .save dir path content :: ss, done, h => (leaves_performed l hlevel ss _ h).save ..

end Outside

/-! ## The records of a plan -/

namespace Plan

/-- No step logs below the details. -/
def Detailed (p : Plan) : Prop := ∀ r, .log r ∈ p.steps → Log.Level.debug ≤ r.level

theorem detailed_nil : Detailed {} := nofun

theorem detailed_logging {rs : List Record} (h : ∀ r ∈ rs, Log.Level.debug ≤ r.level) :
    (logging rs).Detailed := by
  intro r hr
  obtain ⟨r', hr', ⟨⟩⟩ := List.mem_map.1 hr
  exact h r hr'

theorem detailed_ofOutcome {α : Type} {x : Outcome α} {f : α → Plan} (h : ∀ a, (f a).Detailed) :
    (ofOutcome (x >>= fun a => pure (f a))).Detailed := by
  cases x with
  | error e => exact detailed_nil
  | ok a => exact h a

theorem Detailed.andThen {p q : Plan} (hp : p.Detailed) (hq : q.Detailed) :
    (p.andThen q).Detailed := by
  rw [Plan.andThen]
  split
  · exact hp
  · intro r hr
    rcases List.mem_append.1 hr with hr | hr
    · exact hp r hr
    · exact hq r hr

theorem detailed_sequence : ∀ {ps : List Plan}, (∀ p ∈ ps, p.Detailed) → (sequence ps).Detailed
  | [], _ => detailed_nil
  | p :: ps, h => by
    obtain ⟨hp, hps⟩ := List.forall_mem_cons.1 h
    exact hp.andThen (detailed_sequence hps)

theorem Detailed.records {p : Plan} (h : p.Detailed) :
    ∀ r ∈ p.records, Log.Level.debug ≤ r.level := by
  intro r hr
  obtain ⟨step, hstep, hrecord⟩ := List.mem_filterMap.1 hr
  cases step with
  | save => exact absurd hrecord nofun
  | log r' =>
    obtain rfl := Option.some.inj hrecord
    rcases List.mem_append.1 hstep with hstep | hfault
    · exact h r' hstep
    · obtain ⟨e, -, ⟨⟩⟩ := Option.map_eq_some_iff.1 (Option.mem_toList.1 hfault)
      show Log.Level.debug ≤ Log.Level.error
      decide

end Plan

theorem Log.debug_le_debug (message : String) : Level.debug ≤ (Record.debug message).level :=
  Int.le_refl _

theorem Log.debug_le_info (message : String) : Level.debug ≤ (Record.info message).level := by
  show Level.debug ≤ Level.info
  decide

namespace Sink

theorem detailed_report (name q r : Value) : ∀ sink : Sink, (sink.report name q r).Detailed
  | .console => Plan.detailed_ofOutcome fun block => Plan.detailed_logging fun r hr => by
    obtain ⟨message, -, rfl⟩ := List.mem_map.1 hr
    exact Log.debug_le_info message
  | .jsonFile _ => Plan.detailed_ofOutcome fun _ => nofun

theorem detailed_finish (action stamp : String) (results : List Value) :
    ∀ sink : Sink, (sink.finish action stamp results).Detailed
  | .console => Plan.detailed_nil
  | .jsonFile dir => Plan.detailed_ofOutcome fun content r hr => by
    rcases hr with _ | ⟨_, hr⟩
    obtain ⟨⟩ := List.mem_singleton.1 hr
    exact Log.debug_le_info _

end Sink

namespace Build

theorem detailed_define (sinks : List Sink) (t : Analysis.Thresholds) (total index : Nat)
    (d : Config.Definition) : (define sinks t total index d).Detailed := by
  refine Plan.Detailed.andThen (Plan.detailed_logging fun r hr => ?_) ?_
  · rcases List.mem_cons.1 hr with rfl | hr
    · exact Log.debug_le_debug _
    · split_ifs at hr
      · obtain rfl := List.mem_singleton.1 hr
        exact Log.debug_le_info _
      · exact absurd hr List.not_mem_nil
  -- after the opening, a fault of the build or of the analysis has nothing logged
  cases d.draft.build with
  | error e => exact Plan.detailed_nil
  | ok built =>
    refine Plan.detailed_ofOutcome fun report => Plan.Detailed.andThen
      (Plan.detailed_logging fun r hr => ?_) (Plan.detailed_sequence fun p hp => ?_)
    · rcases List.mem_cons.1 hr with rfl | hr
      · exact Log.debug_le_debug _
      · obtain rfl := List.mem_singleton.1 hr
        exact Log.debug_le_info _
    · obtain ⟨sink, -, rfl⟩ := List.mem_map.1 hp
      exact sink.detailed_report _ _ _

theorem detailed_defineAll (sinks : List Sink) (t : Analysis.Thresholds) (total : Nat) :
    ∀ (index : Nat) (ds : List Config.Definition), (defineAll sinks t total index ds).Detailed
  | _, [] => Plan.detailed_nil
  | index, d :: ds =>
    (detailed_define sinks t total index d).andThen
      (detailed_defineAll sinks t total (index + 1) ds)

theorem detailed_plan (s : Config.Settings) (action stamp : String) :
    (plan s action stamp).Detailed := by
  refine Plan.detailed_ofOutcome fun sinks => (detailed_defineAll sinks _ _ _ _).andThen
    (Plan.detailed_sequence fun p hp => ?_)
  obtain ⟨sink, -, rfl⟩ := List.mem_map.1 hp
  exact sink.detailed_finish _ _ _

/-! ## Runs and their plans -/

variable {s : Config.Settings}

/-- The time of a build is in the name of its report, which its last record names as well. All else
in its plan is the same at any time. -/
theorem plan_at_any_time (hs : s.Valid) (action : String) :
    ∃ ending rs contents, ∀ stamp, (plan s action stamp).ending = ending
      ∧ (plan s action stamp).records = rs ++ (plan s action stamp).announcements
      ∧ (plan s action stamp).files.map Prod.snd = contents := by
  cases h : reported s with
  | error e =>
    obtain ⟨rs, -, htimes⟩ := plan_of_error hs action h
    refine ⟨.aborted, rs ++ [.error ("Build failed: " ++ e.text)], [], fun stamp => ?_⟩
    obtain ⟨hending, hrecords, hfiles⟩ := Plan.shows_of_fault (htimes stamp).1 (htimes stamp).2
    rw [Plan.announcements, hfiles]
    exact ⟨hending, by rw [hrecords, List.map_nil, List.append_nil], rfl⟩
  | ok shown =>
    obtain ⟨all, content⟩ := shown
    refine ⟨.finished, recordsFrom s.definitions.length 1 all, content.toList, fun stamp => ?_⟩
    obtain ⟨hfault, hsteps⟩ := plan_of_ok hs action stamp h
    obtain ⟨hending, hrecords, hfiles⟩ := Plan.shows_of_steps hfault hsteps
    rw [Plan.announcements, hfiles, hrecords]
    cases content <;> exact ⟨hending, rfl, rfl⟩

/-- Each level that settings may name is at the details or above. -/
theorem debug_le_consoleLevel (hs : s.Valid) (action : String) :
    Log.Level.debug ≤ (setup s.log action).consoleLevel := by
  have hnamed : ∀ name ∈ Config.LogSettings.levels, Log.Level.debug ≤ Log.Level.ofName name := by
    decide
  exact hnamed _ hs.level

theorem run_leaves_plan {o : Outside} (ho : o.Succeeds) (hs : s.Valid) (l : Logger)
    (action : String) (done : List Event) :
    let su := setup s.log action
    let start := done ++ su.events (o.logStamp done)
    let p := plan s action (o.reportStamp start)
    ∃ added, (run o.host l s action).run done = (p.ending, start ++ added)
      ∧ o.Leaves su.consoleLevel (su.logFile (o.logStamp done)) p.records p.files added := by
  intro su start p
  let l' := l.install su (o.logStamp done)
  refine ⟨o.performed l' start p.allSteps, ?_, Outside.leaves_performed l
    (debug_le_consoleLevel hs action) _ _ (detailed_plan s action _).records⟩
  have hrun := run_eq_of_perform ho l s action done _ (Outside.run_perform ho l' p.steps start)
  rw [hrun, Plan.allSteps, Outside.performed_append, Plan.ending]
  cases p.fault with
  | none => simp [Outside.performed]
  | some e => simp [Outside.performed, l', su]

/-- Where operations on files succeed, two builds whose settings differ in the log file and its
directory alone, on whatever outsides and at whatever times, leave the same behind: they end the
same way, print the same records from the level of the settings on, and write reports of the same
content. Only the name of a report, with the record that it is saved, has the time in it. A build
with a log file adds the line of every record to it. -/
theorem run_leaves {o o' : Outside} (ho : o.Succeeds) (ho' : o'.Succeeds) {root root' : Value}
    {s s' : Config.Settings} (hs : Config.Settings.read root = .ok s)
    (hs' : Config.Settings.read root' = .ok s')
    (h : s' = { s with log := { s.log with toFile := s'.log.toFile, dir := s'.log.dir } })
    (l l' : Logger) (action : String) (done done' : List Event) :
    let su := setup s.log action
    let su' := setup s'.log action
    let start := done ++ su.events (o.logStamp done)
    let start' := done' ++ su'.events (o'.logStamp done')
    let p := plan s action (o.reportStamp start)
    let p' := plan s action (o'.reportStamp start')
    let level := Log.Level.ofName s.log.level
    ∃ added added' rs,
      (run o.host l s action).run done = (p.ending, start ++ added)
      ∧ (run o'.host l' s' action).run done' = (p.ending, start' ++ added')
      ∧ o.Leaves level (su.logFile (o.logStamp done)) p.records p.files added
      ∧ o'.Leaves level (su'.logFile (o'.logStamp done')) p'.records p'.files added'
      ∧ p.records = rs ++ p.announcements ∧ p'.records = rs ++ p'.announcements
      ∧ p'.files.map Prod.snd = p.files.map Prod.snd := by
  intro su su' start start' p p' level
  obtain ⟨hvalid, -⟩ := Config.Settings.valid_of_read hs
  obtain ⟨hvalid', -⟩ := Config.Settings.valid_of_read hs'
  have hplan : ∀ stamp, plan s' action stamp = plan s action stamp := by
    intro stamp
    rw [plan_eq hvalid, plan_eq hvalid', h]
  have hlevel : su'.consoleLevel = level := by
    show Log.Level.ofName s'.log.level = _
    rw [h]
  obtain ⟨added, hrun, hleaves⟩ := run_leaves_plan ho hvalid l action done
  obtain ⟨added', hrun', hleaves'⟩ := run_leaves_plan ho' hvalid' l' action done'
  rw [hplan] at hrun' hleaves'
  rw [hlevel] at hleaves'
  obtain ⟨ending, rs, contents, htimes⟩ := plan_at_any_time hvalid action
  obtain ⟨hending, hrecords, hfiles⟩ := htimes (o.reportStamp start)
  obtain ⟨hending', hrecords', hfiles'⟩ := htimes (o'.reportStamp start')
  exact ⟨added, added', rs, hrun, by rw [hrun', hending', ← hending], hleaves, hleaves', hrecords,
    hrecords', hfiles'.trans hfiles.symm⟩

/-- A definition is built with a log file and without: where the clock stands still, the console and
the report are the same, and only the one with a log file adds lines to a file. -/
theorem run_leaves_of_one_search :
    let o : Outside := {
      programName := "cli", isDirectory := fun _ _ => .ok false
      read := fun _ path => .error (.missingFile path), fault? := fun _ _ => none
      lineStart := fun _ => "", logStamp := fun _ => "0101", reportStamp := fun _ => "2000" }
    let root (log : List (Value × Value)) : Value := .map [
      (.text "log", .map log), (.text "output", .map [(.text "formats", .text "json")]),
      (.text "queries", .list [.map [(.text "name", .text "all"), (.text "type", .text "search")]])]
    ∃ s s', Config.Settings.read (root [(.text "level", .text "warning")]) = .ok s
      ∧ Config.Settings.read (root [(.text "level", .text "WARNING"),
        (.text "to_file", .bool true), (.text "dir", .text "logs")]) = .ok s'
      ∧ ∃ ending added added',
        (run o.host {} s "build").run [] = (ending, added)
        ∧ (run o.host {} s' "build").run []
          = (ending, (setup s'.log "build").events "0101" ++ added')
        ∧ added'.filterMap Event.message? = added.filterMap Event.message?
        ∧ added'.filterMap Event.file? = added.filterMap Event.file?
        ∧ added.filterMap Event.addition? = [] ∧ added'.filterMap Event.addition? ≠ [] := by
  intro o root
  let settings (log : Config.LogSettings) : Config.Settings := {
    log := log, output := { formats := ["json"] }, thresholds := {}
    definitions := [⟨"all", .search {}⟩] }
  have ho : o.Succeeds := fun _ _ => rfl
  have hread : Config.Settings.read (root [(.text "level", .text "warning")])
      = .ok (settings { level := "WARNING" }) := by
    with_unfolding_all rfl
  have hread' : Config.Settings.read (root [(.text "level", .text "WARNING"),
      (.text "to_file", .bool true), (.text "dir", .text "logs")])
      = .ok (settings { level := "WARNING", toFile := true, dir := .text "logs" }) := by
    with_unfolding_all rfl
  obtain ⟨added, added', rs, hrun, hrun', hleaves, hleaves', -⟩ :=
    run_leaves ho ho hread hread' rfl {} {} "build" [] []
  obtain ⟨hmessages, hadditions, hfiles⟩ := hleaves.of_clock fun _ => rfl
  obtain ⟨hmessages', hadditions', hfiles'⟩ := hleaves'.of_clock fun _ => rfl
  refine ⟨_, _, hread, hread', _, added, added', hrun, hrun', ?_, ?_, ?_, ?_⟩
  · rw [hmessages, hmessages']
  · rw [hfiles, hfiles']
  · rw [hadditions]
    rfl
  · rw [hadditions']
    with_unfolding_all exact List.cons_ne_nil _ _

end Build

end QueryDraft
