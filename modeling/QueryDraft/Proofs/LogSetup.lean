import QueryDraft.Proofs.ErrorBoundary

/-!
# Setting the log up again and again

A logger that is in use is set up by calls any of which may fail. One call gives the logger its own
handlers or leaves it as it is (`run_apply_eq`), so a run of calls is a fold over those that succeed
(`run_mapM_apply`). No handler is lost on the way: what was ever in place is in place or closed
(`closed_append_handlers_foldl`), and what the last call put in place is not closed. The logger that
a run leaves can be read off that (`run_setups`).
-/

namespace QueryDraft

open Log (Handler Logger Setup)

/-- The levels that a configuration may name are found under their names. -/
theorem Log.Level.ofName_mem_names :
    ∀ name ∈ Config.LogSettings.levels, (name, ofName name) ∈ names := by
  decide +kernel

/-- A call that sets up the log: what it asks for, the stamp of its time, and its failure. -/
structure Log.Call where
  setup : Setup
  stamp : String
  failure : Option Failure

namespace Log.Call

/-- Whether a call succeeds. -/
def succeeds (c : Call) : Bool := c.failure.isNone

/-- The handlers that a call puts in place if it succeeds. -/
def handlers (c : Call) : List Handler := c.setup.handlers c.stamp

/-- The logger that a call which succeeds makes of one. -/
def install (l : Logger) (c : Call) : Logger := l.install c.setup c.stamp

/-- The logger after a call. -/
def after (l : Logger) (c : Call) : Logger := if c.succeeds then install l c else l

/-! ## What calls that succeed leave -/

/-- The handlers that were in place are closed, and the new ones are in place. -/
theorem closed_append_handlers_install (l : Logger) (c : Call) :
    (install l c).closed ++ (install l c).handlers = l.closed ++ l.handlers ++ c.handlers := rfl

/-- Each handler that was in place at some time is in place or closed. -/
theorem closed_append_handlers_foldl : ∀ (cs : List Call) (l : Logger),
    (cs.foldl install l).closed ++ (cs.foldl install l).handlers
      = l.closed ++ l.handlers ++ cs.flatMap handlers
  | [], l => by simp
  | c :: cs, l => by
    rw [List.foldl_cons, closed_append_handlers_foldl cs, closed_append_handlers_install,
      List.flatMap_cons, List.append_assoc]

/-- The last call puts its handlers in place of all those of the calls before it. -/
theorem foldl_install_concat (cs : List Call) (c : Call) (l : Logger) :
    (cs ++ [c]).foldl install l
      = ⟨c.setup.loggerLevel, c.handlers, l.closed ++ l.handlers ++ cs.flatMap handlers⟩ := by
  rw [List.foldl_concat, ← closed_append_handlers_foldl cs l]
  rfl

/-- A run of calls is the run of those that succeed. -/
theorem foldl_after (cs : List Call) (l : Logger) :
    cs.foldl after l = (cs.filter succeeds).foldl install l :=
  List.foldl_filter.symm

end Log.Call

open Log (Call)

namespace Outside

variable {o : Outside}

/-- The call of a set-up after the events so far. -/
def call (o : Outside) (done : List Event) (s : Setup) : Call :=
  ⟨s, o.logStamp done, (o.configured done s).2⟩

/-- The calls of set-ups one after another, whether they fail or not. -/
def calls (o : Outside) : List Event → List Setup → List Call
  | _, [] => []
  | done, s :: ss => o.call done s :: calls o (done ++ (o.configured done s).1) ss

/-- The events after the calls of set-ups. -/
def afterCalls (o : Outside) (done : List Event) (ss : List Setup) : List Event :=
  ss.foldl (fun done s => done ++ (o.configured done s).1) done

/-- A call answers its failure, and what it leaves of the logger is settled by that. -/
theorem run_apply_eq (s : Setup) (l : Logger) (done : List Event) :
    ((s.apply o.host).run l).run done
      = ((answer (o.call done s).failure, (o.call done s).after l),
        done ++ (o.configured done s).1) := by
  have hstamp : o.host.logStamp.run done = (o.logStamp done, done) := rfl
  rw [Setup.run_apply, run_bind hstamp, run_bind (run_makeHandlers_eq s _ done), call, configured]
  rcases upToFailure o.attempted done (s.events (o.logStamp done)) with ⟨made, _ | f⟩
  · show ((Except.ok (), l.replace s.loggerLevel (s.handlers (o.logStamp done))), done ++ made) = _
    rw [Logger.replace_handlers]
    rfl
  · rfl

/-- A call that fails leaves the logger. -/
theorem run_apply_of_failure {s : Setup} {done : List Event} {f : Failure}
    (h : (o.configured done s).2 = some f) (l : Logger) :
    ((s.apply o.host).run l).run done = ((.error f, l), done ++ (o.configured done s).1) := by
  rw [run_apply_eq, call, h]
  rfl

/-- Calls one after another, each on the logger that those before it leave. -/
theorem run_mapM_apply : ∀ (ss : List Setup) (l : Logger) (done : List Event),
    ((ss.mapM (Setup.apply o.host)).run l).run done
      = (((o.calls done ss).map fun c => answer c.failure, (o.calls done ss).foldl Call.after l),
        o.afterCalls done ss)
  | [], l, done => by
    rw [List.mapM_nil]
    rfl
  | s :: ss, l, done => by
    rw [List.mapM_cons, StateT.run_bind, run_bind (run_apply_eq s l done), StateT.run_bind,
      run_bind (run_mapM_apply ss _ _)]
    rfl

/-- Whatever the outside does, calls that set up a logger leave it with what the last one that
succeeds asks for: a console handler at the level of the call, a file handler that takes the details
as well if the log goes to a file and an action is named, and a level of its own to match. All
handlers from before that call are closed, each of them once. If no call succeeds the logger is as
it was, and in any state a call whose directory or file cannot be made answers how that failed and
leaves the logger. -/
theorem run_setups (o : Outside) (l : Logger) (ss : List Setup) (done : List Event) :
    let cs := o.calls done ss
    let successes := cs.filter Call.succeeds
    ∃ l' done',
      ((ss.mapM (Setup.apply o.host)).run l).run done
        = ((cs.map fun c => answer c.failure, l'), done')
      ∧ (successes = [] → l' = l)
      ∧ (∀ earlier last, successes = earlier ++ [last] →
        let s := last.setup
        let level := Log.Level.ofName s.level
        l'.handlers = .console level
            :: (if s.toFile ∧ s.action ≠ "" then [.file (s.filePath last.stamp).text] else [])
          ∧ l'.handlers.map Handler.level
            = level :: (if s.toFile ∧ s.action ≠ "" then [Log.Level.debug] else [])
          ∧ l'.level = (if s.toFile ∧ s.action ≠ "" then Log.Level.debug else level)
          ∧ l'.closed = l.closed ++ l.handlers ++ earlier.flatMap Call.handlers
          ∧ (s.level ∈ Config.LogSettings.levels → (s.level, level) ∈ Log.Level.names))
      ∧ ∀ s f, (o.configured done' s).2 = some f →
        ((s.apply o.host).run l').run done'
          = ((.error f, l'), done' ++ (o.configured done' s).1) := by
  intro cs successes
  have hrun := run_mapM_apply (o := o) ss l done
  rw [Call.foldl_after] at hrun
  refine ⟨successes.foldl Call.install l, _, hrun, fun hnone => by rw [hnone, List.foldl_nil],
    fun earlier last hlast => ?_, fun s f hf => run_apply_of_failure hf _⟩
  intro s level
  have hfile : s.hasFile ↔ s.toFile ∧ s.action ≠ "" := by simp [Setup.hasFile]
  have hhandlers : last.handlers = .console level
      :: (if s.toFile ∧ s.action ≠ "" then [.file (s.filePath last.stamp).text] else []) :=
    congrArg _ (if_congr hfile rfl rfl)
  rw [hlast, Call.foldl_install_concat]
  refine ⟨hhandlers, ?_, if_congr hfile rfl rfl, rfl, Log.Level.ofName_mem_names s.level⟩
  rw [hhandlers]
  split_ifs <;> rfl

/-- A directory cannot be made any more: the call that wants it fails, and the logger is the one
that the call before it made, with the handlers from before closed. -/
theorem run_setups_of_unwritable_directory :
    let o : Outside := {
      programName := "cli", isDirectory := fun _ _ => .ok false
      read := fun _ path => .error (.missingFile path)
      fault? := fun done e => match e with
        | .directory path => if done.isEmpty then none else some (.accessDenied path)
        | _ => none
      lineStart := fun _ => "", logStamp := fun _ => "0101", reportStamp := fun _ => "2000" }
    let filed (level : String) : Setup := { level, action := "build", toFile := true }
    let ss : List Setup := [{ level := "WARNING" }, filed "ERROR", filed "DEBUG"]
    ∃ done', ((ss.mapM (Setup.apply o.host)).run {}).run []
      = (([.ok (), .ok (), .error (.accessDenied "log/build")],
        { level := Log.Level.debug
          handlers := [.console Log.Level.error, .file "log/build/build_0101.log"]
          closed := [.nowhere, .console Log.Level.warning] }), done') := by
  intro o filed ss
  have hcalls : o.calls [] ss = [⟨{ level := "WARNING" }, "0101", none⟩,
      ⟨filed "ERROR", "0101", none⟩,
      ⟨filed "DEBUG", "0101", some (.accessDenied (filed "DEBUG").directory.text)⟩] := by
    with_unfolding_all rfl
  obtain ⟨l', done', hrun, -, hlast, -⟩ := run_setups o {} ss []
  rw [hcalls] at hrun hlast
  obtain ⟨hhandlers, -, hlevel, hclosed, -⟩ := hlast [_] _ rfl
  have hdirectory : (filed "DEBUG").directory.text = "log/build" := by decide +kernel
  have hfile : ((filed "ERROR").filePath "0101").text = "log/build/build_0101.log" := by
    decide +kernel
  have herror : Log.Level.ofName (filed "ERROR").level = Log.Level.error := by decide +kernel
  have hwarning : Log.Level.ofName "WARNING" = Log.Level.warning := by decide +kernel
  have hwanted : (filed "ERROR").toFile ∧ (filed "ERROR").action ≠ "" := ⟨rfl, by decide⟩
  rw [if_pos hwanted, hfile, herror] at hhandlers
  rw [if_pos hwanted] at hlevel
  refine ⟨done', hrun.trans ?_⟩
  obtain ⟨level, handlers, closed⟩ := l'
  obtain rfl : level = _ := hlevel
  obtain rfl : handlers = _ := hhandlers
  obtain rfl : closed = [.nowhere, .console Log.Level.warning] := hwarning ▸ hclosed
  rw [List.map_cons, List.map_cons, List.map_cons, hdirectory]
  rfl

end Outside

end QueryDraft
