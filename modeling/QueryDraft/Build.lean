import QueryDraft.Config.Settings
import QueryDraft.Host
import QueryDraft.Report.Console
import QueryDraft.Report.Data

/-!
# Building the queries of a configuration

A build goes through the definitions in order: each is built, analysed and reported to every sink.
When all are done the sinks are finished, which is when the JSON report is written. What a build
does to the outside is a list of steps, and it has at most one fault, which ends it (`Plan`): a
plan holds the steps before the fault, so nothing is written if any definition is at fault.

`Build.run` sets up the log and performs the plan. A fault of the plan or of a step is logged and
aborts the run; only a log that cannot be set up fails otherwise.
-/

namespace QueryDraft

open Log (Record Logger)

/-- Where reports go. -/
inductive Sink where
  | console
  | jsonFile (dir : String)
  deriving DecidableEq

/-- The file sink below a directory, which has to be a text; a word stands for its full name. -/
def Sink.below (dir : Value) : Outcome Sink :=
  match dir.text? with
  | some _ => .ok (.jsonFile dir.plain)
  | none => fail .mismatch

/-- The sinks of a configuration: the console before the file, each at most once. -/
def Sink.ofSettings (settings : Value) : Outcome (List Sink) := do
  let output ← settings.field "output"
  let formats ← output.field "formats"
  let console := if ← formats.holds (.text "console") then [Sink.console] else []
  let file ← if ← formats.holds (.text "json") then do
      pure [← Sink.below (← output.field "base_dir")]
    else pure []
  if (console ++ file).isEmpty then .error (.setting .noWriters) else return console ++ file

/-- Something that a build does to the outside. -/
inductive Step where
  | log (r : Record)
  | save (dir path content : String)

/-- The steps of a build, the results collected for its JSON report, and what stops it. -/
structure Plan where
  steps : List Step := []
  results : List Value := []
  fault : Option Error := none

namespace Plan

/-- A plan of log records. -/
def logging (rs : List Record) : Plan := { steps := rs.map .log }

/-- One plan after another, unless the first is stopped. -/
def andThen (p q : Plan) : Plan :=
  if p.fault.isSome then p else ⟨p.steps ++ q.steps, p.results ++ q.results, q.fault⟩

/-- Plans one after another. -/
def sequence (ps : List Plan) : Plan := ps.foldr andThen {}

/-- The plan that a computed one is, or that its fault is. -/
def ofOutcome : Outcome Plan → Plan
  | .ok p => p
  | .error e => { fault := some e }

end Plan

namespace Sink

/-- Reports a query to a sink: lines on the console, or an item of the JSON report. -/
def report (name q r : Value) : Sink → Plan
  | .console => .ofOutcome do
    let block ← Report.textBlock name q r
    return .logging ((Text.lines block).map Record.info)
  | .jsonFile _ => .ofOutcome do
    let item ← Report.data name q r
    return { results := [item] }

/-- Finishes a sink: the results are written in one JSON file. -/
def finish (action stamp : String) (results : List Value) : Sink → Plan
  | .console => {}
  | .jsonFile dir => .ofOutcome do
    let content ← (Value.list results).jsonBlock
    let place := (Path.ofText dir).child "json"
    let file := action ++ "_" ++ stamp ++ ".json"
    return { steps := [
      .save place.text (place.child file).text content,
      .log (.info ("JSON saved to " ++ (place.child file).text))] }

end Sink

namespace Build

/-- A place in the definitions and their count. -/
def counted (index total : Nat) : String := toString index ++ "/" ++ toString total

/-- Builds and reports one definition, the `index`-th of all. -/
def define (sinks : List Sink) (t : Analysis.Thresholds) (total index : Nat)
    (d : Config.Definition) : Plan :=
  let opening := Plan.logging (
    .debug ("Building query " ++ counted index total ++ " name=" ++ d.name ++ " type="
      ++ d.draft.kind) ::
    if 1 < total then [.info ("=== Query " ++ counted index total ++ " ===")] else [])
  opening.andThen (.ofOutcome do
    let (q, note) ← d.draft.build
    let r ← Analysis.report q.toValue t.toValue
    let rated := Plan.logging [.debug note,
      .info ("name=" ++ d.name ++ " rating=" ++ r.rating.text ++ " notes="
        ++ toString r.notes.length)]
    let reported := sinks.map (Sink.report (.text d.name) q.toValue r.toValue)
    return rated.andThen (.sequence reported))

/-- Builds and reports definitions; `index` is the place of the first. -/
def defineAll (sinks : List Sink) (t : Analysis.Thresholds) (total index : Nat) :
    List Config.Definition → Plan
  | [] => {}
  | d :: ds => (define sinks t total index d).andThen (defineAll sinks t total (index + 1) ds)

/-- Finishes sinks with the results that a plan collects. -/
def finishAll (sinks : List Sink) (action stamp : String) (p : Plan) : Plan :=
  p.andThen (.sequence (sinks.map (Sink.finish action stamp p.results)))

/-- The plan of a build. -/
def plan (s : Config.Settings) (action stamp : String) : Plan :=
  .ofOutcome do
    let sinks ← Sink.ofSettings s.toValue
    let built := defineAll sinks s.thresholds s.definitions.length 1 s.definitions
    return finishAll sinks action stamp built

/-- How a build ends. -/
inductive Ending where
  | finished
  | aborted
  | failed (e : Error)

variable {m : Type → Type} [Monad m]

/-- Performs a step. -/
def performStep (host : Host m) (l : Logger) : Step → m (Except Failure Unit)
  | .log r => do
    l.log host r
    return .ok ()
  | .save dir path content => do
    match ← host.makeDirectory dir with
    | .ok () => host.write path content
    | .error f => return .error f

/-- Performs steps up to the first that fails. -/
def perform (host : Host m) (l : Logger) : List Step → m (Except Failure Unit)
  | [] => return .ok ()
  | s :: ss => do
    match ← performStep host l s with
    | .ok () => perform host l ss
    | .error f => return .error f

/-- Logs what stops a build. -/
def abort (host : Host m) (l : Logger) (e : Error) : m Ending := do
  l.log host (.error ("Build failed: " ++ e.text))
  return .aborted

/-- How a build sets up the log. -/
def setup (s : Config.LogSettings) (action : String) : Log.Setup where
  level := s.level
  action := action
  toFile := s.toFile
  dir := s.dir.plain

/-- Runs a build. -/
def run (host : Host m) (l : Logger) (s : Config.Settings) (action : String) : m Ending := do
  match ← l.configure host (setup s.log action) with
  | .error f => return .failed (.failed f)
  | .ok l => do
    let p := plan s action (← host.reportStamp)
    match ← perform host l p.steps with
    | .error f => abort host l (.failed f)
    | .ok () => match p.fault with
      | some e => abort host l e
      | none => return .finished

end Build

end QueryDraft
