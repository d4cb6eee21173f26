import QueryDraft.Analysis
import QueryDraft.Config.Definition

/-!
# Settings

A configuration holds a section on the log, one on the output, one on the limits of the analysis,
and the list of query definitions. All four are read before any of them is checked, so a value of a
wrong kind anywhere is reported before a value out of range.
-/

namespace QueryDraft.Config

/-- Where the log goes, and from which level on. The directory is a text or a word. -/
structure LogSettings where
  level : String := "INFO"
  toFile : Bool := false
  dir : Value := .text "log"

/-- Where reports go. The directory is a text or a word. -/
structure OutputSettings where
  baseDir : Value := .text "output"
  formats : List String := ["console"]

/-- A configuration. -/
structure Settings where
  log : LogSettings
  output : OutputSettings
  thresholds : Analysis.Thresholds
  definitions : List Definition

/-- Whether nothing is left of a text or of octets when blanks are taken off. -/
def isBlank (v : Value) : Outcome Bool :=
  match v, v.text? with
  | _, some s => .ok (Text.nonBlank? s).isNone
  | .bytes octets, none => .ok (octets.all fun b => (9 ≤ b && b ≤ 13) || b == 32)
  | _, none => fail .noSuchPart

namespace LogSettings

/-- The value that settings of the log are. -/
def toValue (s : LogSettings) : Value := .part .logSettings [.text s.level, .bool s.toFile, s.dir]

/-- The levels that a configuration may name. -/
def levels : List String := ["DEBUG", "INFO", "WARNING", "ERROR", "CRITICAL"]

/-- The section on the log. -/
def read (root : Value) : Outcome LogSettings := do
  let es ← sectionOf root (.text "log") false
  let level ← expectText "log.level" (getOr es "level" (.text "INFO"))
  let toFile ← expectBool "log.to_file" (getOr es "to_file" (.bool false))
  let dir ← expectSpelling "log.dir" (getOr es "dir" (.text "log"))
  return ⟨Text.upper level, toFile, dir⟩

/-- Checks that a level has a name. -/
def checkLevel (level : Value) : Outcome Unit := do
  level.requireKey
  if level.text?.any levels.contains then return () else .error (.setting .logLevel)

/-- Checks that the level has a name and that a log file has a directory. -/
def check (v : Value) : Outcome Unit := do
  checkLevel (← v.field "level")
  if (← v.field "to_file").isTruthy then
    if ← isBlank (← v.field "dir") then .error (.setting .logDir)

end LogSettings

namespace OutputSettings

/-- The value that settings of the output are. -/
def toValue (s : OutputSettings) : Value := .part .outputSettings [s.baseDir, .textTuple s.formats]

/-- The formats that reports come in. -/
def known : List String := ["console", "json"]

/-- The section on the output. -/
def read (root : Value) : Outcome OutputSettings := do
  let es ← sectionOf root (.text "output") false
  let formats ← expectTexts "output.formats" (getOr es "formats" (.list [.text "console"]))
  let baseDir ← expectSpelling "output.base_dir" (getOr es "base_dir" (.text "output"))
  return ⟨baseDir, formats.map fun f => Text.lower (Text.trim f)⟩

/-- Checks that there is a format and that all formats are known. The unknown ones are listed once
each and in order. -/
def checkFormats (formats : Value) : Outcome Unit := do
  if !formats.isTruthy then .error (.setting .noFormats)
  let given ← formats.items
  given.forM Value.requireKey
  match Value.distinct (given.filter fun f => !f.text?.any known.contains) with
  | [] => return ()
  | unknown => match Value.sorted? unknown with
    | some names => .error (.setting (.unknownFormats names))
    | none => fail .mismatch

/-- Checks that there is a format, that all formats are known, and that files have a directory. -/
def check (v : Value) : Outcome Unit := do
  let formats ← v.field "formats"
  checkFormats formats
  if ← formats.holds (.text "json") then
    if ← isBlank (← v.field "base_dir") then .error (.setting .baseDir)

end OutputSettings

/-- The section on the limits of the analysis. -/
def readThresholds (root : Value) : Outcome Analysis.Thresholds := do
  let es ← sectionOf root (.text "analysis") false
  let defaults : Analysis.Thresholds := {}
  rejectKeys es ["max_cost", "large_result_size", "sort_required_size"] "analysis"
  let maxCost ← match Entries.get? es "max_cost" with
    | some v => expectFloat "analysis.max_cost" v
    | none => pure defaults.maxCost
  let large ← match Entries.get? es "large_result_size" with
    | some v => expectInt "analysis.large_result_size" v
    | none => pure defaults.largeResultSize
  let sorted ← match Entries.get? es "sort_required_size" with
    | some v => expectInt "analysis.sort_required_size" v
    | none => pure defaults.sortRequiredSize
  return ⟨maxCost, large, sorted⟩

/-- Checks that a limit is not below zero. -/
def checkThreshold (v : Value) (name : String) : Outcome Unit := do
  if ← (← v.field name).less (.int 0) then .error (.setting (.negativeThreshold name))

/-- Checks that no limit is below zero. -/
def checkThresholds (v : Value) : Outcome Unit := do
  checkThreshold v "max_cost"
  checkThreshold v "large_result_size"
  checkThreshold v "sort_required_size"

/-- The query definitions. -/
def readDefinitions (root : Value) : Outcome (List Definition) := do
  match ← optionalValue root (.text "queries") .null with
  | .null => .error (.setting (.missing "queries"))
  | v => do places Definition.read "queries" 0 (← expectList "queries" v)

/-- Checks that no name repeats one that was seen before; `index` is the place of the first
definition. -/
def checkNames (seen : List Value) (index : Nat) : List Value → Outcome Unit
  | [] => .ok ()
  | d :: ds => do
    let name ← d.field "name"
    name.requireKey
    if seen.any name.sameKey then .error (.setting (.duplicateName index name.plain))
    else checkNames (name :: seen) (index + 1) ds

/-- Checks that there is a definition and that no name repeats. -/
def checkDefinitions (v : Value) : Outcome Unit := do
  if !v.isTruthy then .error (.setting .noQueries)
  checkNames [] 0 (← v.items)

namespace Settings

/-- Definitions as a tuple of values. -/
def definitionTuple (ds : List Definition) : Value := .tuple (ds.map Definition.toValue)

/-- The value that a configuration is. -/
def toValue (s : Settings) : Value :=
  .part .settings [s.log.toValue, s.output.toValue, s.thresholds.toValue,
    definitionTuple s.definitions]

/-- The settings of a configuration. -/
def read (root : Value) : Outcome Settings := do
  let log ← LogSettings.read root
  let output ← OutputSettings.read root
  let thresholds ← readThresholds root
  let definitions ← readDefinitions root
  LogSettings.check log.toValue
  OutputSettings.check output.toValue
  checkThresholds thresholds.toValue
  checkDefinitions (definitionTuple definitions)
  return ⟨log, output, thresholds, definitions⟩

end Settings

end QueryDraft.Config
