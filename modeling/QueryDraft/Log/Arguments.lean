import QueryDraft.Access
import QueryDraft.Log.Logger
import QueryDraft.Log.Template

/-!
# Arguments of the log

What a caller hands in to set up the log or to make a record, as values. Whatever counts as false
stands for a default; anything else has to be of the kind that is wanted where it is looked at.
-/

namespace QueryDraft.Log

/-- The names that are taken by something other than a level, and how a level of such a name
fails. -/
def reservedNames : List (String × Failure) :=
  [("BASIC_FORMAT", .meaningless), ("_STYLES", .mismatch)]

namespace Setup

/-- The arguments of a set-up. -/
def names : List String := ["level", "action", "log_to_file", "log_dir"]

/-- The text that an argument is, a default if it counts as false. -/
def textOr (default : String) (failure : Failure) (v : Value) : Outcome String :=
  if !v.isTruthy then .ok default
  else match v.text? with
    | some s => .ok s
    | none => fail failure

/-- The name of a level that can be set. -/
def readLevel (v : Value) : Outcome String := do
  let name ← textOr "INFO" .noSuchPart v
  match reservedNames.lookup (Text.upper name) with
  | some failure => fail failure
  | none => return name

/-- The set-up that arguments ask for. The names of a file are looked at only if there is one. -/
def ofArguments (es : Entries) : Outcome Setup := do
  if !(Entries.keys es).all fun k => k.text?.any names.contains then fail .mismatch
  let given := fun (name : String) => (Entries.get? es name).getD .null
  let level ← readLevel (given "level")
  let toFile := (given "log_to_file").isTruthy
  let action := given "action"
  if toFile && action.isTruthy then do
    let dir ← textOr "log" .mismatch (given "log_dir")
    return { level, toFile, dir, action := ← textOr "" .mismatch action }
  else return { level }

end Setup

/-- The level that a value is; truth values are numbers. -/
def readLevel (v : Value) : Outcome Int :=
  match v.number? with
  | some (.int n) => .ok n
  | _ => fail .mismatch

/-- The record that a caller makes for a component, none if its message has no text. -/
def Record.ofArguments (level component message : Value) (args : List Value) :
    Outcome (Option Record) := do
  if component.isTruthy && component.text?.isNone then fail .mismatch
  let level ← readLevel level
  return (Template.fill? message.plain args).map fun text => ⟨level, text⟩

end QueryDraft.Log
