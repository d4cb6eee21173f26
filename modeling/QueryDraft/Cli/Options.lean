import QueryDraft.Text.Likeness
import QueryDraft.Text.Quoted

/-!
# Options of a command line

A command line is split into options and the rest. An option starts with a hyphen; a value is
attached with an equals sign or is the next argument, whatever that looks like. Two hyphens end the
options. Where arguments may be interspersed, options are also read after the first argument that is
none.
-/

namespace QueryDraft.Cli

/-- What is wrong with a command line. -/
inductive Fault where
  | noSuchOption (name : String) (near : List String)
  | noValue (option : String)
  | unwantedValue (option : String)
  | directory (option path : String)
  | missingCommand
  | noSuchCommand (name : String)
  | extraArguments (args : List String)
  deriving DecidableEq

namespace Fault

/-- What a fault suggests instead of an option. -/
def hint : List String → String
  | [] => ""
  | [name] => " Did you mean " ++ name ++ "?"
  | names => " (Possible options: " ++ ", ".intercalate names ++ ")"

/-- The wording of a fault. -/
def message : Fault → String
  | .noSuchOption name near => "No such option: " ++ name ++ hint near
  | .noValue option => "Option " ++ Text.quoted option ++ " requires an argument."
  | .unwantedValue option => "Option " ++ Text.quoted option ++ " does not take a value."
  | .directory option path =>
    "Invalid value for '" ++ option ++ "': File " ++ Text.quoted path ++ " is a directory."
  | .missingCommand => "Missing command."
  | .noSuchCommand name => "No such command " ++ Text.quoted name ++ "."
  | .extraArguments args =>
    "Got unexpected extra argument" ++ (if args.length = 1 then "" else "s") ++ " ("
      ++ " ".intercalate args ++ ")"

/-- Whether a fault is shown under the usage of its command. -/
def showsUsage : Fault → Bool
  | .noValue _ | .unwantedValue _ => false
  | _ => true

end Fault

/-- An option that a command knows. -/
structure Switch where
  name : String
  takesValue : Bool

/-- A command line that was split: the options in order, each with its value, and the rest. -/
structure Arguments where
  given : List (String × String) := []
  rest : List String := []

namespace Arguments

/-- Arguments with an option before them. -/
def withOption (a : Arguments) (name value : String) : Arguments :=
  { a with given := (name, value) :: a.given }

/-- Arguments with another argument before the rest. -/
def withRest (a : Arguments) (arg : String) : Arguments := { a with rest := arg :: a.rest }

/-- Whether an option is given. -/
def has (a : Arguments) (name : String) : Bool := a.given.any fun o => o.1 == name

/-- The last value given for an option. -/
def last? (a : Arguments) (name : String) : Option String :=
  (a.given.reverse.find? fun o => o.1 == name).map (·.2)

end Arguments

/-- An option without its attached value, and that value. -/
def splitAttached (arg : String) : String × Option String :=
  let cs := arg.toList
  match cs.dropWhile (· ≠ '=') with
  | [] => (arg, none)
  | _ :: value => (String.ofList (cs.takeWhile (· ≠ '=')), some (String.ofList value))

/-- The fault of an option that is not known: one with a single hyphen goes by its first letter, one
with two is told what it is close to. -/
def unknownOption (known : List Switch) (arg : String) : Fault :=
  match arg.toList with
  | '-' :: '-' :: _ =>
    let name := (splitAttached arg).1
    let near := (known.map Switch.name).filter fun other => Text.areClose other name
    .noSuchOption name (near.mergeSort fun a b => !(b < a))
  | cs => .noSuchOption (String.ofList (cs.take 2)) []

/-- Whether an argument is read as an option. -/
def looksLikeOption (arg : String) : Bool :=
  match arg.toList with
  | '-' :: _ :: _ => true
  | _ => false

/-- Whether a name starts with anything but a letter or a number. -/
def startsWithSign (name : String) : Bool :=
  match name.toList with
  | [] => false
  | c :: _ => !Text.isAlnum c

/-- Splits a command line. The first fault from the left is reported. -/
def splitArguments (known : List Switch) (interspersed : Bool) :
    List String → Except Fault Arguments
  | [] => .ok {}
  | arg :: args =>
    if arg = "--" then .ok { rest := args }
    else if !looksLikeOption arg then
      if interspersed then do
        return (← splitArguments known interspersed args).withRest arg
      else .ok { rest := arg :: args }
    else
      let (name, attached) := splitAttached arg
      match known.find? fun s => s.name == name with
      | none => .error (unknownOption known arg)
      | some s =>
        if s.takesValue then
          match attached with
          | some value => do
            return (← splitArguments known interspersed args).withOption name value
          | none => match args with
            | [] => .error (.noValue name)
            | value :: others => do
              return (← splitArguments known interspersed others).withOption name value
        else if attached.isSome then .error (.unwantedValue name)
        else do
          return (← splitArguments known interspersed args).withOption name ""

end QueryDraft.Cli
