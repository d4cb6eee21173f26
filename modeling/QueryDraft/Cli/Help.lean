/-!
# Help texts

What the program and its one command print about themselves.
-/

namespace QueryDraft.Cli

/-- The two places at which a command line is read: before the command and after it. -/
inductive Stage where
  | program
  | build
  deriving DecidableEq

namespace Stage

/-- How a stage of a program with a name is called. -/
def invocation (program : String) : Stage → String
  | .program => program
  | .build => program ++ " build"

/-- What a stage takes. -/
def usage (program : String) (s : Stage) : String :=
  "Usage: " ++ s.invocation program ++ match s with
    | .program => " [OPTIONS] COMMAND [ARGS]..."
    | .build => " [OPTIONS]"

/-- The lines of help after the usage. -/
def helpLines : Stage → List String
  | .program => [
    "  QueryKit: build SQL and search queries from YAML and analyze them.",
    "",
    "Options:",
    "  --config FILE  Path to YAML config file.  [default: config/default.yml]",
    "  --help         Show this message and exit.",
    "",
    "Commands:",
    "  build  Build the configured queries and print them with their analysis."]
  | .build => [
    "  Build the configured queries and print them with their analysis.",
    "",
    "  All parameters are read from the YAML config passed to the root command.",
    "",
    "  Args:     ctx: Click context.",
    "",
    "  Raises:     click.Abort: When the build fails.",
    "",
    "Options:",
    "  --help  Show this message and exit."]

/-- The help of a stage. -/
def help (program : String) (s : Stage) : String :=
  "\n".intercalate (s.usage program :: "" :: s.helpLines) ++ "\n"

/-- Where a stage sends a user who needs help. -/
def pointer (program : String) (s : Stage) : String :=
  "Try '" ++ s.invocation program ++ " --help' for help."

end Stage

end QueryDraft.Cli
