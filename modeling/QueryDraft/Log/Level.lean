import QueryDraft.Text.Case

/-!
# Levels of the log

A level is a number, the greater the more urgent. The named levels are ten apart; a record with any
other number is let through like the rest but has no name.
-/

namespace QueryDraft.Log.Level

/-- Details. -/
def debug : Int := 10

/-- Plain information. -/
def info : Int := 20

/-- Something to look at. -/
def warning : Int := 30

/-- A failure. -/
def error : Int := 40

/-- A failure that ends everything. -/
def critical : Int := 50

/-- The names of the levels; zero stands for a level that is not set. -/
def names : List (String × Int) :=
  [("DEBUG", debug), ("INFO", info), ("WARNING", warning), ("WARN", warning), ("ERROR", error),
    ("CRITICAL", critical), ("FATAL", critical), ("NOTSET", 0)]

/-- The level with a name in any case; any other name stands for plain information. -/
def ofName (name : String) : Int := (names.lookup (Text.upper name)).getD info

/-- The four letters that a line shows for a level. -/
def abbreviation (level : Int) : String :=
  if level = debug then "DEBG"
  else if level = info then "INFO"
  else if level = warning then "WARN"
  else if level = error || level = critical then "ERRO"
  else if level = 0 then "NOTS"
  else "Leve"

end QueryDraft.Log.Level
