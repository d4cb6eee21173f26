import QueryDraft.Log.Level
import QueryDraft.Path

/-!
# The logger

A logger hands a record to each of its handlers that takes records of the level. Setting it up again
puts new handlers in the place of the old ones, which are closed; a logger that was never set up has
a handler that drops everything.

The console handler has the level that was asked for. A file handler takes everything from the
details on, and with one the logger lets the details through; without one it lets through what the
console takes, or what is urgent if the level is not set.
-/

namespace QueryDraft.Log

/-- A line for the log. -/
structure Record where
  level : Int
  message : String

namespace Record

/-- A record of details. -/
def debug (message : String) : Record := ⟨Level.debug, message⟩

/-- A record of plain information. -/
def info (message : String) : Record := ⟨Level.info, message⟩

/-- A record of a failure. -/
def error (message : String) : Record := ⟨Level.error, message⟩

/-- The text of a record, without the clock. -/
def text (r : Record) : String := "[" ++ Level.abbreviation r.level ++ "] " ++ r.message

end Record

/-- Where records go. -/
inductive Handler where
  | nowhere
  | console (level : Int)
  | file (path : String)
  deriving DecidableEq

/-- The least level of the records that a handler takes. -/
def Handler.level : Handler → Int
  | .nowhere => 0
  | .console level => level
  | .file _ => Level.debug

/-- A logger with its handlers and those that it has closed. -/
structure Logger where
  level : Int := 0
  handlers : List Handler := [.nowhere]
  closed : List Handler := []

/-- How a logger is set up. An empty action stands for none. -/
structure Setup where
  level : String := "INFO"
  action : String := ""
  toFile : Bool := false
  dir : String := "log"

namespace Setup

/-- Whether the log goes to a file as well. -/
def hasFile (s : Setup) : Bool := s.toFile && s.action != ""

/-- The directory of the log file. -/
def directory (s : Setup) : Path :=
  (Path.ofText (if s.dir = "" then "log" else s.dir)).child s.action

/-- The path of the log file that is opened at a time. Steps up in it are taken before it is looked
for. -/
def filePath (s : Setup) (stamp : String) : Path :=
  (s.directory.child (s.action ++ "_" ++ stamp ++ ".log")).settled

/-- The level of the console. -/
def consoleLevel (s : Setup) : Int := Level.ofName s.level

/-- The level of the logger. -/
def loggerLevel (s : Setup) : Int := if s.hasFile then Level.debug else s.consoleLevel

/-- The handlers to install. -/
def handlers (s : Setup) (stamp : String) : List Handler :=
  .console s.consoleLevel :: if s.hasFile then [.file (s.filePath stamp).text] else []

end Setup

namespace Logger

/-- Closes a handler. -/
def close (l : Logger) (h : Handler) : Logger := { l with closed := l.closed ++ [h] }

/-- Takes all handlers off. -/
def clear (l : Logger) : Logger := { l with handlers := [] }

/-- Adds a handler after those that are there. -/
def add (l : Logger) (h : Handler) : Logger := { l with handlers := l.handlers ++ [h] }

/-- Closes the handlers one by one, takes them off, adds new ones and sets the level. -/
def replace (l : Logger) (level : Int) (hs : List Handler) : Logger :=
  { hs.foldl add (l.handlers.foldl close l).clear with level }

/-- Installs the handlers of a set-up and closes those that were there. -/
def install (l : Logger) (s : Setup) (stamp : String) : Logger where
  level := if s.hasFile then Level.debug else s.consoleLevel
  handlers := s.handlers stamp
  closed := l.closed ++ l.handlers

/-- The least level that a logger lets through. -/
def threshold (l : Logger) : Int := if l.level = 0 then Level.warning else l.level

/-- The handlers that get a record. -/
def receivers (l : Logger) (r : Record) : List Handler :=
  if l.threshold ≤ r.level then l.handlers.filter fun h => h.level ≤ r.level else []

end Logger

end QueryDraft.Log
