import QueryDraft.Error
import QueryDraft.Log.Logger

/-!
# What a run needs from outside

A run reads and writes files and prints. It does so through a `Host`, which says what each operation
does in some monad, so the same run works on the files of a computer and on files held in memory. An
operation that can fail answers how it failed.

Everything is timed by the host as well: the start of a log line, and the stamps in file names. It
also knows what the program is called as.
-/

namespace QueryDraft

/-- The operations that a run uses. -/
structure Host (m : Type → Type) where
  /-- What the program is called as. -/
  programName : String
  /-- Whether a path, as the user wrote it, is that of a directory. -/
  isDirectory : String → m (Except Failure Bool)
  /-- The text of a file, its line ends brought into one form. -/
  read : String → m (Except Failure String)
  /-- Makes a directory and those above it, unless they are there. -/
  makeDirectory : String → m (Except Failure Unit)
  /-- Makes a file unless it is there. -/
  openFile : String → m (Except Failure Unit)
  /-- Adds to a file that was opened. -/
  append : String → String → m Unit
  /-- Writes a file. -/
  write : String → String → m (Except Failure Unit)
  /-- Prints a result. -/
  out : String → m Unit
  /-- Prints a message. -/
  err : String → m Unit
  /-- What a log line starts with. -/
  lineStart : m String
  /-- The stamp in the name of a log file. -/
  logStamp : m String
  /-- The stamp in the name of a report. -/
  reportStamp : m String

namespace Log

variable {m : Type → Type} [Monad m]

/-- Makes the handlers of a set-up. For the one of a file the directory is made and the file opened,
either of which may fail. -/
def Setup.makeHandlers (host : Host m) (s : Setup) (stamp : String) :
    m (Except Failure (List Handler)) := do
  if !s.hasFile then return .ok (s.handlers stamp)
  match ← host.makeDirectory s.directory.text with
  | .error f => return .error f
  | .ok () => match ← host.openFile (s.filePath stamp).text with
    | .error f => return .error f
    | .ok () => return .ok (s.handlers stamp)

/-- Sets up the logger that is in use. Its handlers are let go only when the new ones are made. -/
def Setup.apply (host : Host m) (s : Setup) : StateT Logger m (Except Failure Unit) := do
  let stamp ← host.logStamp
  match ← (s.makeHandlers host stamp : m _) with
  | .error f => return .error f
  | .ok hs => do
    modify (·.replace s.loggerLevel hs)
    return .ok ()

/-- Sets a logger up. If its directory or file cannot be made, there is none. -/
def Logger.configure (host : Host m) (l : Logger) (s : Setup) : m (Except Failure Logger) := do
  let (answer, l) ← (s.apply host).run l
  return answer.map fun () => l

/-- Hands a line to a handler. -/
def Handler.put (host : Host m) (line : String) : Handler → m Unit
  | .nowhere => return ()
  | .console _ => host.err line
  | .file path => host.append path line

/-- Logs a record. -/
def Logger.log (host : Host m) (l : Logger) (r : Record) : m Unit := do
  let start ← host.lineStart
  (l.receivers r).forM (Handler.put host (start ++ r.text ++ "\n"))

end Log

end QueryDraft
