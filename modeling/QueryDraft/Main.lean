import QueryDraft.Cli.Command
import QueryDraft.Yaml.Document
import Std.Time.Format

/-!
# The program

The operations of a run on the files and the clock of the computer, and the program that runs on
them. It reads a configuration written in YAML. An error that nothing caught is printed and ends
with code 1.
-/

namespace QueryDraft.Computer

/-- The failure of an operation on a path, from the error that the system reports. -/
def failure (path : String) : IO.Error → Failure
  | .noFileOrDirectory _ _ _ => .missingFile path
  | .inappropriateType _ code _ => if code = 21 then .isDirectory path else .notDirectory path
  | .alreadyExists _ _ _ => .fileExists path
  | .permissionDenied _ _ _ => .accessDenied path
  | e => .system (toString e)

/-- Does something to a path. -/
def attempt {α : Type} (path : String) (operation : IO α) : IO (Except Failure α) := do
  if path.toList.contains '\x00' then return .error .endInPath
  try
    return .ok (← operation)
  catch e => return .error (failure path e)

/-- Whether there is a directory at a path. -/
def hasDirectory (path : String) : IO Bool := do
  try
    return ← (← IO.FS.realPath path).isDir
  catch _ => return false

/-- Makes one directory unless it is there. -/
def makeOne (path : String) : IO (Except Failure Unit) := do
  match ← attempt path (IO.FS.createDir path) with
  | .ok () => return .ok ()
  | .error f => if ← hasDirectory path then return .ok () else return .error f

/-- Makes the directory that the names lead to from a root, the last name first. Those above it are
made only if they are missing. -/
def makeBelow (root : String) : List String → IO (Except Failure Unit)
  | [] => makeOne (Path.text ⟨root, []⟩)
  | name :: names => do
    let path := Path.text ⟨root, (name :: names).reverse⟩
    match ← makeOne path with
    | .error (.missingFile _) => match ← makeBelow root names with
      | .ok () => makeOne path
      | .error f => return .error f
    | result => return result

/-- Adds to a file, which is made if it is not there. -/
def appendTo (path content : String) : IO Unit := do
  let file ← IO.FS.Handle.mk path .append
  file.putStr content

/-- A number of two digits. -/
def two (n : Int) : String := Date.padded 2 n.toNat

/-- The hour, minute and second of a time, with something between them. -/
def clock (between : String) (t : Std.Time.PlainDateTime) : String :=
  between.intercalate [two t.hour.val, two t.minute.val, two t.second.val]

/-- The month and day of a time, with something between them. -/
def monthAndDay (between : String) (t : Std.Time.PlainDateTime) : String :=
  between.intercalate [two t.month.val, two t.day.val]

/-- The operations of a run on the computer. A log line that cannot be written is lost. -/
def host : Host IO where
  programName := "querykit"
  isDirectory path := attempt path (hasDirectory path)
  read path := do
    return (← attempt path (IO.FS.readFile path)).map Text.universalNewlines
  makeDirectory path :=
    let p := Path.ofText path
    makeBelow p.root p.names.reverse
  openFile path := attempt path (appendTo path "")
  append path content := try appendTo path content catch _ => return ()
  write path content := attempt path (IO.FS.writeFile path content)
  out := IO.print
  err := IO.eprint
  lineStart := do
    let t ← Std.Time.PlainDateTime.now
    return monthAndDay "-" t ++ " " ++ clock ":" t ++ " "
  logStamp := do
    let t ← Std.Time.PlainDateTime.now
    return monthAndDay "" t ++ clock "" t
  reportStamp := do
    let t ← Std.Time.PlainDateTime.now
    return Date.padded 4 (Int.toNat t.year) ++ monthAndDay "" t ++ "_" ++ clock "" t

end QueryDraft.Computer

/-- Runs the program on the arguments of its command line. -/
def main (args : List String) : IO UInt32 := do
  match ← QueryDraft.Cli.run QueryDraft.Computer.host QueryDraft.Yaml.document args with
  | .exit code => return code.toUInt32
  | .failed e => do
    IO.eprintln e.text
    return 1
