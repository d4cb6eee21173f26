import QueryDraft.Host
import QueryDraft.Text.Lines

/-!
# Files held in memory

A workspace is what a run can see and change when its files are held in memory: directories, files
in the order in which they were made, and what was printed.

A path is followed name by name (`follow`): whatever stands before a name has to be a directory,
even if the name leads back up, and no name may be too long. The directories above the start are
there but hold nothing else.
-/

namespace QueryDraft

/-- Files, directories and what was printed. -/
structure Workspace where
  directories : List Path := []
  files : List (Path × String) := []
  stdout : String := ""
  stderr : String := ""

/-- What stands at a place. -/
inductive Entry where
  | directory
  | file (content : String)

namespace Workspace

/-- What stands at a place. -/
def entryAt? (w : Workspace) (p : Path) : Option Entry :=
  match w.files.lookup p with
  | some content => some (.file content)
  | none =>
    if p.names.all (· = "..") || w.directories.contains p then some .directory else none

/-- The number of octets that a name may have. -/
def longestName : Nat := 255

/-- The number of octets that a path may have. -/
def longestPath : Nat := 4095

/-- Follows names from a place. Nothing has to be where the last one leads. -/
def follow (w : Workspace) (text : String) (place : Path) : List String → Except Failure Path
  | [] => .ok place
  | name :: names =>
    match w.entryAt? place with
    | none => .error (.missingFile text)
    | some (.file _) => .error (.notDirectory text)
    | some .directory =>
      if longestName < name.utf8ByteSize then .error (.nameTooLong text)
      else w.follow text (place.step name) names

/-- The place that a path leads to. -/
def locate (w : Workspace) (p : Path) : Except Failure Path :=
  let text := p.text
  if text.toList.contains '\x00' then .error .endInPath
  else if longestPath < text.utf8ByteSize then .error (.nameTooLong text)
  else w.follow text p.start p.names

/-- Makes the directory at a path unless it is there. -/
def makeOne (w : Workspace) (p : Path) : Except Failure Workspace := do
  let place ← w.locate p
  match w.entryAt? place with
  | some .directory => return w
  | some (.file _) => .error (.fileExists p.text)
  | none => return { w with directories := w.directories ++ [place] }

/-- Makes the directory that names lead to, the last name first, and those above it that are
missing. -/
def makeBelow (w : Workspace) (root : String) : List String → Except Failure Workspace
  | [] => w.makeOne ⟨root, []⟩
  | name :: names =>
    let p : Path := ⟨root, (name :: names).reverse⟩
    match w.makeOne p with
    | .error (.missingFile _) => do (← w.makeBelow root names).makeOne p
    | result => result

/-- Makes a directory. -/
def makeDirectory (w : Workspace) (text : String) : Except Failure Workspace :=
  let p := Path.ofText text
  w.makeBelow p.root p.names.reverse

/-- The files with the text of one replaced, a new one added at the end. -/
def putFile (files : List (Path × String)) (p : Path) (text : String) : List (Path × String) :=
  match files with
  | [] => [(p, text)]
  | (q, old) :: rest => if q = p then (p, text) :: rest else (q, old) :: putFile rest p text

/-- Changes the text of a file; one that is not there is made from no text. -/
def change (w : Workspace) (text : String) (f : String → String) : Except Failure Workspace := do
  let place ← w.locate (.ofText text)
  match w.entryAt? place with
  | some .directory => .error (.isDirectory text)
  | some (.file content) => return { w with files := putFile w.files place (f content) }
  | none => match w.entryAt? ⟨place.root, place.names.dropLast⟩ with
    | some .directory => return { w with files := putFile w.files place (f "") }
    | _ => .error (.missingFile text)

/-- Writes a file. -/
def write (w : Workspace) (text content : String) : Except Failure Workspace :=
  w.change text fun _ => content

/-- Makes a file unless it is there. -/
def openFile (w : Workspace) (text : String) : Except Failure Workspace := w.change text id

/-- Adds to a file. -/
def append (w : Workspace) (text content : String) : Workspace :=
  match w.change text (· ++ content) with
  | .ok w => w
  | .error _ => w

/-- The text of a file. -/
def read (w : Workspace) (text : String) : Except Failure String := do
  match w.entryAt? (← w.locate (.ofText text)) with
  | some (.file content) => return Text.universalNewlines content
  | some .directory => .error (.isDirectory text)
  | none => .error (.missingFile text)

/-- Whether a path, as the user wrote it, is that of a directory. A path that leads nowhere is not,
but one that is none fails. -/
def isDirectory (w : Workspace) (text : String) : Except Failure Bool :=
  match w.locate (.ofText text) with
  | .error .endInPath => .error .endInPath
  | .error _ => .ok false
  | .ok place => match w.entryAt? place with
    | some .directory => .ok (text != "")
    | _ => .ok false

/-- A workspace with a file and the directories above it. -/
def withFile (w : Workspace) (text content : String) : Workspace :=
  let p := (Path.ofText text).settled
  let missing := p.above.filter fun q => !w.directories.contains q
  { w with directories := w.directories ++ missing, files := putFile w.files p content }

/-- Runs an operation that may fail on the state. -/
def attempt (operation : Workspace → Except Failure Workspace) :
    StateM Workspace (Except Failure Unit) := do
  match operation (← get) with
  | .ok w => set w; return .ok ()
  | .error f => return .error f

/-- The stamp in the name of a log file. -/
def logStamp : String := "0101000000"

/-- The stamp in the name of a report. -/
def reportStamp : String := "20000101_000000"

/-- The operations of a run on a workspace. Lines carry no clock, and stamps are of one time. -/
def host : Host (StateM Workspace) where
  programName := "cli"
  isDirectory text := return (← get).isDirectory text
  read text := return (← get).read text
  makeDirectory text := attempt fun w => w.makeDirectory text
  openFile text := attempt fun w => w.openFile text
  append text content := modify fun w => w.append text content
  write text content := attempt fun w => w.write text content
  out text := modify fun w => { w with stdout := w.stdout ++ text }
  err text := modify fun w => { w with stderr := w.stderr ++ text }
  lineStart := return ""
  logStamp := return logStamp
  reportStamp := return reportStamp

end Workspace

end QueryDraft
