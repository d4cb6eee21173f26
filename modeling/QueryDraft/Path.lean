/-!
# Paths

A path is a root and the names below it. Empty names and single dots are left out when a path is
read, so every path has one text: two slashes at the front are a root of their own, and a path
without names and root is a dot.
-/

namespace QueryDraft

/-- A path of a file or directory. -/
structure Path where
  root : String := ""
  names : List String := []
  deriving DecidableEq

namespace Path

/-- The parts of the characters between slashes. -/
def splitSlashes : List Char → List (List Char)
  | [] => [[]]
  | c :: cs =>
    if c = '/' then [] :: splitSlashes cs
    else match splitSlashes cs with
      | [] => [[c]]
      | part :: parts => (c :: part) :: parts

/-- The root that the characters start with. -/
def rootOf : List Char → String
  | '/' :: '/' :: '/' :: _ => "/"
  | '/' :: '/' :: _ => "//"
  | '/' :: _ => "/"
  | _ => ""

/-- The path with a text. -/
def ofText (s : String) : Path where
  root := rootOf s.toList
  names := ((splitSlashes s.toList).map String.ofList).filter fun name => name ≠ "" ∧ name ≠ "."

/-- The text of a path. -/
def text (p : Path) : String :=
  let body := p.root ++ "/".intercalate p.names
  if body = "" then "." else body

/-- A path below another; one with a root of its own stands for itself. -/
def join (p q : Path) : Path := if q.root = "" then ⟨p.root, p.names ++ q.names⟩ else q

/-- The path of a named file or directory below another. -/
def child (p : Path) (name : String) : Path := p.join (ofText name)

/-- A path one name further. Two dots lead to the directory above: they take back the last name,
stay at a root, and are kept where there is nothing to take back. -/
def step (p : Path) (name : String) : Path :=
  if name ≠ ".." then ⟨p.root, p.names ++ [name]⟩
  else match p.names.getLast? with
    | none => if p.root = "" then ⟨p.root, [".."]⟩ else p
    | some ".." => ⟨p.root, p.names ++ [".."]⟩
    | some _ => ⟨p.root, p.names.dropLast⟩

/-- The path without the names that two dots after them take back. -/
def settled (p : Path) : Path := p.names.foldl step ⟨p.root, []⟩

/-- The directory that a path without names and the same root stands for. -/
def start (p : Path) : Path := ⟨p.root, []⟩

/-- The paths above a path, the nearest last, its start left out. -/
def above (p : Path) : List Path :=
  (List.range p.names.length).tail.map fun n => ⟨p.root, p.names.take n⟩

end Path

end QueryDraft
