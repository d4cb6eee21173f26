import QueryDraft.Text.Quoted
import QueryDraft.Value.View

/-!
# Display form of a value

`Value.display` writes a value so that its kind can be seen: texts are quoted, a tuple of one member
keeps a comma, a word shows its vocabulary, and a part shows its labelled fields.
`Value.plain` differs where a value is written on its own: a text, a word and a day then stand
without quotes and brackets.
-/

namespace QueryDraft

namespace Display

/-- Texts with a comma and a space between two of them. -/
def commas (texts : List String) : String := ", ".intercalate texts

/-- The members of a tuple in brackets. -/
def tuple (texts : List String) : String :=
  match texts with
  | [one] => "(" ++ one ++ ",)"
  | _ => "(" ++ commas texts ++ ")"

/-- The members of a set. -/
def set (texts : List String) : String :=
  if texts.isEmpty then "frozenset()" else "frozenset(\x7b" ++ commas texts ++ "\x7d)"

/-- A labelled field. The aggregations of a request, where it has some, show that they cannot be
changed. -/
def field (kind : Kind) (label text : String) : String :=
  label ++ "=" ++
    if kind = .request ∧ label = "aggregations" ∧ text ≠ "None" then "mappingproxy(" ++ text ++ ")"
    else text

/-- A part: its kind and its fields with their labels. -/
def part (kind : Kind) (texts : List String) : String :=
  kind.name ++ "(" ++ commas ((kind.labels.zip texts).map fun (label, text) =>
    field kind label text) ++ ")"

/-- A day by its numbers. -/
def date (d : Date) : String :=
  "datetime.date(" ++ commas [toString d.year, toString d.month, toString d.day] ++ ")"

/-- A word by vocabulary, name and text. -/
def word (w : Word) : String := "<" ++ w.qualified ++ ": " ++ Text.quoted w.text ++ ">"

end Display

mutual

/-- The display form of a value. -/
def Value.display : Value → String
  | .null => "None"
  | .bool true => "True"
  | .bool false => "False"
  | .int n => toString n
  | .float x => x.text
  | .text s => Text.quoted s
  | .word w => Display.word w
  | .bytes bs => Text.quotedOctets bs
  | .date d => Display.date d
  | .list vs => "[" ++ Display.commas (displayAll vs) ++ "]"
  | .tuple vs => Display.tuple (displayAll vs)
  | .set vs => Display.set (displayAll vs)
  | .map es => "\x7b" ++ Display.commas (displayEntries es) ++ "\x7d"
  | .part kind fields => Display.part kind (displayAll fields)

/-- The display forms of values. -/
def displayAll : List Value → List String
  | [] => []
  | v :: vs => v.display :: displayAll vs

/-- The display forms of entries. -/
def displayEntries : List (Value × Value) → List String
  | [] => []
  | (k, v) :: es => (k.display ++ ": " ++ v.display) :: displayEntries es

end

/-- A value written on its own. -/
def Value.plain : Value → String
  | .text s => s
  | .word w => w.qualified
  | .date d => d.text
  | v => v.display

/-- The display form of a list of values. -/
def Value.displayList (vs : List Value) : String := (Value.list vs).display

end QueryDraft
