import QueryDraft.Value.Basic

/-!
# Views of a value

What a value counts as where a rule asks for a text, a collection, a mapping or a truth. A word
counts as its text; a map counts as the collection of its keys, a text as that of its characters
and a run of octets as that of their numbers, but only where a rule goes through the items of
anything that has some (`items?`).
-/

namespace QueryDraft.Value

/-- The text that a value counts as. -/
def text? : Value → Option String
  | .text s => some s
  | .word w => some w.text
  | _ => none

/-- The entries of a mapping. -/
def entries? : Value → Option Entries
  | .map es => some es
  | _ => none

/-- The members of a list or tuple. -/
def sequence? : Value → Option (List Value)
  | .list vs => some vs
  | .tuple vs => some vs
  | _ => none

/-- The members of a list, tuple or set. -/
def collection? : Value → Option (List Value)
  | .list vs => some vs
  | .tuple vs => some vs
  | .set vs => some vs
  | _ => none

/-- The whole number that a value is, truths left out. -/
def int? : Value → Option Int
  | .int n => some n
  | _ => none

/-- The number that a value counts as; a truth is one or zero. -/
def number? : Value → Option Number
  | .bool b => some (.int (if b then 1 else 0))
  | .int n => some (.int n)
  | .float x => some (.float x)
  | _ => none

/-- The characters of a text, each as a text. -/
def characters (s : String) : List Value := s.toList.map fun c => .text c.toString

/-- The items of whatever has items. -/
def items? : Value → Option (List Value)
  | .text s => some (characters s)
  | .word w => some (characters w.text)
  | .bytes bs => some (bs.map fun b => .int b.toNat)
  | .list vs => some vs
  | .tuple vs => some vs
  | .set vs => some vs
  | .map es => some (es.map (·.1))
  | _ => none

/-- Whether a value counts as true: neither absent, nor zero, nor empty. -/
def isTruthy : Value → Bool
  | .null => false
  | .bool b => b
  | .int n => n != 0
  | .float x => x != .finite 0 && x != .negativeZero
  | .text s => s != ""
  | .bytes bs => !bs.isEmpty
  | .list vs => !vs.isEmpty
  | .tuple vs => !vs.isEmpty
  | .set vs => !vs.isEmpty
  | .map es => !es.isEmpty
  | _ => true

/-- Whether a value is absent. -/
def isNull : Value → Bool
  | .null => true
  | _ => false

end QueryDraft.Value

namespace QueryDraft

/-- The name of a value's kind, as messages give it. -/
def Value.typeName : Value → String
  | .null => "NoneType"
  | .bool _ => "bool"
  | .int _ => "int"
  | .float _ => "float"
  | .text _ => "str"
  | .word w => w.vocabulary
  | .bytes _ => "bytes"
  | .date _ => "date"
  | .list _ => "list"
  | .tuple _ => "tuple"
  | .set _ => "frozenset"
  | .map _ => "dict"
  | .part kind _ => kind.name

/-- What a part has under a label: a field, or one of its operations, for which the part itself
stands. A word has a text and a name. -/
def Value.field? (v : Value) (label : String) : Option Value :=
  match v with
  | .word w =>
    if label = "value" then some (.text w.text)
    else if label = "name" then some (.text w.name)
    else none
  | .part kind fields =>
    if kind.operations.contains label then some v else (kind.labels.zip fields).lookup label
  | _ => none

end QueryDraft
