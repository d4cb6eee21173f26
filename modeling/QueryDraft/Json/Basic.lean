import QueryDraft.Error

/-!
# JSON trees

The tree that a value is written as. Lists and tuples make arrays, mappings make objects in their
order, a word makes the string of its text. A value that JSON has no form for is written as the
string of its plain form, so only a key can be in the way: keys are strings, and numbers, truths and
absent values as the strings of their JSON form.
-/

namespace QueryDraft

/-- A JSON tree; numbers are kept in their notation. -/
inductive Json where
  | null
  | bool (b : Bool)
  | number (digits : String)
  | string (s : String)
  | array (items : List Json)
  | object (members : List (String × Json))

/-- The JSON notation of a number of the binary format. -/
def Binary64.jsonText : Binary64 → String
  | .nan => "NaN"
  | .infinity false => "Infinity"
  | .infinity true => "-Infinity"
  | x => x.text

/-- The member name that a key is written as. -/
def Value.memberName : Value → Outcome String
  | .null => .ok "null"
  | .bool true => .ok "true"
  | .bool false => .ok "false"
  | .int n => .ok (toString n)
  | .float x => .ok x.jsonText
  | .text s => .ok s
  | .word w => .ok w.text
  | v => fail (.unwritableKey v.typeName)

mutual

/-- The tree that a value is written as. -/
def Value.toJson : Value → Outcome Json
  | .null => .ok .null
  | .bool b => .ok (.bool b)
  | .int n => .ok (.number (toString n))
  | .float x => .ok (.number x.jsonText)
  | .text s => .ok (.string s)
  | .word w => .ok (.string w.text)
  | .list vs => do return .array (← itemsToJson vs)
  | .tuple vs => do return .array (← itemsToJson vs)
  | .map es => do return .object (← entriesToJson es)
  | v => .ok (.string v.plain)

/-- The trees that values are written as. -/
def itemsToJson : List Value → Outcome (List Json)
  | [] => .ok []
  | v :: vs => do
    let first ← v.toJson
    let rest ← itemsToJson vs
    return first :: rest

/-- The members that entries are written as. -/
def entriesToJson : List (Value × Value) → Outcome (List (String × Json))
  | [] => .ok []
  | (k, v) :: es => do
    let name ← k.memberName
    let first ← v.toJson
    let rest ← entriesToJson es
    return (name, first) :: rest

end

end QueryDraft
