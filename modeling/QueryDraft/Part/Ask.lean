import QueryDraft.Sql.Statement
import QueryDraft.Search.Part
import QueryDraft.Access

/-!
# What parts and words can be asked

Some kinds of parts and some words answer questions that are not about a field: whether an operator
takes a value, how bad a rating is, which values a condition or a statement has. A value that has
no answer fails.
-/

namespace QueryDraft.Value

/-- The operator that a value is. -/
def operator : Value → Outcome Operator
  | .word (.operator o) => .ok o
  | _ => fail .noSuchPart

/-- The rating that a value is. -/
def rating : Value → Outcome Rating
  | .word (.rating r) => .ok r
  | _ => fail .noSuchPart

/-- The values of a condition or a statement in the order of their placeholders. -/
def parameters : Value → Outcome Value
  | .part .condition [_, .word (.operator o), value, _] => do
    return .tuple (← Sql.Condition.parametersOf o value)
  | v => v.field "parameters"

/-- The bounds of a range that are set, or the entries of a mapping, as pairs. -/
def boundPairs (v : Value) : Outcome Value :=
  match Bounds.ofValue? v with
  | some b => .ok (.list (b.items.map fun (name, bound) => .tuple [.text name, bound]))
  | none => do return .list ((← v.entries).map fun (key, bound) => .tuple [key, bound])

/-- How often a placeholder stands in a text, or in a list as an item. -/
def placeholdersIn (v : Value) : Outcome Nat :=
  match v with
  | .list vs | .tuple vs => .ok (vs.countP fun w => w.same (.text "?"))
  | .bytes _ => fail .mismatch
  | _ => match v.text? with
    | some s => .ok (s.toList.count '?')
    | none => fail .noSuchPart

/-- How many placeholders the text of a statement holds. -/
def placeholderCount (v : Value) : Outcome Nat := do
  match v with
  | .part .statement _ => (← v.field "text").placeholdersIn
  | _ => fail .noSuchPart

end QueryDraft.Value
