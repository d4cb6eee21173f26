import QueryDraft.Error
import QueryDraft.Value.Order

/-!
# Values of any shape

What an analysis, a report or a check asks of the values that it is given: a field, the items, a
binding, a comparison. A value that does not have what it is asked for is a failure; nothing is
assumed of its shape.
-/

namespace QueryDraft.Value

/-- The field of a value with a label. -/
def field (v : Value) (label : String) : Outcome Value :=
  match v.field? label with
  | some w => .ok w
  | none => fail .noSuchPart

/-- The items of a value. -/
def items (v : Value) : Outcome (List Value) :=
  match v.items? with
  | some vs => .ok vs
  | none => fail .mismatch

/-- The entries of a mapping. -/
def entries (v : Value) : Outcome Entries :=
  match v.entries? with
  | some es => .ok es
  | none => fail .noSuchPart

/-- Whether one value is less than another. -/
def less (v w : Value) : Outcome Bool :=
  match v.less? w with
  | some b => .ok b
  | none => fail .mismatch

/-- Demands that a value can be a key. -/
def requireKey (v : Value) : Outcome Unit := if v.isKey then .ok () else fail .mismatch

/-- The value that a mapping binds to a key, if it binds one. -/
def binding? (es : Entries) (key : Value) : Option Value := key.key?.bind (Entries.find? es)

/-- Whether a list stands somewhere in another. -/
def isRun {α : Type} [BEq α] (run : List α) : List α → Bool
  | [] => run.isEmpty
  | a :: as => run.isPrefixOf (a :: as) || isRun run as

/-- Whether octets hold an octet, given by its number, or a run of octets. -/
def octetsHold (octets : List UInt8) (member : Value) : Outcome Bool :=
  match member, member.number? with
  | .bytes run, _ => .ok (isRun run octets)
  | _, some (.int n) =>
    if 0 ≤ n && n < 256 then .ok (octets.any fun b => (b.toNat : Int) == n) else fail .meaningless
  | _, _ => fail .mismatch

/-- Whether a value holds another: a mapping as a key, a set, list or tuple as a member, a text as a
part of it. -/
def holds (v member : Value) : Outcome Bool :=
  match v with
  | .map es => do
    member.requireKey
    return (binding? es member).isSome
  | .set vs => do
    member.requireKey
    return vs.any member.sameKey
  | .list vs | .tuple vs => .ok (vs.any member.same)
  | .bytes octets => octetsHold octets member
  | _ => match v.text?, member.text? with
    | some s, some run => .ok (isRun run.toList s.toList)
    | _, _ => fail .mismatch

/-- The item at a place; a negative place is counted from the end. -/
def itemAt (vs : List Value) (place : Value) : Outcome Value :=
  match place.number? with
  | some (.int n) =>
    match if n < 0 then if -n ≤ vs.length then vs[(vs.length + n).toNat]? else none
        else vs[n.toNat]? with
    | some v => .ok v
    | none => fail .outOfRange
  | _ => fail .mismatch

/-- What a value has under a key, or at a place. -/
def fetch (v key : Value) : Outcome Value :=
  match v with
  | .map es => match binding? es key with
    | some w => .ok w
    | none => fail .noSuchPart
  | .set _ => fail .mismatch
  | _ => do itemAt (← v.items) key

/-- The pair that a value is. -/
def pair (v : Value) : Outcome (Value × Value) := do
  match ← v.items with
  | [key, w] => do
    key.requireKey
    return (key, w)
  | _ => fail .meaningless

/-- The entries that a value lists: those of a mapping, or those that its items are as pairs. -/
def listedEntries (v : Value) : Outcome Entries :=
  match v with
  | .map es => .ok es
  | _ => do return Entries.ofPairs (← (← v.items).mapM pair)

/-- A mapping that binds keys one after another. -/
def ofPairs (pairs : List (Value × Value)) : Outcome Value := do
  pairs.forM fun p => p.1.requireKey
  return .map (Entries.ofPairs pairs)

/-- A set of values. -/
def ofMembers (vs : List Value) : Outcome Value := do
  vs.forM requireKey
  return .set (distinct vs)

end QueryDraft.Value
