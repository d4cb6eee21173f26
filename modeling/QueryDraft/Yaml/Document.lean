import QueryDraft.Text.Encoding
import QueryDraft.Value.Key
import QueryDraft.Yaml.Node
import QueryDraft.Yaml.Scalar

/-!
# Documents

The value of a document: plain scalars stand for what they spell, quoted ones for their text. Of
entries with one key the last value counts, in the place of the first. A list or a mapping is no
key. An empty document stands for an absent value.

Of several faults the one that lies least deep is told, and of those the first.
-/

namespace QueryDraft.Yaml

/-- A result, or a fault with its depth. -/
abbrev Leveled (α : Type) := Except (Nat × Error) α

/-- A result at a depth. -/
def atDepth {α : Type} (depth : Nat) : Outcome α → Leveled α
  | .ok a => .ok a
  | .error e => .error (depth, e)

/-- Two results, or the fault that lies less deep, the first of two that are equally deep. -/
def both {α β : Type} : Leveled α → Leveled β → Leveled (α × β)
  | .ok a, .ok b => .ok (a, b)
  | .error e, .ok _ => .error e
  | .ok _, .error f => .error f
  | .error e, .error f => .error (if f.1 < e.1 then f else e)

/-- The key that a node is. An equals sign is a text as a key. -/
def Node.key (depth : Nat) : Node → Leveled Value
  | .scalar true "=" => .ok (.text "=")
  | .scalar true text => atDepth depth (Scalar.value text)
  | .scalar false text => .ok (.text text)
  | .sequence _ | .mapping _ => .error (depth, .failed .malformedDocument)

mutual

/-- The value of a node, which lies in a list or mapping at a depth. -/
def Node.value (depth : Nat) : Node → Leveled Value
  | .scalar true text => atDepth depth (Scalar.value text)
  | .scalar false text => .ok (.text text)
  | .sequence items => .list <$> nodeValues (depth + 1) items
  | .mapping pairs => (fun ps => .map (Entries.ofPairs ps)) <$> nodePairs (depth + 1) pairs

/-- The values of nodes. -/
def nodeValues (depth : Nat) : List Node → Leveled (List Value)
  | [] => .ok []
  | n :: ns => (fun (v, vs) => v :: vs) <$> both (n.value depth) (nodeValues depth ns)

/-- The entries of a mapping's nodes. -/
def nodePairs (depth : Nat) : List (Node × Node) → Leveled (List (Value × Value))
  | [] => .ok []
  | (k, v) :: ns =>
    (fun (e, es) => e :: es) <$> both (both (k.key depth) (v.value depth)) (nodePairs depth ns)

end

/-- The value of the document in a text. -/
def document (s : String) : Outcome Value := do
  match ← (tokens s).node? with
  | some n => (n.value 0).mapError (·.2)
  | none => return .null

/-- The value of the document that a value holds as text or in octets. -/
def documentOf (v : Value) : Outcome Value :=
  match v, v.text? with
  | _, some s => document s
  | .bytes octets, none => match Text.decode? octets with
    | some s => document s
    | none => fail .malformedDocument
  | _, none => fail .noSuchPart

end QueryDraft.Yaml
