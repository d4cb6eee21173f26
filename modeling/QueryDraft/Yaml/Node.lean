import QueryDraft.Yaml.Token

/-!
# Trees of a document

The tokens of a document form a tree of scalars, sequences and mappings. Where a node may be left
out an empty plain scalar stands for it. A block sequence may stand under a key without being
indented more (`indentless`).

Every reader takes the tokens that are left and answers a node with the tokens after it, or says why
it stopped; the count that it takes first bounds how deep the calls go.
-/

namespace QueryDraft.Yaml

/-- A node of a document. -/
inductive Node where
  | scalar (isPlain : Bool) (text : String)
  | sequence (items : List Node)
  | mapping (pairs : List (Node × Node))

/-- Why a tree cannot be read. -/
inductive Stop where
  /-- A token stands where none of its kind may. -/
  | misplaced
  /-- More tokens are wanted than there are. -/
  | exhausted
  deriving DecidableEq

/-- What a reader of nodes answers. -/
abbrev Reading (α : Type) := Except Stop α

/-- Stops before the tokens that are left. -/
def stop {α : Type} (ts : List Token) : Reading α :=
  .error (if ts.isEmpty then .exhausted else .misplaced)

namespace Node

/-- The node that stands for one that was left out. -/
def empty : Node := .scalar true ""

/-- Where a node may stand, which decides what it may be. -/
inductive Place where
  /-- In a block. -/
  | block
  /-- Under a key of a block. -/
  | underKey
  /-- Between brackets. -/
  | flow

/-- Whether the next token is one of those given. -/
def isNext (ts : List Token) (ends : List Token) : Bool := ts.head?.any ends.contains

mutual

/-- Reads a node. -/
def read (place : Place) : Nat → List Token → Reading (Node × List Token)
  | 0, ts => stop ts
  | depth + 1, ts =>
    match place, ts with
    | .underKey, .entry :: _ => do
      let (items, rest) ← readIndentless depth ts
      return (.sequence items, rest)
    | _, .scalar isPlain text :: rest => .ok (.scalar isPlain text, rest)
    | _, .flowSequence :: rest => do
      let (items, rest) ← readFlowItems depth true rest
      return (.sequence items, rest)
    | _, .flowMapping :: rest => do
      let (pairs, rest) ← readFlowPairs depth true rest
      return (.mapping pairs, rest)
    | .flow, _ => stop ts
    | _, .blockSequence :: rest => do
      let (items, rest) ← readItems depth rest
      return (.sequence items, rest)
    | _, .blockMapping :: rest => do
      let (pairs, rest) ← readPairs depth rest
      return (.mapping pairs, rest)
    | _, _ => stop ts

/-- Reads a node unless one of the tokens given comes next. -/
def readUnless (place : Place) (ends : List Token) : Nat → List Token → Reading (Node × List Token)
  | 0, ts => stop ts
  | depth + 1, ts => if isNext ts ends then .ok (empty, ts) else read place depth ts

/-- Reads the entries of a block sequence. -/
def readItems : Nat → List Token → Reading (List Node × List Token)
  | 0, ts => stop ts
  | depth + 1, ts =>
    match ts with
    | .entry :: rest => do
      let (first, rest) ← readUnless .block [.entry, .blockEnd] depth rest
      let (more, rest) ← readItems depth rest
      return (first :: more, rest)
    | .blockEnd :: rest => .ok ([], rest)
    | _ => stop ts

/-- Reads the entries of a sequence that is not indented more than its key. -/
def readIndentless : Nat → List Token → Reading (List Node × List Token)
  | 0, ts => stop ts
  | depth + 1, ts =>
    match ts with
    | .entry :: rest => do
      let (first, rest) ← readUnless .block [.entry, .key, .value, .blockEnd] depth rest
      let (more, rest) ← readIndentless depth rest
      return (first :: more, rest)
    | _ => .ok ([], ts)

/-- Reads the value after a key, which is left out if its token does not come. -/
def readValue (place : Place) (ends : List Token) : Nat → List Token → Reading (Node × List Token)
  | 0, ts => stop ts
  | depth + 1, ts =>
    match ts with
    | .value :: rest => readUnless place ends depth rest
    | _ => .ok (empty, ts)

/-- Reads the entries of a block mapping. -/
def readPairs : Nat → List Token → Reading (List (Node × Node) × List Token)
  | 0, ts => stop ts
  | depth + 1, ts =>
    match ts with
    | .key :: rest => do
      let ends := [.key, .value, .blockEnd]
      let (key, rest) ← readUnless .underKey ends depth rest
      let (value, rest) ← readValue .underKey ends depth rest
      let (more, rest) ← readPairs depth rest
      return ((key, value) :: more, rest)
    | .blockEnd :: rest => .ok ([], rest)
    | _ => stop ts

/-- Reads the items between square brackets; after the first each follows a comma. An item with a
key is a mapping of one pair. -/
def readFlowItems : Nat → Bool → List Token → Reading (List Node × List Token)
  | 0, _, ts => stop ts
  | depth + 1, isFirst, ts =>
    let item := fun (ts : List Token) => do
      let (first, rest) ← match ts with
        | .key :: rest => do
          let ends := [.comma, .flowSequenceEnd]
          let (key, rest) ← readUnless .flow (.value :: ends) depth rest
          let (value, rest) ← readValue .flow ends depth rest
          pure (.mapping [(key, value)], rest)
        | _ => read .flow depth ts
      let (more, rest) ← readFlowItems depth false rest
      return (first :: more, rest)
    match isFirst, ts with
    | _, .flowSequenceEnd :: rest => .ok ([], rest)
    | true, _ => item ts
    | false, .comma :: .flowSequenceEnd :: rest => .ok ([], rest)
    | false, .comma :: rest => item rest
    | false, _ => stop ts

/-- Reads the pairs between braces; after the first each follows a comma. -/
def readFlowPairs : Nat → Bool → List Token → Reading (List (Node × Node) × List Token)
  | 0, _, ts => stop ts
  | depth + 1, isFirst, ts =>
    let pair := fun (ts : List Token) => do
      let ends := [.comma, .flowMappingEnd]
      let (key, value, rest) ← match ts with
        | .key :: rest => do
          let (key, rest) ← readUnless .flow (.value :: ends) depth rest
          let (value, rest) ← readValue .flow ends depth rest
          pure (key, value, rest)
        | _ => do
          let (key, rest) ← read .flow depth ts
          pure (key, empty, rest)
      let (more, rest) ← readFlowPairs depth false rest
      return ((key, value) :: more, rest)
    match isFirst, ts with
    | _, .flowMappingEnd :: rest => .ok ([], rest)
    | true, _ => pair ts
    | false, .comma :: .flowMappingEnd :: rest => .ok ([], rest)
    | false, .comma :: rest => pair rest
    | false, _ => stop ts

end

/-- The tokens after the ends of a document. -/
def afterEnds : List Token → List Token
  | .documentEnd :: ts => afterEnds ts
  | ts => ts

/-- The node of the only document in the tokens. -/
def single (ts : List Token) (body : List Token → Reading (Node × List Token)) : Reading Node := do
  let (node, rest) ← body ts
  if (afterEnds rest).isEmpty then return node else .error .misplaced

/-- The node of the only document, if there is one. -/
def ofTokens? (ts : List Token) : Reading (Option Node) :=
  let depth := 4 * ts.length + 4
  match ts with
  | [] => .ok none
  | .documentStart :: rest => some <$> single rest fun ts =>
    if ts.isEmpty || isNext ts [.documentStart, .documentEnd] then .ok (empty, ts)
    else read .block depth ts
  | _ => some <$> single ts (read .block depth)

end Node

/-- The node of the only document in a stream, if there is one. A fault of the stream is told where
its tokens leave nothing to object to. -/
def Stream.node? (s : Stream) : Outcome (Option Node) :=
  match Node.ofTokens? s.tokens, s.fault with
  | .error .misplaced, _ | .error .exhausted, none => fail .malformedDocument
  | .error .exhausted, some e | .ok _, some e => .error e
  | .ok node, none => .ok node

end QueryDraft.Yaml
