import QueryDraft.Yaml.Text

/-!
# Tokens of a document

A document is read into tokens. Blocks have no closing sign of their own: a line that is indented
less ends them. That a scalar or a bracketed part is a key shows only at the colon after it, so
each one that could be a key is remembered with its place, and the token that announces a key is
put there when the colon comes. A key must be on one line and have at most 1024 characters; where a
line starts a mapping's next entry, it must turn out to be a key.

A document that cannot be read to its end still has the tokens before the fault (`Stream`), so that
what is wrong with those is told first.
-/

namespace QueryDraft.Yaml

/-- A token. -/
inductive Token where
  | documentStart
  | documentEnd
  | blockSequence
  | blockMapping
  | blockEnd
  | flowSequence
  | flowSequenceEnd
  | flowMapping
  | flowMappingEnd
  | entry
  | comma
  | key
  | value
  | scalar (isPlain : Bool) (text : String)
  deriving DecidableEq

/-- A place at which a key may have started. -/
structure KeyStart where
  position : Nat
  required : Bool
  offset : Nat
  line : Nat
  column : Nat

/-- Whether a key that reaches up to a place is not too long. -/
def KeyStart.isFresh (k : KeyStart) (c : Cursor) : Bool :=
  k.line = c.line && c.offset - k.offset ≤ 1024

/-- A reader of tokens: the tokens so far, latest first, the indents of the open blocks, and for
each open bracket and the document itself the place where a key may have started. -/
structure Lexer where
  cursor : Cursor
  tokens : List Token := []
  count : Nat := 0
  indent : Int := -1
  outerIndents : List Int := []
  keyAllowed : Bool := true
  keyStart : Option KeyStart := none
  outerStarts : List (Option KeyStart) := []

namespace Lexer

/-- Whether a bracket is open. -/
def inFlow (x : Lexer) : Bool := !x.outerStarts.isEmpty

/-- Adds a token. -/
def push (x : Lexer) (t : Token) : Lexer :=
  { x with tokens := t :: x.tokens, count := x.count + 1 }

/-- Adds a token that so many characters make. -/
def take (x : Lexer) (length : Nat) (t : Token) : Lexer :=
  { x.push t with cursor := x.cursor.skip length }

/-- Puts tokens, latest first, before those that were read from a place on. -/
def insertAt (x : Lexer) (position : Nat) (ts : List Token) : Lexer :=
  let later := x.count - position
  { x with
    tokens := x.tokens.take later ++ ts ++ x.tokens.drop later
    count := x.count + ts.length }

/-- Skips spaces, comments and line breaks. Outside of brackets a line break allows a key. The count
bounds how many lines are skipped. -/
def skipGaps : Nat → Lexer → Lexer
  | 0, x => x
  | lines + 1, x =>
    let c := x.cursor.skipWhile (· = ' ')
    let c := if c.isAt '#' then c.skipWhile (!isBreak ·) else c
    match c.break? with
    | some (_, next) =>
      skipGaps lines { x with cursor := next, keyAllowed := x.keyAllowed || !x.inFlow }
    | none => { x with cursor := c }

/-- What is left of a key's start at a place: nothing if the key would be too long. -/
def fresh (c : Cursor) : Option KeyStart → Outcome (Option KeyStart)
  | none => .ok none
  | some k =>
    if k.isFresh c then .ok (some k)
    else if k.required then fail .malformedDocument
    else .ok none

/-- Forgets the starts of keys that would be too long. -/
def forgetStale (x : Lexer) : Outcome Lexer := do
  let own ← fresh x.cursor x.keyStart
  let outer ← x.outerStarts.mapM (fresh x.cursor)
  return { x with keyStart := own, outerStarts := outer }

/-- Ends the blocks that are indented more than a column. -/
def closeBlocks (column : Int) : List Int → Lexer → Lexer
  | [], x => x
  | outer :: rest, x =>
    if column < x.indent then
      closeBlocks column rest { x.push .blockEnd with indent := outer, outerIndents := rest }
    else x

/-- Ends the blocks that are indented more than a column, unless a bracket is open. -/
def unwind (x : Lexer) (column : Int) : Lexer :=
  if x.inFlow then x else closeBlocks column x.outerIndents x

/-- Opens a block at a column that lies further in. -/
def isDeeper (x : Lexer) (column : Nat) : Bool := x.indent < column

/-- Makes a column that of the innermost block. -/
def indentTo (x : Lexer) (column : Nat) : Lexer :=
  { x with indent := column, outerIndents := x.indent :: x.outerIndents }

/-- Forgets the start of a key, which must not have been required. -/
def dropKey (x : Lexer) : Outcome Lexer :=
  match x.keyStart with
  | some k => if k.required then fail .malformedDocument else .ok { x with keyStart := none }
  | none => .ok x

/-- Remembers that a key may start here. -/
def saveKey (x : Lexer) : Outcome Lexer :=
  if x.keyAllowed then do
    let y ← x.dropKey
    let c := y.cursor
    let required := !y.inFlow && y.indent == c.column
    return { y with keyStart := some ⟨y.count, required, c.offset, c.line, c.column⟩ }
  else .ok x

/-- Opens a block with an entry at this place. -/
def openBlock (x : Lexer) (t : Token) : Outcome Lexer :=
  if x.inFlow then .ok x
  else if !x.keyAllowed then fail .malformedDocument
  else if x.isDeeper x.cursor.column then .ok ((x.indentTo x.cursor.column).push t)
  else .ok x

/-- A document's start or end. -/
def marker (x : Lexer) (t : Token) : Outcome Lexer := do
  let y ← (x.unwind (-1)).dropKey
  return { y.take 3 t with keyAllowed := false }

/-- An opening bracket. -/
def openBracket (x : Lexer) (t : Token) : Outcome Lexer := do
  let y ← x.saveKey
  return { y.take 1 t with
    keyAllowed := true, keyStart := none, outerStarts := y.keyStart :: y.outerStarts }

/-- A closing bracket. -/
def closeBracket (x : Lexer) (t : Token) : Outcome Lexer := do
  let y ← x.dropKey
  match y.outerStarts with
  | [] => fail .malformedDocument
  | start :: rest =>
    return { y.take 1 t with keyAllowed := false, keyStart := start, outerStarts := rest }

/-- A comma between brackets. -/
def comma (x : Lexer) : Outcome Lexer := do
  let y ← x.dropKey
  return { y.take 1 .comma with keyAllowed := true }

/-- A hyphen before an entry of a sequence. -/
def entry (x : Lexer) : Outcome Lexer := do
  let y ← (← x.openBlock .blockSequence).dropKey
  return { y.take 1 .entry with keyAllowed := true }

/-- A question mark before a key. -/
def question (x : Lexer) : Outcome Lexer := do
  let y ← (← x.openBlock .blockMapping).dropKey
  return { y.take 1 .key with keyAllowed := !x.inFlow }

/-- A colon after a key. -/
def colon (x : Lexer) : Outcome Lexer :=
  match x.keyStart with
  | some k =>
    let y := { x with keyStart := none }
    let z :=
      if !y.inFlow && y.isDeeper k.column then
        (y.indentTo k.column).insertAt k.position [.key, .blockMapping]
      else y.insertAt k.position [.key]
    .ok { z.take 1 .value with keyAllowed := false }
  | none => do
    let y ← x.openBlock .blockMapping
    return { y.take 1 .value with keyAllowed := !x.inFlow }

/-- A scalar between quotes. -/
def quoted (x : Lexer) (double : Bool) : Outcome Lexer := do
  let y ← x.saveKey
  let (text, next) ← readQuoted double y.cursor.rest.length y.cursor.advance
  return { y.push (.scalar false (String.ofList text)) with cursor := next, keyAllowed := false }

/-- A plain scalar. -/
def plain (x : Lexer) : Outcome Lexer := do
  let y ← x.saveKey
  match readPlain y.inFlow (y.indent + 1) y.cursor.rest.length y.cursor with
  | none => fail .malformedDocument
  | some p =>
    return { y.push (.scalar true (String.ofList p.text)) with
      cursor := p.next, keyAllowed := p.hasBreak }

/-- Whether plain text may start with the characters. -/
def startsPlain (flow : Bool) : List Char → Bool
  | [] => false
  | c :: cs =>
    !(isGap c || "-?:,[]\x7b\x7d#&*!|>'\"%@\x60".toList.contains c)
      || (!startsGap cs && (c = '-' || (!flow && (c = '?' || c = ':'))))

/-- Reads the token at the cursor. -/
def readToken (x : Lexer) (c : Char) (cs : List Char) : Outcome Lexer :=
  let atStart := x.cursor.column = 0
  if atStart && c = '%' then fail .malformedDocument
  else if atStart && x.cursor.isTriple '-' then x.marker .documentStart
  else if atStart && x.cursor.isTriple '.' then x.marker .documentEnd
  else if c = '[' then x.openBracket .flowSequence
  else if c = '\x7b' then x.openBracket .flowMapping
  else if c = ']' then x.closeBracket .flowSequenceEnd
  else if c = '\x7d' then x.closeBracket .flowMappingEnd
  else if c = ',' then x.comma
  else if c = '-' && startsGap cs then x.entry
  else if c = '?' && (x.inFlow || startsGap cs) then x.question
  else if c = ':' && (x.inFlow || startsGap cs) then x.colon
  else if c = '\'' then x.quoted false
  else if c = '"' then x.quoted true
  else if startsPlain x.inFlow (c :: cs) then x.plain
  else fail .malformedDocument

/-- The tokens before the first that may still turn out to belong to a key. -/
def settled (x : Lexer) : List Token :=
  let starts := (x.keyStart :: x.outerStarts).filterMap fun k =>
    k.filter fun k => k.required || k.isFresh x.cursor
  x.tokens.reverse.take (starts.foldl (fun n k => min n k.position) x.count)

/-- Reads the next token, and those that come before it because a line is indented less: none at the
end of the document. -/
def next? (x : Lexer) : Outcome (Option Lexer) := do
  let y ← (skipGaps (x.cursor.rest.length + 1) x).forgetStale
  let y := y.unwind y.cursor.column
  match y.cursor.rest with
  | [] => return none
  | c :: cs => some <$> y.readToken c cs

/-- The lexer after the end of the document. -/
def finish (x : Lexer) : Outcome Lexer := (x.unwind (-1)).dropKey

end Lexer

/-- The tokens of a document up to its end, or up to where it cannot be read on for a fault. -/
structure Stream where
  tokens : List Token
  fault : Option Error := none

/-- Reads all tokens. The count bounds how many there are. -/
def Lexer.readAll : Nat → Lexer → Stream
  | 0, x => ⟨x.settled, some (.failed .malformedDocument)⟩
  | count + 1, x =>
    match x.next? with
    | .error e => ⟨x.settled, some e⟩
    | .ok (some y) => readAll count y
    | .ok none => match x.finish with
      | .error e => ⟨x.settled, some e⟩
      | .ok y => { tokens := y.tokens.reverse }

/-- Whether a document may hold a character. -/
def isDocumentChar (c : Char) : Bool :=
  let n := c.toNat
  n = 0x09 || n = 0x0A || n = 0x0D || (0x20 ≤ n && n ≤ 0x7E) || n = 0x85
    || (0xA0 ≤ n && n ≤ 0xFFFD) || 0x10000 ≤ n

/-- The tokens of a document; a byte order mark at its start is no part of it. -/
def tokens (s : String) : Stream :=
  let cs := s.toList
  if cs.all isDocumentChar then
    let start : Cursor := { rest := cs }
    let start := if start.isAt '\uFEFF' then start.advance else start
    Lexer.readAll (cs.length + 1) { cursor := start }
  else ⟨[], some (.failed .malformedDocument)⟩

end QueryDraft.Yaml
