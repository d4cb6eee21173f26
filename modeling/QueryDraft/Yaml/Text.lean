import QueryDraft.Error
import QueryDraft.Yaml.Cursor

/-!
# Text of scalars

Scalars are plain, between single quotes or between double quotes, and may go over several lines:
one line break is a space, each further one stays. Plain text ends at a comment, before a colon
with a gap after it, and where a line is indented less than its parent; between brackets also at
the signs that structure them.

A marker of a document's start or end stops plain text and spoils quoted text.
-/

namespace QueryDraft.Yaml

/-- What several line breaks stand for. -/
def foldBreaks (first : Char) (more : List Char) : List Char :=
  (if first ≠ '\n' then [first] else if more.isEmpty then [' '] else []) ++ more

/-! ## Plain text -/

/-- The characters up to the first that plain text cannot hold; `flow` tells that it stands between
brackets. -/
def plainRun (flow : Bool) : List Char → List Char
  | [] => []
  | c :: cs =>
    let afterColon := startsGap cs || (flow && ",[]\x7b\x7d".toList.contains (cs.headD ' '))
    if isGap c || (c = ':' && afterColon) || (flow && ",?[]\x7b\x7d".toList.contains c) then []
    else c :: plainRun flow cs

/-- The further line breaks before plain text goes on, spaces left out; none before a marker. The
count bounds how many characters are read. -/
def plainBreaks : Nat → Cursor → Option (List Char) × Cursor
  | 0, c => (some [], c)
  | count + 1, c =>
    if c.isAt ' ' then plainBreaks count c.advance
    else match c.break? with
      | none => (some [], c)
      | some (b, next) =>
        if next.isMarker then (none, next)
        else
          let (more, last) := plainBreaks count next
          (more.map (b :: ·), last)

/-- The gap after a run of plain text. -/
structure Gap where
  text : List Char
  next : Cursor
  hasBreak : Bool

/-- Reads the gap after a run of plain text; it is empty before a marker. -/
def plainGap (c : Cursor) : Gap :=
  let spaces := c.rest.takeWhile (· = ' ')
  let after := c.skip spaces.length
  match after.break? with
  | none => ⟨spaces, after, false⟩
  | some (b, next) =>
    if next.isMarker then ⟨[], next, true⟩
    else match plainBreaks next.rest.length next with
      | (none, last) => ⟨[], last, true⟩
      | (some more, last) => ⟨foldBreaks b more, last, true⟩

/-- A text that was read, the cursor after it, and whether a line break ended it. -/
structure Plain where
  text : List Char
  next : Cursor
  hasBreak : Bool

/-- Reads plain text that is indented by at least `indent`. The count bounds its runs. -/
def readPlain (flow : Bool) (indent : Int) : Nat → Cursor → Option Plain
  | 0, _ => none
  | count + 1, c =>
    let run := plainRun flow c.rest
    if c.isAt '#' || run.isEmpty then none
    else
      let gap := plainGap (c.skip run.length)
      let ends := gap.text.isEmpty || gap.next.isAt '#' || (!flow && gap.next.column < indent)
      match if ends then none else readPlain flow indent count gap.next with
      | none => some ⟨run, gap.next, gap.hasBreak⟩
      | some more => some { more with text := run ++ gap.text ++ more.text }

/-! ## Quoted text -/

/-- The character that a backslash with a letter stands for. -/
def escaped? : Char → Option Char
  | '0' => some '\x00'
  | 'a' => some '\x07'
  | 'b' => some '\x08'
  | 't' | '\t' => some '\t'
  | 'n' => some '\n'
  | 'v' => some '\x0b'
  | 'f' => some '\x0c'
  | 'r' => some '\r'
  | 'e' => some '\x1b'
  | ' ' => some ' '
  | '"' => some '"'
  | '\\' => some '\\'
  | '/' => some '/'
  | 'N' => some '\x85'
  | '_' => some '\xa0'
  | 'L' => some '\u2028'
  | 'P' => some '\u2029'
  | _ => none

/-- How many digits follow a letter that introduces a code point. -/
def codeLength? : Char → Option Nat
  | 'x' => some 2
  | 'u' => some 4
  | 'U' => some 8
  | _ => none

/-- The value of a hexadecimal digit. -/
def hexValue? (c : Char) : Option Nat :=
  if c.isDigit then some (c.toNat - 48)
  else if 'a' ≤ c && c ≤ 'f' then some (c.toNat - 87)
  else if 'A' ≤ c && c ≤ 'F' then some (c.toNat - 55)
  else none

/-- The number that hexadecimal digits stand for. -/
def hexNumber? (cs : List Char) : Option Nat :=
  cs.foldl (fun n c => match n, hexValue? c with
    | some n, some d => some (16 * n + d)
    | _, _ => none) (some 0)

/-- The character with a code point. -/
def charOfCode (n : Nat) : Outcome Char :=
  if n.isValidChar then .ok (Char.ofNat n)
  else if n < 0x80000000 then fail .meaningless
  else fail .overflow

/-- The line breaks before quoted text goes on, spaces and tabs left out. -/
def quotedBreaks : Nat → Cursor → Outcome (List Char × Cursor)
  | 0, c => .ok ([], c)
  | count + 1, c =>
    if c.isMarker then fail .malformedDocument
    else
      let after := c.skipWhile fun ch => ch = ' ' || ch = '\t'
      match after.break? with
      | none => .ok ([], after)
      | some (b, next) => do
        let (more, last) ← quotedBreaks count next
        return (b :: more, last)

/-- What a backslash and the characters after it stand for. -/
def readEscape (c : Cursor) : Outcome (List Char × Cursor) :=
  match c.rest with
  | [] => fail .malformedDocument
  | ch :: cs =>
    match escaped? ch, codeLength? ch with
    | some e, _ => .ok ([e], c.advance)
    | none, some length =>
      let digits := cs.take length
      match if digits.length = length then hexNumber? digits else none with
      | some n => do return ([← charOfCode n], c.skip (length + 1))
      | none => fail .malformedDocument
    | none, none => match c.break? with
      | some (_, next) => quotedBreaks next.rest.length next
      | none => fail .malformedDocument

/-- Reads quoted text after its opening quote. The count bounds how many steps are taken. -/
def readQuoted (double : Bool) : Nat → Cursor → Outcome (List Char × Cursor)
  | 0, _ => fail .malformedDocument
  | count + 1, c => do
    let quote := if double then '"' else '\''
    let (text, next) ← match c.rest with
      | [] => fail .malformedDocument
      | '\'' :: '\'' :: _ =>
        if double then pure (['\''], c.advance) else pure (['\''], c.skip 2)
      | ch :: _ =>
        if ch = quote then return ([], c.advance)
        else if double && ch = '\\' then readEscape c.advance
        else if isGap ch then
          let spaces := c.rest.takeWhile fun s => s = ' ' || s = '\t'
          let after := c.skip spaces.length
          match after.break? with
          | some (b, next) => do
            let (more, last) ← quotedBreaks (next.rest.length + 1) next
            pure (foldBreaks b more, last)
          | none => pure (spaces, after)
        else pure ([ch], c.advance)
    let (more, last) ← readQuoted double count next
    return (text ++ more, last)

end QueryDraft.Yaml
