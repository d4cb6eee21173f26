/-!
# Places in a document

A cursor holds the characters that are still to be read and says where they start. Lines end at any
of five line breaks, a carriage return with its line feed being one; the byte order mark takes no
column.
-/

namespace QueryDraft.Yaml

/-- Whether a character breaks a line. -/
def isBreak (c : Char) : Bool :=
  c = '\n' || c = '\r' || c = '\x85' || c = '\u2028' || c = '\u2029'

/-- Whether a character is a space, a tab or a line break. -/
def isGap (c : Char) : Bool := c = ' ' || c = '\t' || isBreak c

/-- Whether characters end or go on with a gap. -/
def startsGap (cs : List Char) : Bool := cs.head?.all isGap

/-- The characters that are still to be read, and where they start. -/
structure Cursor where
  rest : List Char
  offset : Nat := 0
  line : Nat := 0
  column : Nat := 0

namespace Cursor

/-- The cursor after one character. -/
def advance (c : Cursor) : Cursor :=
  match c.rest with
  | [] => c
  | ch :: cs =>
    if isBreak ch && !(ch = '\r' && cs.head? = some '\n') then ⟨cs, c.offset + 1, c.line + 1, 0⟩
    else ⟨cs, c.offset + 1, c.line, if ch = '\uFEFF' then c.column else c.column + 1⟩

/-- The cursor after a count of characters. -/
def skip (c : Cursor) : Nat → Cursor
  | 0 => c
  | n + 1 => c.advance.skip n

/-- The cursor after the characters that a test holds for. -/
def skipWhile (c : Cursor) (p : Char → Bool) : Cursor := c.skip (c.rest.takeWhile p).length

/-- Whether a character comes next. -/
def isAt (c : Cursor) (ch : Char) : Bool := c.rest.head? = some ch

/-- The line break that comes next, in one form for the usual kinds, and the cursor after it. -/
def break? (c : Cursor) : Option (Char × Cursor) :=
  match c.rest with
  | '\r' :: '\n' :: _ => some ('\n', c.skip 2)
  | ch :: _ =>
    if ch = '\u2028' || ch = '\u2029' then some (ch, c.advance)
    else if isBreak ch then some ('\n', c.advance)
    else none
  | [] => none

/-- Whether three of a character come next, with a gap after them. -/
def isTriple (c : Cursor) (ch : Char) : Bool :=
  c.rest.take 3 = [ch, ch, ch] && startsGap (c.rest.drop 3)

/-- Whether the start or the end of a document comes next. -/
def isMarker (c : Cursor) : Bool := c.isTriple '-' || c.isTriple '.'

end Cursor

end QueryDraft.Yaml
