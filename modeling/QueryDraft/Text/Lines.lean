/-!
# Lines of a text

A line ends at any Unicode line boundary, a carriage return with its line feed counting as one,
and a boundary at the very end opens no further line.
-/

namespace QueryDraft.Text

/-- Whether a character ends a line. -/
def isLineEnd (c : Char) : Bool :=
  let n := c.toNat
  (0x0A ≤ n && n ≤ 0x0D) || (0x1C ≤ n && n ≤ 0x1E) || n == 0x85 || n == 0x2028 || n == 0x2029

/-- The lines of the characters, the current line being given in reverse. -/
def lineChars (current : List Char) : List Char → List (List Char)
  | [] => if current.isEmpty then [] else [current.reverse]
  | '\r' :: '\n' :: cs => current.reverse :: lineChars [] cs
  | c :: cs =>
    if isLineEnd c then current.reverse :: lineChars [] cs
    else lineChars (c :: current) cs

/-- The lines of a text without their ends. -/
def lines (s : String) : List String := (lineChars [] s.toList).map String.ofList

/-- The characters with every carriage return, alone or before a line feed, made a line feed. -/
def normalEnds : List Char → List Char
  | [] => []
  | '\r' :: '\n' :: cs => '\n' :: normalEnds cs
  | '\r' :: cs => '\n' :: normalEnds cs
  | c :: cs => c :: normalEnds cs

/-- A text as it is read from a file: all three usual line ends become one. -/
def universalNewlines (s : String) : String := String.ofList (normalEnds s.toList)

end QueryDraft.Text
