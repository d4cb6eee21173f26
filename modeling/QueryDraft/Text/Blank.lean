/-!
# White space: trimming and words

White space is the Unicode set that separates words, the four information separators included; the
zero-width space and the byte order mark are not in it. `trim` takes it off both ends and
`collapse` leaves exactly one space between words.
-/

namespace QueryDraft.Text

/-- Whether a character separates words. -/
def isBlank (c : Char) : Bool :=
  let n := c.toNat
  (0x09 ≤ n && n ≤ 0x0D) || (0x1C ≤ n && n ≤ 0x20) || n == 0x85 || n == 0xA0 || n == 0x1680
    || (0x2000 ≤ n && n ≤ 0x200A) || n == 0x2028 || n == 0x2029 || n == 0x202F || n == 0x205F
    || n == 0x3000

/-- The characters without the blank ones at either end. -/
def trimChars (cs : List Char) : List Char :=
  ((cs.dropWhile isBlank).reverse.dropWhile isBlank).reverse

/-- The maximal runs of characters that are not blank. -/
def wordChars : List Char → List (List Char)
  | [] => []
  | c :: cs =>
    if isBlank c then wordChars cs
    else if cs.head?.all isBlank then [c] :: wordChars cs
    else match wordChars cs with
      | [] => [[c]]
      | w :: ws => (c :: w) :: ws

/-- A text without the white space at either end. -/
def trim (s : String) : String := String.ofList (trimChars s.toList)

/-- The words of a text. -/
def words (s : String) : List String := (wordChars s.toList).map String.ofList

/-- The words of a text with one space between two of them. -/
def collapse (s : String) : String := " ".intercalate (words s)

/-- The trimmed text, if anything is left of it. -/
def nonBlank? (s : String) : Option String :=
  if trim s = "" then none else some (trim s)

end QueryDraft.Text
