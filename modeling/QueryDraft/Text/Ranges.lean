import QueryDraft.Text.AlnumTable
import QueryDraft.Text.PrintableTable

/-!
# Kinds of characters

A kind of characters is a list of closed intervals of code points.
-/

namespace QueryDraft.Text

/-- Whether a code point lies in one of the intervals. -/
def inRanges (ranges : List (Nat × Nat)) (n : Nat) : Bool :=
  ranges.any fun (first, last) => first ≤ n && n ≤ last

/-- Whether a character is printed as it is. -/
def isPrintable (c : Char) : Bool := !inRanges unprintableRanges c.toNat

/-- Whether a character is a letter or a number. -/
def isAlnum (c : Char) : Bool := inRanges alnumRanges c.toNat

end QueryDraft.Text
