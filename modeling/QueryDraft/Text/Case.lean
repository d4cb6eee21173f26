import QueryDraft.Text.CaseTable
import QueryDraft.Text.Ranges

/-!
# Upper and lower case of a text

The full Unicode mappings: a character may map to several, and a capital sigma at the end of a
word becomes the final form of the letter.
-/

namespace QueryDraft.Text

/-- The code points that one code point maps to, itself if no row lists it. -/
def mapCodePoint (shifts : List (Nat × Nat × Nat × Int)) (expansions : List (Nat × List Nat))
    (n : Nat) : List Nat :=
  match shifts.find? fun (first, last, step, _) =>
      first ≤ n && n ≤ last && (n - first) % step == 0 with
  | some (_, _, _, shift) => [((n : Int) + shift).toNat]
  | none => ((expansions.find? (·.1 == n)).map (·.2)).getD [n]

/-- The upper case of a character. -/
def upperChar (c : Char) : List Char :=
  (mapCodePoint upperShifts upperExpansions c.toNat).map Char.ofNat

/-- The lower case of a character that stands alone. -/
def lowerChar (c : Char) : List Char :=
  (mapCodePoint lowerShifts lowerExpansions c.toNat).map Char.ofNat

/-- Whether a letter with a case comes first, marks that are passed over left out. -/
def startsCased (cs : List Char) : Bool :=
  match cs.dropWhile fun c => inRanges caseIgnorableRanges c.toNat with
  | [] => false
  | c :: _ => inRanges casedRanges c.toNat

/-- The lower case of the characters, given the characters before them in reverse. -/
def lowerChars (before : List Char) : List Char → List Char
  | [] => []
  | c :: cs =>
    let low :=
      if c = 'Σ' then [if startsCased before && !startsCased cs then 'ς' else 'σ']
      else lowerChar c
    low ++ lowerChars (c :: before) cs

/-- The upper case of a text. -/
def upper (s : String) : String := String.ofList (s.toList.flatMap upperChar)

/-- The lower case of a text. -/
def lower (s : String) : String := String.ofList (lowerChars [] s.toList)

end QueryDraft.Text
