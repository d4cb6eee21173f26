/-!
# Likeness of texts

Two texts are matched by their longest common run, the earliest of several, and then again before
and after it. Their likeness is the share of matched characters in both texts together; texts are
close when it is at least three fifths.
-/

namespace QueryDraft.Text

/-- The length of the common start of two lists. -/
def commonStart : List Char → List Char → Nat
  | a :: as, b :: bs => if a = b then commonStart as bs + 1 else 0
  | _, _ => 0

/-- A common run: where it starts in both lists, and its length. -/
structure Run where
  left : Nat
  right : Nat
  length : Nat

/-- The longest common run of two lists, the earliest in the first of them, then in the second. -/
def longestRun (as bs : List Char) : Run :=
  (List.range as.length).foldl (fun best i =>
    (List.range bs.length).foldl (fun best j =>
      let n := commonStart (as.drop i) (bs.drop j)
      if best.length < n then ⟨i, j, n⟩ else best) best) ⟨0, 0, 0⟩

/-- How many characters are matched. The first argument bounds how often the lists are split. -/
def matchedCount : Nat → List Char → List Char → Nat
  | 0, _, _ => 0
  | depth + 1, as, bs =>
    let run := longestRun as bs
    if run.length = 0 then 0
    else
      matchedCount depth (as.take run.left) (bs.take run.right) + run.length
        + matchedCount depth (as.drop (run.left + run.length)) (bs.drop (run.right + run.length))

/-- The matched characters of two texts, and all characters of both: half of the likeness as a
ratio. -/
def likeness (s t : String) : Nat × Nat :=
  (matchedCount (s.length + 1) s.toList t.toList, s.length + t.length)

/-- Whether two texts are close. -/
def areClose (s t : String) : Bool :=
  let (matched, total) := likeness s t
  3 * total ≤ 10 * matched

end QueryDraft.Text
