import QueryDraft.Number.Binary64

/-!
# Decimal text of binary numbers

`Binary64.shortest` is the decimal with the fewest digits that rounds back to a number; of two such
decimals it takes the nearer one, of two equally near the even one. `Binary64.text` writes it by
position where the point falls between the fourth place after zero and the sixteenth before it, and
with an exponent of at least two digits elsewhere. `Binary64.fixed` keeps a given count of places.
-/

namespace QueryDraft

/-- The decimal number `digits * 10 ^ exponent`. -/
structure Decimal where
  digits : Nat
  exponent : Int
  deriving DecidableEq

namespace Decimal

/-- The decimal digits of a number as characters. -/
def chars (n : Nat) : List Char := Nat.toDigits 10 n

/-- A decimal whose last digits are zero, written with fewer digits. The count bounds how many
zeros are taken off. -/
def dropZeros : Nat → Decimal → Decimal
  | 0, d => d
  | count + 1, d =>
    if d.digits % 10 = 0 then dropZeros count ⟨d.digits / 10, d.exponent + 1⟩ else d

/-- Notation of a positive decimal. -/
def text (d : Decimal) : String :=
  let ds := chars d.digits
  let point : Int := ds.length + d.exponent
  if -4 < point && point ≤ 16 then
    if point ≤ 0 then
      String.ofList ("0.".toList ++ List.replicate (-point).toNat '0' ++ ds)
    else if ds.length ≤ point then
      String.ofList (ds ++ List.replicate (point - ds.length).toNat '0' ++ ".0".toList)
    else
      String.ofList (ds.take point.toNat ++ '.' :: ds.drop point.toNat)
  else
    let e := point - 1
    let es := chars e.natAbs
    let fraction := if ds.length = 1 then [] else '.' :: ds.drop 1
    let width := if es.length < 2 then '0' :: es else es
    String.ofList (ds.take 1 ++ fraction ++ 'e' :: (if e < 0 then '-' else '+') :: width)

/-- The digits of a text and how many stand there; `none` for any other character. -/
def readDigits? (cs : List Char) : Option (Nat × Nat) :=
  if cs.all Char.isDigit then
    some (cs.foldl (fun n c => 10 * n + (c.toNat - 48)) 0, cs.length)
  else none

/-- The mark, sign and digits of an exponent. -/
def readExponent? : List Char → Option Int
  | [] => some 0
  | _ :: '-' :: cs => if cs.isEmpty then none else (readDigits? cs).map fun d => -(d.1 : Int)
  | _ :: '+' :: cs => if cs.isEmpty then none else (readDigits? cs).map fun d => (d.1 : Int)
  | _ :: cs => if cs.isEmpty then none else (readDigits? cs).map fun d => (d.1 : Int)

/-- Digits with an optional point and an optional exponent. -/
def read? (cs : List Char) : Option Decimal := do
  let isMark := fun c : Char => c = 'e' || c = 'E'
  let mantissa := cs.takeWhile (!isMark ·)
  let whole := mantissa.takeWhile (· ≠ '.')
  let part := (mantissa.dropWhile (· ≠ '.')).drop 1
  guard (!(whole.isEmpty && part.isEmpty))
  let (digits, _) ← readDigits? (whole ++ part)
  let exponent ← readExponent? (cs.dropWhile (!isMark ·))
  return ⟨digits, exponent - part.length⟩

end Decimal

namespace Binary64

/-- A positive number of the format as a whole number of units in its last place: the count and
the exponent of the unit. -/
def units (x : Dyadic) : Nat × Int :=
  match x with
  | .zero => (0, 0)
  | .ofOdd n k _ =>
    let bits : Int := n.natAbs.log2 + 1
    let shift := (min (53 - bits) (1074 - k)).toNat
    (n.natAbs * Nat.pow 2 shift, -k - shift)

/-- Whether `digits * 10 ^ exponent` rounds to `m` units of `2 ^ e`. All is counted in quarters of
the unit; the neighbour below a power of two is nearer than the one above. -/
def roundsTo (m : Nat) (e : Int) (digits : Nat) (exponent : Int) : Bool :=
  let low := if m = Nat.pow 2 52 && -1074 < e then 4 * m - 1 else 4 * m - 2
  let high := 4 * m + 2
  let scale := Nat.pow 2 (e - 2).toNat * Nat.pow 10 (-exponent).toNat
  let c := digits * Nat.pow 10 exponent.toNat * Nat.pow 2 (2 - e).toNat
  if m % 2 = 0 then low * scale ≤ c && c ≤ high * scale
  else low * scale < c && c < high * scale

/-- The better of the two neighbours of `num / den` on the grid of `10 ^ exponent` that round to
`m` units of `2 ^ e`, if one of them does. -/
def onGrid? (m : Nat) (e : Int) (num den : Nat) (exponent : Int) : Option Decimal :=
  let a := num * Nat.pow 10 (-exponent).toNat
  let b := den * Nat.pow 10 exponent.toNat
  let q := a / b
  let nearer := roundDiv a b
  match roundsTo m e q exponent, roundsTo m e (q + 1) exponent with
  | true, true => some ⟨nearer, exponent⟩
  | true, false => some ⟨q, exponent⟩
  | false, true => some ⟨q + 1, exponent⟩
  | false, false => none

/-- The exponent of ten just above a ratio: `10 ^ (p - 1) ≤ num / den < 10 ^ p`. -/
def decimalExponent (num den : Nat) : Int :=
  let guess : Int := (Decimal.chars num).length - (Decimal.chars den).length
  if num * Nat.pow 10 (-guess).toNat < den * Nat.pow 10 guess.toNat then guess else guess + 1

/-- The fewest digits that round back to a positive number. -/
def shortest (x : Dyadic) : Decimal :=
  let (m, e) := units x
  let num := m * Nat.pow 2 e.toNat
  let den := Nat.pow 2 (-e).toNat
  let p := decimalExponent num den
  match (List.range 17).findSome? fun (d : Nat) => onGrid? m e num den (p - 1 - d) with
  | some d => d.dropZeros 17
  | none => ⟨num, 0⟩

/-- A number in decimal notation. -/
def text : Binary64 → String
  | .nan => "nan"
  | .infinity false => "inf"
  | .infinity true => "-inf"
  | .negativeZero => "-0.0"
  | .finite x =>
    if x = 0 then "0.0"
    else if x < 0 then "-" ++ (shortest (-x)).text else (shortest x).text

/-- A count of units of the last place, with the point set before `places` digits. -/
def fixedChars (places n : Nat) : String :=
  let ds := Decimal.chars n
  let padded := List.replicate (places + 1 - ds.length) '0' ++ ds
  let whole := padded.length - places
  if places = 0 then String.ofList padded
  else String.ofList (padded.take whole ++ '.' :: padded.drop whole)

/-- A number with a fixed count of places after the point. -/
def fixed (places : Nat) : Binary64 → String
  | .nan => "nan"
  | .infinity false => "inf"
  | .infinity true => "-inf"
  | .negativeZero => "-" ++ fixedChars places 0
  | .finite x =>
    let (m, e) := units x
    let n := roundDiv (m * Nat.pow 2 e.toNat * Nat.pow 10 places) (Nat.pow 2 (-e).toNat)
    (if x < 0 then "-" else "") ++ fixedChars places n

/-- The number nearest to a decimal text with an optional sign, or the number of no decimal that a
text names. -/
def ofText? (s : String) : Option Binary64 :=
  match s with
  | "nan" => some .nan
  | "inf" => some (.infinity false)
  | "-inf" => some (.infinity true)
  | _ => match s.toList with
    | '-' :: cs => (Decimal.read? cs).map fun d => ofDecimal true d.digits d.exponent
    | '+' :: cs => (Decimal.read? cs).map fun d => ofDecimal false d.digits d.exponent
    | cs => (Decimal.read? cs).map fun d => ofDecimal false d.digits d.exponent

end Binary64

end QueryDraft
