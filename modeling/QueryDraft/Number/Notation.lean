import QueryDraft.Number.Decimal

/-!
# Notations of binary numbers with a given count of digits

A number may be written with fixed places, in scientific notation with one digit before the point,
or in general notation, which takes the shorter of the two for a count of significant digits. Each
rounds the exact value once, a tie going to the even digit. The sign is written apart
(`Binary64.isSigned`), so the notations are those of the magnitude.
-/

namespace QueryDraft.Binary64

/-- The magnitude of a finite number as a ratio. -/
def ratio? : Binary64 → Option (Nat × Nat)
  | .negativeZero => some (0, 1)
  | .finite x =>
    let (m, e) := units x
    some (m * Nat.pow 2 e.toNat, Nat.pow 2 (-e).toNat)
  | _ => none

/-- What stands for a magnitude that is no ratio. -/
def unbounded : Binary64 → String
  | .nan => "nan"
  | _ => "inf"

/-- The first digits of a ratio, and the exponent of ten that the first of them counts. -/
def significant (count num den : Nat) : List Char × Int :=
  if num = 0 then (List.replicate count '0', 0)
  else
    let p := decimalExponent num den
    let shift : Int := count - p
    let n := roundDiv (num * Nat.pow 10 shift.toNat) (den * Nat.pow 10 (-shift).toNat)
    if n = Nat.pow 10 count then (Decimal.chars (n / 10), p) else (Decimal.chars n, p - 1)

/-- An exponent of at least two digits with its sign. -/
def exponentChars (e : Int) : List Char :=
  let ds := Decimal.chars e.natAbs
  'e' :: (if e < 0 then '-' else '+') :: (if ds.length < 2 then '0' :: ds else ds)

/-- Digits with a point after the first ones. Without digits after it the point is left out unless
it is to be kept. -/
def withPoint (keepPoint : Bool) (before after : List Char) : List Char :=
  before ++ if after.isEmpty && !keepPoint then [] else '.' :: after

/-- Digits without the zeros at their end. -/
def dropEnd (ds : List Char) : List Char := (ds.reverse.dropWhile (· = '0')).reverse

/-- The magnitude of a number with fixed places. -/
def fixedNotation (keepPoint : Bool) (places : Nat) (x : Binary64) : String :=
  match x.ratio? with
  | none => x.unbounded
  | some (num, den) =>
    let ds := Decimal.chars (roundDiv (num * Nat.pow 10 places) den)
    let ds := List.replicate (places + 1 - ds.length) '0' ++ ds
    let whole := ds.length - places
    String.ofList (withPoint keepPoint (ds.take whole) (ds.drop whole))

/-- The magnitude of a number in scientific notation. -/
def scientificNotation (keepPoint : Bool) (places : Nat) (x : Binary64) : String :=
  match x.ratio? with
  | none => x.unbounded
  | some (num, den) =>
    let (ds, e) := significant (places + 1) num den
    String.ofList (withPoint keepPoint (ds.take 1) (ds.drop 1) ++ exponentChars e)

/-- The magnitude of a number in general notation: with an exponent if it is less than the
ten-thousandth or has more digits before the point than are written. Zeros at the end are left out
unless they are to be kept. -/
def generalNotation (keepZeros : Bool) (digits : Nat) (x : Binary64) : String :=
  match x.ratio? with
  | none => x.unbounded
  | some (num, den) =>
    let count := max 1 digits
    let (ds, e) := significant count num den
    let fraction := fun cs => if keepZeros then cs else dropEnd cs
    String.ofList <|
      if e < -4 || (count : Int) ≤ e then
        withPoint keepZeros (ds.take 1) (fraction (ds.drop 1)) ++ exponentChars e
      else if e < 0 then
        withPoint keepZeros ['0'] (fraction (List.replicate (-e - 1).toNat '0' ++ ds))
      else withPoint keepZeros (ds.take (e + 1).toNat) (fraction (ds.drop (e + 1).toNat))

end QueryDraft.Binary64
