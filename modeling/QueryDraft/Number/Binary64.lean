import QueryDraft.Number.Rounding

/-!
# Numbers of the 64-bit binary format

A number is not a number, an infinity, the negative zero, or an exact dyadic rational. Every finite
number here is made by rounding a ratio to the nearest number that the format holds, a tie going to
the even one (`Binary64.ofRatio`), so it lies on the format's grid.

Order is exact: a number is compared by its place on the extended line, and one that is not a
number has no place there.
-/

namespace QueryDraft

/-- A number of the 64-bit binary format. -/
inductive Binary64 where
  | nan
  | infinity (negative : Bool)
  | negativeZero
  | finite (x : Dyadic)
  deriving DecidableEq

namespace Binary64

/-- The exponent of the unit in the last place of a ratio: 53 binary digits are kept, fewer where
the unit would fall below the least one of the format. -/
def unitExponent (num den : Nat) : Int :=
  let e : Int := (num.log2 : Int) - den.log2 - 52
  let short := num * Nat.pow 2 (-e).toNat < den * Nat.pow 2 e.toNat * Nat.pow 2 52
  max (if short then e - 1 else e) (-1074)

/-- The number nearest to `num / den` with the sign given; one beyond the largest is infinite. -/
def ofRatio (negative : Bool) (num den : Nat) : Binary64 :=
  let e := unitExponent num den
  let m := roundDiv (num * Nat.pow 2 (-e).toNat) (den * Nat.pow 2 e.toNat)
  if m = 0 then if negative then .negativeZero else .finite 0
  else if Nat.pow 2 1024 ≤ m * Nat.pow 2 e.toNat then .infinity negative
  else .finite (Dyadic.ofIntWithPrec (if negative then -(m : Int) else m) (-e))

/-- The number nearest to `digits * 10 ^ exponent`. Exponents far outside the format's range are
answered without raising ten to them. -/
def ofDecimal (negative : Bool) (digits : Nat) (exponent : Int) : Binary64 :=
  let places : Int := (Nat.toDigits 10 digits).length
  if digits = 0 || exponent + places < -330 then if negative then .negativeZero else .finite 0
  else if 330 < exponent + places then .infinity negative
  else ofRatio negative (digits * Nat.pow 10 exponent.toNat) (Nat.pow 10 (-exponent).toNat)

/-- The number nearest to a whole number, if one is finite. -/
def ofInt? (n : Int) : Option Binary64 :=
  match ofRatio (n < 0) n.natAbs 1 with
  | .infinity _ => none
  | .negativeZero => some (.finite 0)
  | x => some x

/-- The exact value of a finite number. -/
def dyadic? : Binary64 → Option Dyadic
  | .finite x => some x
  | .negativeZero => some 0
  | _ => none

/-- The number nearest to an exact one. -/
def nearest (x : Dyadic) : Binary64 := .ofRatio (x < 0) x.toRat.num.natAbs x.toRat.den

/-- The opposite number. -/
def neg : Binary64 → Binary64
  | .nan => .nan
  | .infinity negative => .infinity !negative
  | .negativeZero => .finite 0
  | .finite x => if x = 0 then .negativeZero else .finite (-x)

/-- Whether a number carries a minus sign. -/
def isSigned : Binary64 → Bool
  | .infinity negative => negative
  | .negativeZero => true
  | .finite x => x < 0
  | .nan => false

/-- The rounded sum of two numbers. -/
def add (a b : Binary64) : Binary64 :=
  match a, b, a.dyadic?, b.dyadic? with
  | .negativeZero, .negativeZero, _, _ => .negativeZero
  | _, _, some x, some y => nearest (x + y)
  | .infinity s, .infinity t, _, _ => if s = t then a else .nan
  | .infinity _, _, _, some _ => a
  | _, .infinity _, some _, _ => b
  | _, _, _, _ => .nan

/-- The rounded product of two numbers. -/
def mul (a b : Binary64) : Binary64 :=
  let negative := a.isSigned != b.isSigned
  match a, b, a.dyadic?, b.dyadic? with
  | _, _, some x, some y =>
    if x = 0 || y = 0 then if negative then .negativeZero else .finite 0 else nearest (x * y)
  | .nan, _, _, _ | _, .nan, _, _ => .nan
  | _, _, some x, none | _, _, none, some x => if x = 0 then .nan else .infinity negative
  | _, _, none, none => .infinity negative

end Binary64

/-- A place on the number line with both its ends. -/
inductive Place where
  | below
  | at (x : Dyadic)
  | above
  deriving DecidableEq

/-- Whether one place lies before another. -/
def Place.lt : Place → Place → Bool
  | .below, .below => false
  | .below, _ => true
  | .at x, .at y => x < y
  | .at _, .above => true
  | .at _, .below => false
  | .above, _ => false

/-- A whole number or a number of the binary format. -/
inductive Number where
  | int (n : Int)
  | float (x : Binary64)
  deriving DecidableEq

namespace Number

/-- Where a number lies; one that is not a number lies nowhere. -/
def place? : Number → Option Place
  | .int n => some (.at (Dyadic.ofInt n))
  | .float .nan => none
  | .float (.infinity true) => some .below
  | .float (.infinity false) => some .above
  | .float .negativeZero => some (.at 0)
  | .float (.finite x) => some (.at x)

/-- Exact comparison, which nothing that is not a number passes. -/
def lt (a b : Number) : Bool :=
  match a.place?, b.place? with
  | some p, some q => p.lt q
  | _, _ => false

/-- Whether a number is below zero. -/
def isNegative (a : Number) : Bool := a.lt (.int 0)

end Number

end QueryDraft
