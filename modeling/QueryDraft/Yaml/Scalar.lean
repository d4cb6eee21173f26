import QueryDraft.Error

/-!
# What plain scalars stand for

A plain scalar may be an absent value, a truth, a number or a day; any other is a text. Numbers may
hold underscores. Whole numbers are decimal, binary, octal after a zero, hexadecimal, or sexagesimal
with colons; others need a point, and a signed exponent if they have one. A lone equals sign and two
less-than signs stand for nothing.
-/

namespace QueryDraft.Yaml.Scalar

/-- The spellings of an absent value. -/
def nullWords : List String := ["", "~", "null", "Null", "NULL"]

/-- The spellings of true. -/
def trueWords : List String :=
  ["yes", "Yes", "YES", "true", "True", "TRUE", "on", "On", "ON"]

/-- The spellings of false. -/
def falseWords : List String :=
  ["no", "No", "NO", "false", "False", "FALSE", "off", "Off", "OFF"]

/-- The characters after a sign, and whether the sign is negative. -/
def splitSign : List Char → Bool × List Char
  | '-' :: cs => (true, cs)
  | '+' :: cs => (false, cs)
  | cs => (false, cs)

/-- Whether all characters are digits of a base or underscores. -/
def areDigits (base : Nat) (cs : List Char) : Bool :=
  cs.all fun c => c = '_' || (base = 16 && (('a' ≤ c && c ≤ 'f') || ('A' ≤ c && c ≤ 'F')))
    || ('0' ≤ c && c.toNat < 48 + min base 10)

/-- The value of a digit. -/
def digitValue (c : Char) : Nat :=
  if c.isDigit then c.toNat - 48 else if c.isLower then c.toNat - 87 else c.toNat - 55

/-- The number that digits of a base stand for, underscores left out. -/
def number (base : Nat) (cs : List Char) : Nat :=
  (cs.filter (· ≠ '_')).foldl (fun n c => base * n + digitValue c) 0

/-- The number that decimal digits stand for, of which there must not be too many. -/
def decimal (cs : List Char) : Outcome Nat :=
  if (cs.filter (· ≠ '_')).length ≤ 4300 then .ok (number 10 cs) else fail .meaningless

/-- The parts between colons. -/
def splitColons : List Char → List (List Char)
  | [] => [[]]
  | c :: cs =>
    if c = ':' then [] :: splitColons cs
    else match splitColons cs with
      | [] => [[c]]
      | part :: parts => (c :: part) :: parts

/-- Whether a part after a colon is a count of up to 59. -/
def isSixtieth : List Char → Bool
  | [d] => d.isDigit
  | [t, d] => '0' ≤ t && t ≤ '5' && d.isDigit
  | _ => false

/-- A whole number in digits, with nothing before them but a sign. -/
def wholeDigits? : List Char → Option (Outcome Nat)
  | '0' :: 'b' :: cs =>
    if cs.isEmpty || !areDigits 2 cs then none
    else if cs.all (· = '_') then some (fail .meaningless)
    else some (.ok (number 2 cs))
  | '0' :: 'x' :: cs =>
    if cs.isEmpty || !areDigits 16 cs then none
    else if cs.all (· = '_') then some (fail .meaningless)
    else some (.ok (number 16 cs))
  | '0' :: cs => if areDigits 8 cs then some (.ok (number 8 cs)) else none
  | c :: cs =>
    if !('1' ≤ c && c ≤ '9') then none
    else match splitColons (c :: cs) with
      | [digits] => if areDigits 10 digits then some (decimal digits) else none
      | digits :: parts =>
        if areDigits 10 digits && parts.all isSixtieth then
          some ((decimal digits).map (parts.foldl fun n part => 60 * n + number 10 part))
        else none
      | [] => none
  | [] => none

/-- A whole number. -/
def int? (cs : List Char) : Option (Outcome Int) :=
  let (negative, digits) := splitSign cs
  (wholeDigits? digits).map fun o => o.map fun n => if negative then -(n : Int) else n

/-- A signed exponent. -/
def exponent? : List Char → Option Int
  | [] => some 0
  | e :: sign :: cs =>
    if (e = 'e' || e = 'E') && !cs.isEmpty && cs.all Char.isDigit then
      if sign = '-' then some (-(number 10 cs : Int))
      else if sign = '+' then some (number 10 cs)
      else none
    else none
  | _ => none

/-- The digits before the point, those after it, and the exponent. -/
def floatParts? (cs : List Char) : Option (List Char × List Char × Int) :=
  let whole := cs.takeWhile fun c => c.isDigit || c = '_'
  match cs.drop whole.length with
  | '.' :: rest =>
    let part := rest.takeWhile fun c => c.isDigit || c = '_'
    (exponent? (rest.drop part.length)).map fun e => (whole, part, e)
  | _ => none

/-- The number nearest to digits with a point among them. -/
def pointed (negative : Bool) (whole part : List Char) (exponent : Int) : Binary64 :=
  let places := (part.filter (· ≠ '_')).length
  .ofDecimal negative (number 10 (whole ++ part)) (exponent - places)

/-- The sum of parts that weigh sixty times more from one to the next, each step rounded. A weight
beyond the range of the format is a failure. -/
def sumSixties (total : Binary64) (weight : Nat) : List Binary64 → Outcome Binary64
  | [] => .ok total
  | x :: xs => match Binary64.ofInt? weight with
    | some w => sumSixties (total.add (x.mul w)) (60 * weight) xs
    | none => fail .overflow

/-- A sexagesimal number with a point. -/
def sexagesimal? (negative : Bool) (cs : List Char) : Option (Outcome Binary64) :=
  let whole := cs.takeWhile (· ≠ '.')
  match cs.drop whole.length, splitColons whole with
  | _ :: part, first :: second :: rest =>
    if first.head?.any Char.isDigit && areDigits 10 first && (second :: rest).all isSixtieth
        && areDigits 10 part then
      let last := (second :: rest).getLastD []
      let others := first :: (second :: rest).dropLast
      let parts := pointed false last part 0 :: others.reverse.map fun p => pointed false p [] 0
      some ((sumSixties (.finite 0) 1 parts).map fun total =>
        if negative then total.neg else total)
    else none
  | _, _ => none

/-- A number with a point. Without digits before the point it has no sign. -/
def float? (cs : List Char) : Option (Outcome Binary64) :=
  let (negative, unsigned) := splitSign cs
  if [".inf", ".Inf", ".INF"].contains (String.ofList unsigned) then
    some (.ok (.infinity negative))
  else if [".nan", ".NaN", ".NAN"].contains (String.ofList cs) then some (.ok .nan)
  else match floatParts? unsigned with
    | some ([], part, e) =>
      if unsigned.length = cs.length && part.head?.any Char.isDigit then
        some (.ok (pointed false [] part e))
      else none
    | some (whole, part, e) =>
      if whole.head?.any Char.isDigit then some (.ok (pointed negative whole part e)) else none
    | none => sexagesimal? negative unsigned

/-- A day: four, two and two digits with hyphens between them. -/
def date? (cs : List Char) : Option (Outcome Date) :=
  match cs with
  | [y1, y2, y3, y4, '-', m1, m2, '-', d1, d2] =>
    if [y1, y2, y3, y4, m1, m2, d1, d2].all Char.isDigit then
      match Date.ofYmd? (number 10 [y1, y2, y3, y4]) (number 10 [m1, m2]) (number 10 [d1, d2]) with
      | some d => some (.ok d)
      | none => some (fail .meaningless)
    else none
  | _ => none

/-- The value of a plain scalar. -/
def value (s : String) : Outcome Value :=
  let cs := s.toList
  if nullWords.contains s then .ok .null
  else if trueWords.contains s then .ok (.bool true)
  else if falseWords.contains s then .ok (.bool false)
  else if s = "=" || s = "<<" then fail .malformedDocument
  else match float? cs, int? cs, date? cs with
    | some x, _, _ => x.map .float
    | none, some n, _ => n.map .int
    | none, none, some d => d.map .date
    | none, none, none => .ok (.text s)

end QueryDraft.Yaml.Scalar
