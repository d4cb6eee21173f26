import QueryDraft.Number.Notation
import QueryDraft.Value.Display
import QueryDraft.Value.Key

/-!
# Messages with places for values

A place is a percent sign, an optional name in brackets, optional flags, a width, a precision and a
letter for the form: `s` for text, `r` for the display form, `a` for one in ASCII, `d`, `i` and `u`
for whole numbers, `x`, `X` and `o` for other bases, `f`, `e` and `g` for the notations of numbers
and `c` for a character; two percent signs, with nothing between them, stand for one. A star in the
place of a width or precision takes it from the values.

Values are taken one after another, or by name from a mapping that is the only one. A message has no
text if a value does not fit its place, if values are left over, or if there are too few.
-/

namespace QueryDraft.Log.Template

/-- How a value is put into a place. -/
structure Format where
  left : Bool := false
  zeros : Bool := false
  plus : Bool := false
  space : Bool := false
  alternate : Bool := false
  width : Nat := 0
  precision : Option Nat := none

/-- A place: its name, its format as far as it is written, whether its width and its precision are
taken from the values, and its letter. -/
structure Slot where
  name : Option String := none
  format : Format := {}
  takesWidth : Bool := false
  takesPrecision : Bool := false
  letter : Char := 's'

/-- A piece of a message. -/
inductive Piece where
  | text (c : Char)
  | slot (s : Slot)

/-! ## Reading a message -/

/-- The number that digits stand for, added to digits that were read before. -/
def addDigit (n : Nat) (c : Char) : Nat := 10 * n + (c.toNat - 48)

/-- Where the reader of a message stands. -/
inductive Mode where
  | text
  | start
  | name (depth : Nat) (read : List Char)
  | flags (s : Slot)
  | width (s : Slot)
  | widthEnd (s : Slot)
  | precisionStart (s : Slot)
  | precision (s : Slot)
  | precisionEnd (s : Slot)
  | letter (s : Slot)

/-- The flag that a character sets. -/
def flag? (f : Format) : Char → Option Format
  | '-' => some { f with left := true }
  | '0' => some { f with zeros := true }
  | '+' => some { f with plus := true }
  | ' ' => some { f with space := true }
  | '#' => some { f with alternate := true }
  | _ => none

/-- Reads the letter of a place, before which one letter for a length may stand. -/
def endSlot (s : Slot) (c : Char) : Mode × List Piece :=
  if c = 'h' || c = 'l' || c = 'L' then (.letter s, [])
  else (.text, [.slot { s with letter := c }])

/-- Reads what comes after a width: a precision or the letter. -/
def endWidth (s : Slot) (c : Char) : Mode × List Piece :=
  if c = '.' then (.precisionStart { s with format.precision := some 0 }, []) else endSlot s c

/-- A place with a digit more in its width. -/
def Slot.widen (s : Slot) (c : Char) : Slot :=
  { s with format.width := addDigit s.format.width c }

/-- A place with a digit more in its precision. -/
def Slot.refine (s : Slot) (c : Char) : Slot :=
  { s with format.precision := some (addDigit (s.format.precision.getD 0) c) }

/-- Reads a flag or what comes after the flags. -/
def readFlag (s : Slot) (c : Char) : Mode × List Piece :=
  match flag? s.format c with
  | some f => (.flags { s with format := f }, [])
  | none =>
    if c = '*' then (.widthEnd { s with takesWidth := true }, [])
    else if c.isDigit then (.width (s.widen c), [])
    else endWidth s c

/-- Reads one character of a message. -/
def step : Mode → Char → Mode × List Piece
  | .text, c => if c = '%' then (.start, []) else (.text, [.text c])
  | .start, c =>
    if c = '%' then (.text, [.text c])
    else if c = '(' then (.name 0 [], [])
    else readFlag {} c
  | .name depth read, c =>
    if c = ')' then
      match depth with
      | 0 => (.flags { name := some (String.ofList read.reverse) }, [])
      | outer + 1 => (.name outer (c :: read), [])
    else (.name (if c = '(' then depth + 1 else depth) (c :: read), [])
  | .flags s, c => readFlag s c
  | .width s, c => if c.isDigit then (.width (s.widen c), []) else endWidth s c
  | .widthEnd s, c => endWidth s c
  | .precisionStart s, c =>
    if c = '*' then (.precisionEnd { s with takesPrecision := true }, [])
    else if c.isDigit then (.precision (s.refine c), [])
    else endSlot s c
  | .precision s, c => if c.isDigit then (.precision (s.refine c), []) else endSlot s c
  | .precisionEnd s, c => endSlot s c
  | .letter s, c => (.text, [.slot { s with letter := c }])

/-- The pieces of a message; one that ends inside a place has none. -/
def pieces? (mode : Mode) : List Char → Option (List Piece)
  | [] => match mode with
    | .text => some []
    | _ => none
  | c :: cs =>
    let (next, read) := step mode c
    (pieces? next cs).map (read ++ ·)

/-! ## Values in their places -/

/-- A text brought to a width. -/
def pad (f : Format) (zeros : Bool) (sign body : String) : String :=
  let missing := f.width - (sign.length + body.length)
  if f.left then sign ++ body ++ String.ofList (List.replicate missing ' ')
  else if zeros then sign ++ String.ofList (List.replicate missing '0') ++ body
  else String.ofList (List.replicate missing ' ') ++ sign ++ body

/-- The sign of a number. -/
def sign (f : Format) (negative : Bool) : String :=
  if negative then "-" else if f.plus then "+" else if f.space then " " else ""

/-- Digits brought to a least count. -/
def leastDigits (f : Format) (ds : List Char) : String :=
  String.ofList (List.replicate (f.precision.getD 0 - ds.length) '0' ++ ds)

/-- A whole number in a base. -/
def whole (f : Format) (base : Nat) (mark : String) (n : Int) : String :=
  let mark := if f.alternate then mark else ""
  pad f f.zeros (sign f (n < 0) ++ mark) (leastDigits f (Nat.toDigits base n.natAbs))

/-- The part of a finite number before the point. -/
def truncated (x : Dyadic) : Int := (x.toRat.num).tdiv x.toRat.den

/-- The whole number that a value counts as. -/
def whole? (v : Value) : Option Int :=
  match v.number? with
  | some (.int n) => some n
  | some (.float (.finite x)) => some (truncated x)
  | some (.float .negativeZero) => some 0
  | _ => none

/-- The whole number that a value is; truth values are numbers. -/
def integral? (v : Value) : Option Int :=
  match v.number? with
  | some (.int n) => some n
  | _ => none

/-- The number of the binary format that a value counts as. -/
def binary? (v : Value) : Option Binary64 :=
  match v.number? with
  | some (.float x) => some x
  | some (.int n) => Binary64.ofInt? n
  | none => none

/-- A number in the notation of a letter, in capitals if the letter is one. -/
def real (f : Format) (letter : Char) (x : Binary64) : String :=
  let count := f.precision.getD 6
  let body := match letter.toLower with
    | 'e' => x.scientificNotation f.alternate count
    | 'g' => x.generalNotation f.alternate count
    | _ => x.fixedNotation f.alternate count
  pad f f.zeros (sign f x.isSigned) (if letter.isUpper then body.map Char.toUpper else body)

/-- A text cut to the precision of its place. -/
def textual (f : Format) (s : String) : String :=
  let cut := match f.precision with
    | some n => String.ofList (s.toList.take n)
    | none => s
  pad f false "" cut

/-- The text of the one character that a value is, or whose number it is. -/
def character? (v : Value) : Option String :=
  match v.text?, integral? v with
  | some s, _ => if s.length = 1 then some s else none
  | none, some n =>
    if 0 ≤ n ∧ n.toNat.isValidChar then some (Char.ofNat n.toNat).toString else none
  | none, none => none

/-- A value in its place. -/
def place? (f : Format) (letter : Char) (v : Value) : Option String :=
  match letter with
  | 's' => some (textual f v.plain)
  | 'r' => some (textual f v.display)
  | 'a' => some (textual f (Text.ascii v.display))
  | 'd' | 'i' | 'u' => (whole? v).map (whole f 10 "")
  | 'x' => (integral? v).map (whole f 16 "0x")
  | 'X' => (integral? v).map fun n => (whole f 16 "0x" n).map Char.toUpper
  | 'o' => (integral? v).map (whole f 8 "0o")
  | 'f' | 'F' | 'e' | 'E' | 'g' | 'G' => (binary? v).map (real f letter)
  | 'c' => (character? v).map (pad f false "")
  | _ => none

/-! ## Filling a message -/

/-- The values that are still to be used, and the mapping that names are looked up in. -/
structure Supply where
  next : List Value
  named : Option Entries

/-- The values of a message. -/
def Supply.ofArguments : List Value → Supply
  | [.map (e :: es)] => ⟨[.map (e :: es)], some (e :: es)⟩
  | vs => ⟨vs, none⟩

/-- The next value. -/
def Supply.take? (s : Supply) : Option (Value × Supply) :=
  match s.next with
  | [] => none
  | v :: vs => some (v, { s with next := vs })

/-- The values after a name, if a place has one: the one that it is bound to. -/
def Supply.choose? (s : Supply) : Option String → Option Supply
  | none => some s
  | some name => do return { s with next := [← Entries.get? (← s.named) name] }

/-- The next value as a whole number. -/
def Supply.takeWhole? (s : Supply) : Option (Int × Supply) := do
  let (v, rest) ← s.take?
  return (← integral? v, rest)

/-- The least width or precision that no place can have. -/
def limit : Nat := Nat.pow 2 31

/-- The format of a place with what it takes from the values. A width below zero sets the value to
the left, a precision below zero stands for zero. -/
def Slot.settle? (s : Slot) (supply : Supply) : Option (Format × Supply) := do
  let (f, supply) ←
    if s.takesWidth then do
      let (n, rest) ← supply.takeWhole?
      pure ({ s.format with width := n.natAbs, left := s.format.left || n < 0 }, rest)
    else pure (s.format, supply)
  if s.takesPrecision then do
    let (n, rest) ← supply.takeWhole?
    guard (-(limit : Int) ≤ n)
    return ({ f with precision := some n.toNat }, rest)
  else return (f, supply)

/-- Whether a format can be met. -/
def Format.isBounded (f : Format) : Bool := f.width < limit && f.precision.all (· < limit)

/-- The text in a place, and the values after it. -/
def Slot.fill? (s : Slot) (supply : Supply) : Option (String × Supply) := do
  let (f, supply) ← s.settle? (← supply.choose? s.name)
  guard f.isBounded
  let (v, rest) ← supply.take?
  return (← place? f s.letter v, rest)

/-- The pieces of a message put together with its values. -/
def assemble? : List Piece → Supply → Option String
  | [], supply => if supply.named.isSome || supply.next.isEmpty then some "" else none
  | .text c :: ps, supply => (assemble? ps supply).map (c.toString ++ ·)
  | .slot s :: ps, supply => do
    let (first, supply) ← s.fill? supply
    return first ++ (← assemble? ps supply)

/-- A message with values in its places; without values it is taken as it stands. -/
def fill? (message : String) (vs : List Value) : Option String :=
  if vs.isEmpty then some message
  else (pieces? .text message.toList).bind fun ps => assemble? ps (.ofArguments vs)

end QueryDraft.Log.Template
