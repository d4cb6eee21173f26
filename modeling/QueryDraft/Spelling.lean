import QueryDraft.Error
import QueryDraft.Text.Blank
import QueryDraft.Text.Case

/-!
# Spellings of the vocabularies

Reading a word of a vocabulary from what a caller wrote. A word of the wanted vocabulary stands for
itself. Any other text is spelled without regard to case and to the white space around it; operators
and join kinds take any white space between their words for one space, join kinds also an
underscore.
-/

namespace QueryDraft

/-- A text with single spaces between its words, in upper case. -/
def canonical (s : String) : String := Text.upper (Text.collapse s)

/-- The operator with a spelling. -/
def Operator.ofText? (s : String) : Option Operator :=
  Operator.all.find? fun o => o.text == canonical s

/-- The operator that a value names. -/
def Operator.parse : Value → Outcome Operator
  | .word (.operator o) => .ok o
  | v => match v.text?.bind Operator.ofText? with
    | some o => .ok o
    | none => refuse (.unsupportedOperator v)

/-- The join kind with a spelling. -/
def JoinKind.ofText? (s : String) : Option JoinKind :=
  JoinKind.all.find? fun k => k.text == canonical (s.map fun c => if c = '_' then ' ' else c)

/-- The join kind that a value names. -/
def JoinKind.parse : Value → Outcome JoinKind
  | .word (.joinKind k) => .ok k
  | v => match v.text?.bind JoinKind.ofText? with
    | some k => .ok k
    | none => refuse (.unsupportedJoinKind v)

/-- The direction with a spelling. -/
def Direction.ofText? (s : String) : Option Direction :=
  [Direction.asc, .desc].find? fun d => d.text == Text.upper (Text.trim s)

/-- The direction that a value names. -/
def Direction.parse : Value → Outcome Direction
  | .word (.direction d) => .ok d
  | v => match v.text?.bind Direction.ofText? with
    | some d => .ok d
    | none => refuse (.unsupportedDirection v)

/-- The sort order with a spelling. -/
def SortOrder.ofText? (s : String) : Option SortOrder :=
  [SortOrder.asc, .desc].find? fun o => o.text == Text.lower (Text.trim s)

/-- The sort order that a value names. -/
def SortOrder.parse : Value → Outcome SortOrder
  | .word (.sortOrder o) => .ok o
  | v => match v.text?.bind SortOrder.ofText? with
    | some o => .ok o
    | none => refuse (.unsupportedSortOrder v)

/-- The text that a slot takes: one that is not blank, trimmed. -/
def requireText (slot : TextSlot) (v : Value) : Outcome String :=
  match v.text?.bind Text.nonBlank? with
  | some s => .ok s
  | none => refuse (.blank slot)

/-- The count that a slot takes: a whole number that is not negative. -/
def requireCount (slot : CountSlot) (v : Value) : Outcome Int :=
  match v.int? with
  | none => refuse (.notCount slot)
  | some n => if n < 0 then refuse (.negativeCount slot) else .ok n

/-- The texts that a slot takes: one text, or the items of whatever has items. -/
def requireTexts (slot : TextSlot) (v : Value) : Outcome (List String) :=
  match v.text? with
  | some s => do return [← requireText slot (.text s)]
  | none => match v.items? with
    | some vs => vs.mapM (requireText slot)
    | none => fail .mismatch

end QueryDraft
