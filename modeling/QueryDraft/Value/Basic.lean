import QueryDraft.Calendar
import QueryDraft.Kind
import QueryDraft.Number.Decimal
import QueryDraft.Vocabulary

/-!
# Values

What a caller may hand to a query, and what a configuration may hold: plain data, a word of a
vocabulary, or a part that was made before. A part keeps what it was given where its rules do not
look, so its fields are values again.

Entries of a map keep their order. A tuple differs from a list only in its display form.
-/

namespace QueryDraft

/-- A value of any kind. -/
inductive Value where
  | null
  | bool (b : Bool)
  | int (n : Int)
  | float (x : Binary64)
  | text (s : String)
  | word (w : Word)
  | bytes (octets : List UInt8)
  | date (d : Date)
  | list (items : List Value)
  | tuple (items : List Value)
  | set (items : List Value)
  | map (entries : List (Value × Value))
  | part (kind : Kind) (fields : List Value)

instance : Inhabited Value := ⟨.null⟩

/-- The entries of a map, in order. -/
abbrev Entries := List (Value × Value)

namespace Value

/-- Texts as a tuple. -/
def textTuple (ts : List String) : Value := .tuple (ts.map .text)

/-- Texts as a list. -/
def textList (ts : List String) : Value := .list (ts.map .text)

/-- A value that may be absent. -/
def ofOption {α : Type} (f : α → Value) : Option α → Value
  | none => .null
  | some a => f a

end Value

end QueryDraft
