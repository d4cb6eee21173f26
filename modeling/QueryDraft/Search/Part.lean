import QueryDraft.Spelling
import QueryDraft.Value.Order

/-!
# Parts of a search

Predicates, bounds, aggregations and highlights, and the rules by which they are made. A rule brings
the fields that it looks at into their form and keeps every other field as it was given. Each sort
of part stands for a value (`toValue`), and a value that is such a part can be seen as one
(`ofValue?`).
-/

namespace QueryDraft

/-- A search predicate. The parts of a `bool` are collections of further predicates. -/
inductive Predicate where
  | matchAll
  | matching (field value : Value)
  | phrase (field phrase : Value)
  | multiMatch (value : Value) (fields : List String)
  | term (field value : Value)
  | terms (field : Value) (values : List Value)
  | range (field bounds : Value)
  | bool (must mustNot should filter : Value)

/-- The bounds of a range; `null` stands for a bound that is not set. -/
structure Bounds where
  gte : Value
  gt : Value
  lte : Value
  lt : Value

/-- A search aggregation. -/
inductive Aggregation where
  | avg (field : Value)
  | sum (field : Value)
  | terms (field size : Value)
  | dateHistogram (field interval : Value)

/-- What a search highlights, and how. -/
structure Highlight where
  fields : List String
  preTags : List Value
  postTags : List Value
  fragmentSize : Value

namespace Predicate

/-- The value that a predicate is. -/
def toValue : Predicate → Value
  | .matchAll => .part .matchAll []
  | .matching field value => .part .matching [field, value]
  | .phrase field words => .part .phrase [field, words]
  | .multiMatch value fields => .part .multiMatch [value, .textTuple fields]
  | .term field value => .part .term [field, value]
  | .terms field values => .part .terms [field, .tuple values]
  | .range field bounds => .part .range [field, bounds]
  | .bool must mustNot should filter => .part .bool [must, mustNot, should, filter]

/-- The predicate that a value is. -/
def ofValue? : Value → Option Predicate
  | .part .matchAll [] => some .matchAll
  | .part .matching [field, value] => some (.matching field value)
  | .part .phrase [field, words] => some (.phrase field words)
  | .part .multiMatch [value, .tuple fields] =>
    (fields.mapM Value.text?).map fun names => .multiMatch value names
  | .part .term [field, value] => some (.term field value)
  | .part .terms [field, .tuple values] => some (.terms field values)
  | .part .range [field, bounds] => some (.range field bounds)
  | .part .bool [must, mustNot, should, filter] => some (.bool must mustNot should filter)
  | _ => none

/-- The kind of a predicate. -/
def kind : Predicate → Kind
  | .matchAll => .matchAll
  | .matching .. => .matching
  | .phrase .. => .phrase
  | .multiMatch .. => .multiMatch
  | .term .. => .term
  | .terms .. => .terms
  | .range .. => .range
  | .bool .. => .bool

end Predicate

/-- The value that bounds are. -/
def Bounds.toValue (b : Bounds) : Value := .part .bounds [b.gte, b.gt, b.lte, b.lt]

/-- The bounds that a value is. -/
def Bounds.ofValue? : Value → Option Bounds
  | .part .bounds [gte, gt, lte, lt] => some ⟨gte, gt, lte, lt⟩
  | _ => none

/-- The value that an aggregation is. -/
def Aggregation.toValue : Aggregation → Value
  | .avg field => .part .avg [field]
  | .sum field => .part .sum [field]
  | .terms field size => .part .termsAggregation [field, size]
  | .dateHistogram field interval => .part .dateHistogram [field, interval]

/-- The aggregation that a value is. -/
def Aggregation.ofValue? : Value → Option Aggregation
  | .part .avg [field] => some (.avg field)
  | .part .sum [field] => some (.sum field)
  | .part .termsAggregation [field, size] => some (.terms field size)
  | .part .dateHistogram [field, interval] => some (.dateHistogram field interval)
  | _ => none

/-- The value that a highlight is. -/
def Highlight.toValue (h : Highlight) : Value :=
  .part .highlight [.textTuple h.fields, .tuple h.preTags, .tuple h.postTags, h.fragmentSize]

/-- The highlight that a value is. -/
def Highlight.ofValue? : Value → Option Highlight
  | .part .highlight [.tuple fields, .tuple preTags, .tuple postTags, fragmentSize] =>
    (fields.mapM Value.text?).map fun names => ⟨names, preTags, postTags, fragmentSize⟩
  | _ => none

/-- One of several texts that a slot takes. -/
def requireMember (slot : TextsSlot) (v : Value) : Outcome String :=
  match v.text?.bind Text.nonBlank? with
  | some s => .ok s
  | none => refuse (.blankTexts slot)

/-- The texts that a slot takes: one text, or a collection of texts that are not blank. -/
def requireCollection (slot : TextsSlot) (v : Value) : Outcome (List String) :=
  match v with
  | .text _ | .word _ => do return [← requireMember slot v]
  | .bytes [] => .ok []
  | .bytes _ => refuse (.blankTexts slot)
  | _ => match v.collection? with
    | some vs => vs.mapM (requireMember slot)
    | none => refuse (.notTexts slot)

namespace Predicate

/-- A match of one value in several fields. -/
def makeMultiMatch (value fields : Value) : Outcome Predicate :=
  return .multiMatch value (← requireCollection .multiMatchFields fields)

/-- A match of any of the members of a collection. -/
def makeTerms (field values : Value) : Outcome Predicate :=
  match values.collection? with
  | some vs => .ok (.terms field vs)
  | none => refuse .termsValues

/-- The predicate that a value is. -/
def ensure (v : Value) : Outcome Predicate :=
  match ofValue? v with
  | some p => .ok p
  | none => refuse (.notPredicate v.typeName)

end Predicate

namespace Bounds

/-- The names of the bounds. -/
def names : List String := ["gte", "gt", "lte", "lt"]

/-- Whether no bound is set. -/
def isEmpty (b : Bounds) : Bool :=
  b.gte.isNull && b.gt.isNull && b.lte.isNull && b.lt.isNull

/-- Bounds of which at least one is set. -/
def make (gte gt lte lt : Value) : Outcome Bounds :=
  let b : Bounds := ⟨gte, gt, lte, lt⟩
  if b.isEmpty then refuse .noBound else .ok b

/-- The bounds that are set, with their names. -/
def items (b : Bounds) : List (String × Value) :=
  [("gte", b.gte), ("gt", b.gt), ("lte", b.lte), ("lt", b.lt)].filter fun e => !e.2.isNull

end Bounds

/-- The keys of a mapping that are none of the names given. -/
def unknownKeys (es : Entries) (names : List String) : List Value :=
  (Entries.keys es).filter fun k => !(k.text?.any names.contains)

/-- Refuses a mapping with keys that are none of the names given; the keys are listed in order. -/
def rejectUnknown (es : Entries) (names : List String) (refusal : List Value → Refusal) :
    Outcome Unit :=
  match unknownKeys es names with
  | [] => .ok ()
  | unknown => match Value.sorted? unknown with
    | some keys => refuse (refusal keys)
    | none => fail .mismatch

/-- A binding of a mapping, absent if there is none. -/
def Entries.getD (es : Entries) (name : String) : Value := (Entries.get? es name).getD .null

/-- The bounds that a value is or describes. -/
def Bounds.coerce (v : Value) : Outcome Bounds :=
  match ofValue? v, v with
  | some b, _ => .ok b
  | none, .map es => do
    rejectUnknown es Bounds.names .unknownBounds
    Bounds.make (Entries.getD es "gte") (Entries.getD es "gt") (Entries.getD es "lte")
      (Entries.getD es "lt")
  | none, _ => refuse .boundsShape

namespace Aggregation

/-- An aggregation by terms, whose size is a number that is not negative. -/
def makeTerms (field size : Value) : Outcome Aggregation :=
  match size.number? with
  | none => fail .mismatch
  | some n => if n.isNegative then refuse .negativeTermsSize else .ok (.terms field size)

/-- The aggregation that a value is. -/
def ensure (v : Value) : Outcome Aggregation :=
  match ofValue? v with
  | some a => .ok a
  | none => refuse (.notAggregation v.typeName)

end Aggregation

namespace Highlight

/-- A highlight of at least one field. The tags are the items of what was given. -/
def make (fields preTags postTags fragmentSize : Value) : Outcome Highlight := do
  let fields ← requireCollection .highlightFields fields
  match preTags.items?, postTags.items? with
  | some pre, some post =>
    if fields.isEmpty then refuse .noHighlightField
    else return ⟨fields, pre, post, fragmentSize⟩
  | _, _ => fail .mismatch

/-- The names of the options of a highlight. -/
def names : List String := ["fields", "pre_tags", "post_tags", "fragment_size"]

/-- The fields that a value lists: the keys of a mapping, or the value itself. -/
def fieldsOf : Value → Value
  | .map es => .tuple (Entries.keys es)
  | v => v

/-- The highlight that a value is or describes: names of fields, or a mapping of options. -/
def coerce (v : Value) : Outcome Highlight :=
  match ofValue? v, v with
  | some h, _ => .ok h
  | none, .map es => do
    rejectUnknown es names .unknownHighlightOptions
    let size := Entries.getD es "fragment_size"
    if !size.isNull && size.int?.isNone then refuse .fragmentSize
    let pre ← requireCollection .preTags ((Entries.get? es "pre_tags").getD (.tuple []))
    let post ← requireCollection .postTags ((Entries.get? es "post_tags").getD (.tuple []))
    make (fieldsOf ((Entries.get? es "fields").getD (.tuple []))) (.textTuple pre)
      (.textTuple post) size
  | none, v => make v (.tuple []) (.tuple []) .null

end Highlight

end QueryDraft
