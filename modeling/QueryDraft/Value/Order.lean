import QueryDraft.Value.Key

/-!
# Equality and order of values

Two values are equal as data when they are one key, or lists, mappings or parts with equal members;
a number that is not a number equals nothing. Values of one sort are ordered: numbers by size, texts
and octets by code point, days by date, lists and tuples by the first members that differ, and sets
by inclusion. Values of different sorts have no order (`Value.less?`).
-/

namespace QueryDraft

mutual

/-- Whether two values are equal as data. -/
def Value.same : Value → Value → Bool
  | .list vs, .list ws => sameItems vs ws
  | .tuple vs, .tuple ws => sameItems vs ws
  | .part k vs, .part k' ws => k == k' && sameItems vs ws
  | .map es, .map es' => es.length == es'.length && sameEntries es es'
  | v, w => v.sameKey w

/-- Whether values are equal one by one. -/
def sameItems : List Value → List Value → Bool
  | [], [] => true
  | v :: vs, w :: ws => v.same w && sameItems vs ws
  | _, _ => false

/-- Whether each entry has an equal one among others. -/
def sameEntries : List (Value × Value) → Entries → Bool
  | [], _ => true
  | (k, v) :: es, others =>
    (match k.key?.bind (Entries.find? others) with
      | some w => v.same w
      | none => false) && sameEntries es others

end

/-- Whether the members of one set are members of another that has more. -/
def isProperPart (vs ws : List Value) : Bool :=
  vs.all (fun v => ws.any v.sameKey) && decide (vs.length < ws.length)

mutual

/-- Whether one value comes before another, if the two have an order. -/
def Value.less? : Value → Value → Option Bool
  | .list vs, .list ws => lessItems? vs ws
  | .tuple vs, .tuple ws => lessItems? vs ws
  | .set vs, .set ws => some (isProperPart vs ws)
  | .date a, .date b => some (a.lt b)
  | .bytes bs, .bytes cs => some (decide (bs.map UInt8.toNat < cs.map UInt8.toNat))
  | v, w =>
    match v.number?, w.number?, v.text?, w.text? with
    | some a, some b, _, _ => some (a.lt b)
    | _, _, some s, some t => some (decide (s < t))
    | _, _, _, _ => none

/-- The order of the first members that differ; a list comes after its beginnings. -/
def lessItems? : List Value → List Value → Option Bool
  | [], ws => some (!ws.isEmpty)
  | _ :: _, [] => some false
  | v :: vs, w :: ws => if v.same w then lessItems? vs ws else v.less? w

end

/-- The values in order, if each two of them have one. A single value needs none. -/
def Value.sorted? (vs : List Value) : Option (List Value) :=
  if vs.length ≤ 1 then some vs
  else if vs.all fun v => vs.all fun w => (v.less? w).isSome then
    some (vs.mergeSort fun v w => w.less? v != some true)
  else none

end QueryDraft
