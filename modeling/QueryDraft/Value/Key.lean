import QueryDraft.Value.View

/-!
# Keys of mappings

Two keys of a mapping are one key when they are equal as data: `1`, `1.0` and `true` are one, a word
is one with its text, and a tuple or a part goes by its members. `Value.key?` writes a key as a run
of tokens, so that two keys are one exactly when their runs agree. A value that cannot be a key, or
that does not equal itself, has no run.
-/

namespace QueryDraft

/-- A token of a key. -/
inductive KeyToken where
  | null
  | number (place : Place)
  | text (s : String)
  | bytes (octets : List UInt8)
  | date (d : Date)
  | openTuple
  | openSet
  | openPart (kind : Kind)
  | close
  deriving DecidableEq

/-- A key as data. -/
abbrev Key := List KeyToken

mutual

/-- The key that a value is. -/
def Value.key? : Value → Option Key
  | .null => some [.null]
  | .bool b => some [.number (.at (if b then 1 else 0))]
  | .int n => some [.number (.at (Dyadic.ofInt n))]
  | .float x => (Number.float x).place?.map fun p => [.number p]
  | .text s => some [.text s]
  | .word w => some [.text w.text]
  | .bytes bs => some [.bytes bs]
  | .date d => some [.date d]
  | .tuple vs => (keyMembers? vs).map fun ts => .openTuple :: ts
  | .set vs => (keyMembers? vs).map fun ts => .openSet :: ts
  | .part kind vs => (keyMembers? vs).map fun ts => .openPart kind :: ts
  | .list _ | .map _ => none

/-- The tokens of the members of a key, closed at the end. -/
def keyMembers? : List Value → Option Key
  | [] => some [.close]
  | v :: vs => match v.key?, keyMembers? vs with
    | some ts, some rest => some (ts ++ rest)
    | _, _ => none

end

mutual

/-- Whether a value can be a key of a mapping at all: a list, a mapping and whatever holds one
cannot. -/
def Value.isKey : Value → Bool
  | .list _ => false
  | .map _ => false
  | .tuple vs => areKeys vs
  | .set vs => areKeys vs
  | .part _ vs => areKeys vs
  | _ => true

/-- Whether each of the values can be a key. -/
def areKeys : List Value → Bool
  | [] => true
  | v :: vs => v.isKey && areKeys vs

end

/-- Whether two values are one key. -/
def Value.sameKey (v w : Value) : Bool := v.key?.isSome && v.key? == w.key?

/-- Values with later repetitions of a key left out. -/
def Value.distinct (vs : List Value) : List Value :=
  vs.foldl (fun seen v => if seen.any v.sameKey then seen else seen ++ [v]) []

namespace Entries

/-- The value bound to a key; the first entry with the key counts. -/
def find? (es : Entries) (key : Key) : Option Value :=
  (List.find? (fun e => e.1.key? == some key) es).map (·.2)

/-- The value bound to a name. -/
def get? (es : Entries) (name : String) : Option Value := find? es [.text name]

/-- Whether a name is bound. -/
def has (es : Entries) (name : String) : Bool := (get? es name).isSome

/-- The entries with a value put under a key: in the place of the key's first entry, at the end if
it has none. -/
def insert (es : Entries) (k v : Value) : Entries :=
  match es with
  | [] => [(k, v)]
  | (k', v') :: rest =>
    if k.sameKey k' then (k', v) :: rest else (k', v') :: insert rest k v

/-- The entries made by putting pairs one after another. -/
def ofPairs (pairs : List (Value × Value)) : Entries :=
  pairs.foldl (fun es p => insert es p.1 p.2) []

/-- The keys, in order. -/
def keys (es : Entries) : List Value := es.map (·.1)

end Entries

end QueryDraft
