import QueryDraft.Access

/-!
# Reading sections of a configuration

A section is a mapping that was found under a key. The readers here look at one value each and name
the key in what they report, so a message points at the entry that is at fault: `places` carries the
key through a list, adding the index of each item.
-/

namespace QueryDraft.Config

namespace View

/-- The truth that a value is. -/
def bool? : Value → Option Bool
  | .bool b => some b
  | _ => none

/-- The members of a list. -/
def list? : Value → Option (List Value)
  | .list vs => some vs
  | _ => none

/-- The whole or binary number that a value is, truths left out. -/
def number? : Value → Option Number
  | .bool _ => none
  | v => v.number?

end View

/-- What a view makes of the value of a setting, which has to be of the kind that is wanted. -/
def expect {α : Type} (wanted : SettingKind) (view : Value → Option α) (key : String) (v : Value) :
    Outcome α :=
  match view v with
  | some a => .ok a
  | none => .error (.kind (.setting key wanted))

/-- The text of a setting. -/
def expectText (key : String) (v : Value) : Outcome String := expect .string Value.text? key v

/-- The value of a setting that has to be a text; a word is left as it is. -/
def expectSpelling (key : String) (v : Value) : Outcome Value := do
  let _ ← expectText key v
  return v

/-- The truth of a setting. -/
def expectBool (key : String) (v : Value) : Outcome Bool := expect .boolean View.bool? key v

/-- The whole number of a setting. -/
def expectInt (key : String) (v : Value) : Outcome Int := expect .integer Value.int? key v

/-- The entries of a setting. -/
def expectMapping (key : String) (v : Value) : Outcome Entries :=
  expect .object Value.entries? key v

/-- The members of a list in a setting. -/
def expectList (key : String) (v : Value) : Outcome (List Value) := expect .list View.list? key v

/-- The number of the binary format nearest to the number of a setting. -/
def expectFloat (key : String) (v : Value) : Outcome Binary64 := do
  match ← expect .number View.number? key v with
  | .float x => return x
  | .int n => match Binary64.ofInt? n with
    | some x => return x
    | none => fail .overflow

/-- The key of an item of a list. -/
def itemKey (key : String) (index : Nat) : String := key ++ "[" ++ toString index ++ "]"

/-- What a reader makes of the items of a list, each under its own key; `index` is the place of the
first. -/
def places {α : Type} (read : String → Value → Outcome α) (key : String) (index : Nat) :
    List Value → Outcome (List α)
  | [] => .ok []
  | v :: vs => do
    let first ← read (itemKey key index) v
    let rest ← places read key (index + 1) vs
    return first :: rest

/-- The texts of a setting, words being left as they are: one text, or a list of texts. -/
def expectSpellings (key : String) (v : Value) : Outcome (List Value) :=
  match v.text? with
  | some _ => .ok [v]
  | none => do places expectSpelling key 0 (← expectList key v)

/-- The texts of a setting: one text, or a list of texts. -/
def expectTexts (key : String) (v : Value) : Outcome (List String) :=
  match v.text? with
  | some s => .ok [s]
  | none => do places expectText key 0 (← expectList key v)

/-- What a value has under a field that must be there; `key` is its full key. -/
def requiredValue (v field : Value) (key : String) : Outcome Value := do
  if ← v.holds field then v.fetch field else .error (.setting (.missing key))

/-- What a mapping binds a field to, or a default. -/
def optionalValue (v field default : Value) : Outcome Value := do
  let es ← v.entries
  field.requireKey
  return (Value.binding? es field).getD default

/-- The value bound to a name, which must be there; `key` is its full key. -/
def require (es : Entries) (name key : String) : Outcome Value :=
  match Entries.get? es name with
  | some v => .ok v
  | none => .error (.setting (.missing key))

/-- The text bound to a name that must be there, under the section's key. -/
def requireTextAt (es : Entries) (key name : String) : Outcome String := do
  let full := key ++ "." ++ name
  expectText full (← require es name full)

/-- The value bound to a name, or a default. -/
def getOr (es : Entries) (name : String) (default : Value) : Value :=
  (Entries.get? es name).getD default

/-- The entries of a section, none if it may be left out and is. -/
def sectionOf (root name : Value) (required : Bool) : Outcome Entries := do
  match ← optionalValue root name .null with
  | .null => if required then .error (.setting (.missing name.plain)) else .ok []
  | v => expectMapping name.plain v

/-- A list of texts with later repetitions left out. -/
def distinct (ts : List String) : List String :=
  ts.foldl (fun seen t => if seen.contains t then seen else seen ++ [t]) []

/-- Texts in the order of their code points. -/
def ordered (ts : List String) : List String := ts.mergeSort fun a b => !(b < a)

/-- The texts that are not allowed, each once and in order. -/
def excess (ts allowed : List String) : List String :=
  ordered (distinct (ts.filter fun t => !allowed.contains t))

/-- Refuses a section with keys that have no meaning there; a key goes by its plain form. -/
def rejectKeys (es : Entries) (allowed : List String) (key : String) : Outcome Unit :=
  match excess ((Entries.keys es).map Value.plain) allowed with
  | [] => .ok ()
  | names => .error (.setting (.unknownKeys key names))

/-- Refuses a mapping with keys that are not in a set. -/
def rejectKeysBut (v allowed : Value) (key : String) : Outcome Unit := do
  let es ← v.entries
  match allowed with
  | .set names => rejectKeys es (names.filterMap Value.text?) key
  | _ => fail .mismatch

end QueryDraft.Config
