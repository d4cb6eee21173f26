import QueryDraft.Config.Settings

/-!
# Layers of a configuration

An override is laid over a base: where both bind a key to a mapping the two are laid over each other
again, anywhere else the override decides. A key keeps the place that it has in the base, and new
keys follow.

A document is read by a function that is left open here; the empty configuration is what absent and
empty documents stand for, and a document that is no mapping is refused (`root`).
-/

namespace QueryDraft.Config

mutual

/-- A value with another laid over it. -/
def overlay (below : Value) : Value → Value
  | .map es => match below with
    | .map base => .map (overlayEntries base es)
    | _ => .map es
  | v => v

/-- Entries with others laid over them. -/
def overlayEntries (base : List (Value × Value)) : List (Value × Value) → List (Value × Value)
  | [] => base
  | (k, v) :: es =>
    let bound := match k.key?.bind (Entries.find? base) with
      | some old => overlay old v
      | none => v
    overlayEntries (Entries.insert base k bound) es

end

/-- The entries of a document, absent and empty ones being the empty configuration. -/
def root (document : Value) : Outcome Entries :=
  match document with
  | .map es => .ok es
  | v => if v.isTruthy then .error (.setting .rootShape) else .ok []

/-- The entries of the document in a text. -/
def rootOfText (readDocument : String → Outcome Value) (text : String) : Outcome Entries := do
  root (← readDocument text)

/-- The entries that a value is laid over others with: those of a mapping, or the bounds of a range
that are set. -/
def layerOf (v : Value) : Outcome Entries :=
  match Bounds.ofValue? v with
  | some b => .ok (b.items.map fun (name, bound) => (.text name, bound))
  | none => v.entries

/-- Whatever lists entries, with a layer over it. -/
def merge (base override : Value) : Outcome Value := do
  let below ← base.listedEntries
  return .map (overlayEntries below (← layerOf override))

/-- The settings in a text. -/
def loadText (readDocument : String → Outcome Value) (text : String) : Outcome Settings := do
  Settings.read (.map (← rootOfText readDocument text))

/-- The settings in a text with those of another text laid over them. -/
def loadLayered (readDocument : String → Outcome Value) (base override : String) :
    Outcome Settings := do
  let below ← rootOfText readDocument base
  let above ← rootOfText readDocument override
  Settings.read (.map (overlayEntries below above))

end QueryDraft.Config
