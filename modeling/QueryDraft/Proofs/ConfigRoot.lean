import QueryDraft.Proofs.Overlay

/-!
# The root of a configuration

A document has entries if it is a mapping. Of the documents that are no mappings, those that count
as nothing are taken for the empty configuration and the others are refused (`root_eq_ok_iff`,
`root_eq_error_iff`). What counts as nothing has few shapes (`Value.Void`), and the absent document
is only one of them: loaded alone such a document has no queries, and as an override it leaves
everything to the defaults.
-/

namespace QueryDraft

/-- The values that count as nothing and are no mappings: absent, false, zero or empty. -/
inductive Value.Void : Value → Prop
  | null : Void .null
  | boolFalse : Void (.bool false)
  | zero : Void (.int 0)
  | floatZero : Void (.float (.finite 0))
  | negativeZero : Void (.float .negativeZero)
  | text : Void (.text "")
  | bytes : Void (.bytes [])
  | list : Void (.list [])
  | tuple : Void (.tuple [])
  | set : Void (.set [])

namespace Value

variable {v : Value}

theorem Void.isTruthy (h : v.Void) : v.isTruthy = false := by
  cases h <;> rfl

theorem Void.entries? (h : v.Void) : v.entries? = none := by
  cases h <;> rfl

/-- Apart from mappings, what counts as nothing is void. -/
theorem void_iff_isTruthy (h : v.entries? = none) : v.Void ↔ v.isTruthy = false := by
  refine ⟨Void.isTruthy, fun hnothing => ?_⟩
  cases v with
  | null => exact .null
  | bool b =>
    obtain rfl : b = false := hnothing
    exact .boolFalse
  | int n =>
    obtain rfl : n = 0 := by simpa [Value.isTruthy] using hnothing
    exact .zero
  | float x =>
    have hzero : x = .finite 0 ∨ x = .negativeZero := by
      by_contra hne
      simp_all [Value.isTruthy]
    rcases hzero with rfl | rfl
    · exact .floatZero
    · exact .negativeZero
  | text s =>
    obtain rfl : s = "" := by simpa [Value.isTruthy] using hnothing
    exact .text
  | bytes bs =>
    obtain rfl : bs = [] := by simpa [Value.isTruthy] using hnothing
    exact .bytes
  | list vs =>
    obtain rfl : vs = [] := by simpa [Value.isTruthy] using hnothing
    exact .list
  | tuple vs =>
    obtain rfl : vs = [] := by simpa [Value.isTruthy] using hnothing
    exact .tuple
  | set vs =>
    obtain rfl : vs = [] := by simpa [Value.isTruthy] using hnothing
    exact .set
  | map es => simp [Value.entries?] at h
  | word w => simp [Value.isTruthy] at hnothing
  | date d => simp [Value.isTruthy] at hnothing
  | part kind fields => simp [Value.isTruthy] at hnothing

end Value

namespace Config

variable {v : Value} {es : Entries}

/-- A mapping is its entries, and whatever else has a root has the empty one. -/
theorem root_of_plain (h : v.entries? = none) :
    root v = if v.isTruthy then .error (.setting .rootShape) else .ok [] := by
  cases v with
  | map es => simp [Value.entries?] at h
  | _ => rfl

theorem root_eq_ok_iff : root v = .ok es ↔ v = .map es ∨ v.Void ∧ es = [] := by
  rcases v.map_or_plain with ⟨es', rfl⟩ | hplain
  · have hvoid : ¬ (Value.map es').Void := fun h => absurd h.entries? (by simp [Value.entries?])
    simp [root, hvoid]
  · have hmap : v ≠ .map es := fun h => by simp [h, Value.entries?] at hplain
    rw [root_of_plain hplain, Value.void_iff_isTruthy hplain]
    cases v.isTruthy <;> simp [hmap, eq_comm]

theorem root_eq_error_iff :
    root v = .error (.setting .rootShape) ↔ v.entries? = none ∧ ¬ v.Void := by
  rcases v.map_or_plain with ⟨es', rfl⟩ | hplain
  · simp [root, Value.entries?]
  · rw [root_of_plain hplain, Value.void_iff_isTruthy hplain]
    cases v.isTruthy <;> simp [hplain]

/-- A root is refused for its shape or not at all. -/
theorem root_cases (v : Value) : root v = .error (.setting .rootShape) ∨ ∃ es, root v = .ok es := by
  rcases v.map_or_plain with ⟨es, rfl⟩ | hplain
  · exact .inr ⟨es, rfl⟩
  · rw [root_of_plain hplain]
    split_ifs
    · exact .inl rfl
    · exact .inr ⟨[], rfl⟩

/-! ## Loading -/

section Loading

variable (load : String → Value) (base override : String)

theorem rootOfText_total (text : String) :
    rootOfText (fun text => .ok (load text)) text = root (load text) := rfl

/-- What is refused above is refused with the same error whatever is below. -/
theorem loadLayered_of_root_error (h : root (load override) = .error (.setting .rootShape)) :
    loadLayered (fun text => .ok (load text)) base override = .error (.setting .rootShape) := by
  rw [loadLayered, rootOfText_total, rootOfText_total, h]
  rcases root_cases (load base) with hbase | ⟨es, hbase⟩ <;> rw [hbase] <;> rfl

/-- Loaded alone or laid over any other, a document that is no mapping is refused for its root
exactly unless it is void. A void one alone is a configuration without queries, and laid over
another it changes nothing. -/
theorem load_of_no_mapping (h : ∀ es, load override ≠ .map es) :
    (¬ (load override).Void →
      loadText (fun text => .ok (load text)) override = .error (.setting .rootShape)
        ∧ loadLayered (fun text => .ok (load text)) base override = .error (.setting .rootShape))
    ∧ ((load override).Void →
      loadText (fun text => .ok (load text)) override = .error (.setting (.missing "queries"))
        ∧ loadLayered (fun text => .ok (load text)) base override
          = loadText (fun text => .ok (load text)) base) := by
  have hplain : (load override).entries? = none :=
    (load override).map_or_plain.resolve_left fun ⟨es, hes⟩ => h es hes
  constructor
  · intro hvoid
    have hroot := root_eq_error_iff.2 ⟨hplain, hvoid⟩
    refine ⟨?_, loadLayered_of_root_error load base override hroot⟩
    rw [loadText, rootOfText_total, hroot]
    rfl
  · intro hvoid
    have hroot : root (load override) = .ok [] := root_eq_ok_iff.2 (.inr ⟨hvoid, rfl⟩)
    constructor
    · rw [loadText, rootOfText_total, hroot]
      with_unfolding_all rfl
    · rw [loadLayered, loadText, rootOfText_total, rootOfText_total, hroot]
      rfl

/-- A list with an item is refused, alone and over a configuration. An empty list alone lacks the
queries. -/
theorem load_of_no_mapping_list :
    let below : Value := .map [(.text "queries",
      .list [.map [(.text "name", .text "q"), (.text "type", .text "search")]])]
    let load : String → Value := fun text =>
      if text = "default" then below else if text = "[]" then .list [] else .list [.text "just"]
    (∀ es, load "- just" ≠ .map es) ∧ (∀ es, load "[]" ≠ .map es)
      ∧ loadText (fun text => .ok (load text)) "- just" = .error (.setting .rootShape)
      ∧ loadLayered (fun text => .ok (load text)) "default" "- just" = .error (.setting .rootShape)
      ∧ loadText (fun text => .ok (load text)) "[]" = .error (.setting (.missing "queries")) := by
  intro below load
  have hitem : load "- just" = .list [.text "just"] := rfl
  have hnone : load "[]" = .list [] := rfl
  have hmap : ∀ es, load "- just" ≠ .map es := by simp [hitem]
  have hmap' : ∀ es, load "[]" ≠ .map es := by simp [hnone]
  have hvoid : ¬ (load "- just").Void := by
    rw [hitem]
    rintro ⟨⟩
  obtain ⟨halone, hover⟩ := (load_of_no_mapping load "default" "- just" hmap).1 hvoid
  obtain ⟨hempty, -⟩ := (load_of_no_mapping load "default" "[]" hmap').2 (hnone ▸ .list)
  exact ⟨hmap, hmap', halone, hover, hempty⟩

/-- An override that is an empty list is no mapping, and the defaults are loaded in its place. -/
theorem loadLayered_of_empty_list :
    let below : Value := .map [(.text "queries",
      .list [.map [(.text "name", .text "q"), (.text "type", .text "search")]])]
    let load : String → Value := fun text => if text = "default" then below else .list []
    let readDocument : String → Outcome Value := fun text => .ok (load text)
    load "[]" ≠ .null ∧ (∀ es, load "[]" ≠ .map es)
      ∧ loadLayered readDocument "default" "[]" = loadText readDocument "default"
      ∧ ∃ s, loadLayered readDocument "default" "[]" = .ok s
        ∧ s.definitions.map (·.name) = ["q"] := by
  intro below load readDocument
  have hlist : load "[]" = .list [] := rfl
  refine ⟨by simp [hlist], by simp [hlist], rfl, _, by with_unfolding_all rfl, ?_⟩
  with_unfolding_all rfl

end Loading

end Config

end QueryDraft
