import Mathlib.Tactic.SplitIfs
import QueryDraft.Search.Document

/-!
# Mappings from texts

The documents that are written have texts as keys. Such a mapping is looked up by its names
(`get?_ofTexts_cons`), has no unknown key when its names are known ones
(`rejectUnknown_ofTexts`), and gives the same bindings when the absent ones are left out
(`getD_ofTexts_set`).
-/

namespace QueryDraft

@[simp] theorem Value.sameKey_text (s t : String) :
    (Value.text s).sameKey (.text t) = decide (s = t) := by
  rw [Bool.eq_iff_iff]
  simp [Value.sameKey, Value.key?]

namespace Entries

/-- The entries of a mapping with texts as keys. -/
def ofTexts (fields : List (String × Value)) : Entries :=
  fields.map fun (name, v) => (.text name, v)

theorem exists_mem_of_find? {es : Entries} {key : Key} {v : Value} (h : find? es key = some v) :
    ∃ e ∈ es, e.1.key? = some key ∧ e.2 = v := by
  obtain ⟨e, he, rfl⟩ := Option.map_eq_some_iff.1 h
  exact ⟨e, List.mem_of_find?_eq_some he, by simpa using List.find?_some he, rfl⟩

theorem ofFields_eq (fields : List (String × Value)) :
    Document.ofFields fields = .map (ofTexts fields) := rfl

@[simp] theorem ofTexts_nil : ofTexts [] = [] := rfl

theorem ofTexts_cons (name : String) (v : Value) (fields : List (String × Value)) :
    ofTexts ((name, v) :: fields) = (.text name, v) :: ofTexts fields := rfl

@[simp] theorem getD_nil (name : String) : getD [] name = .null := rfl

@[simp] theorem get?_ofTexts_cons (n name : String) (v : Value) (fields : List (String × Value)) :
    get? (ofTexts ((n, v) :: fields)) name =
      if n = name then some v else get? (ofTexts fields) name := by
  simp only [ofTexts_cons, get?, find?, Value.key?, List.find?_cons]
  by_cases h : n = name
  · simp [h]
  · have hkey : (some [KeyToken.text n] == some [KeyToken.text name]) = false := by simp [h]
    rw [hkey, if_neg h]

@[simp] theorem getD_ofTexts_cons (n name : String) (v : Value) (fields : List (String × Value)) :
    getD (ofTexts ((n, v) :: fields)) name =
      if n = name then v else getD (ofTexts fields) name := by
  simp only [getD, get?_ofTexts_cons]
  split_ifs <;> rfl

theorem getD_ofTexts_of_notMem {name : String} :
    ∀ {fields : List (String × Value)}, name ∉ fields.map (·.1) →
      getD (ofTexts fields) name = .null
  | [], _ => rfl
  | (n, v) :: fields, h => by
    simp only [List.map_cons, List.mem_cons, not_or] at h
    rw [getD_ofTexts_cons, if_neg (Ne.symm h.1), getD_ofTexts_of_notMem h.2]

/-- The bindings that are set, with their literals, are looked up like all the bindings. -/
theorem getD_ofTexts_set (name : String) :
    ∀ {fields : List (String × Value)}, (fields.map (·.1)).Nodup →
      getD (ofTexts ((fields.filter fun e => !e.2.isNull).map fun (n, v) => (n, v.literal))) name =
        (getD (ofTexts fields) name).literal
  | [], _ => rfl
  | (n, v) :: fields, h => by
    simp only [List.map_cons, List.nodup_cons] at h
    have ih := getD_ofTexts_set name h.2
    rw [getD_ofTexts_cons]
    by_cases hv : v.isNull
    · rw [List.filter_cons_of_neg (by simpa using hv), ih]
      split_ifs with hn
      · subst hn
        rw [getD_ofTexts_of_notMem h.1]
        cases v <;> simp_all [Value.isNull]
      · rfl
    · rw [List.filter_cons_of_pos (by simpa using hv), List.map_cons, getD_ofTexts_cons, ih]
      split_ifs <;> rfl

theorem keys_ofTexts (fields : List (String × Value)) :
    keys (ofTexts fields) = fields.map fun e => .text e.1 := by
  simp [keys, ofTexts]

end Entries

theorem unknownKeys_ofTexts {fields : List (String × Value)} {names : List String}
    (h : ∀ e ∈ fields, e.1 ∈ names) : unknownKeys (Entries.ofTexts fields) names = [] := by
  rw [unknownKeys, Entries.keys_ofTexts, List.filter_eq_nil_iff]
  rintro k hk
  obtain ⟨e, he, rfl⟩ := List.mem_map.1 hk
  simpa [Value.text?] using h e he

theorem rejectUnknown_ofTexts {fields : List (String × Value)} {names : List String}
    (h : ∀ e ∈ fields, e.1 ∈ names) (refusal : List Value → Refusal) :
    rejectUnknown (Entries.ofTexts fields) names refusal = .ok () := by
  rw [rejectUnknown, unknownKeys_ofTexts h]

end QueryDraft
