import QueryDraft.Config.Definition
import QueryDraft.Json.Printer
import QueryDraft.Proofs.Fields
import QueryDraft.Proofs.Outcome
import QueryDraft.Sql.Clause

/-!
# Plain data and its JSON

Plain data is made of scalars, lists and mappings whose keys are of one kind, at every depth
(`Value.Data`). It is kept by whatever takes a part of a value and by the forms that conditions and
documents give to literals. Plain data with scalars as keys has a JSON tree exactly when every key
is one that a member can be named by (`Data.exists_toJson`): scalars are written in any case, but
only as values.
-/

namespace QueryDraft

namespace Value

/-- Whether a value is a scalar of a document. -/
def isScalar : Value → Bool
  | .null | .bool _ | .int _ | .float _ | .text _ | .date _ => true
  | _ => false

/-- Whether a value is a scalar that can name a member of a JSON object. -/
def isMember : Value → Bool
  | .null | .bool _ | .int _ | .float _ | .text _ => true
  | _ => false

/-- Scalars, and lists, tuples and mappings of such data; the keys of the mappings pass a test. -/
inductive Data (P : Value → Bool) : Value → Prop
  | scalar {v : Value} (h : v.isScalar) : Data P v
  | list {vs : List Value} (h : ∀ v ∈ vs, Data P v) : Data P (.list vs)
  | tuple {vs : List Value} (h : ∀ v ∈ vs, Data P v) : Data P (.tuple vs)
  | map {es : List (Value × Value)} (hkeys : ∀ e ∈ es, P e.1) (h : ∀ e ∈ es, Data P e.2) :
    Data P (.map es)

variable {P Q : Value → Bool} {v w : Value} {vs : List Value} {es : Entries}

@[simp] theorem data_list_iff : (Value.list vs).Data P ↔ ∀ v ∈ vs, v.Data P := by
  refine ⟨fun h => ?_, .list⟩
  cases h with
  | scalar h => simp [isScalar] at h
  | list h => exact h

@[simp] theorem data_tuple_iff : (Value.tuple vs).Data P ↔ ∀ v ∈ vs, v.Data P := by
  refine ⟨fun h => ?_, .tuple⟩
  cases h with
  | scalar h => simp [isScalar] at h
  | tuple h => exact h

@[simp] theorem data_map_iff :
    (Value.map es).Data P ↔ (∀ e ∈ es, P e.1) ∧ ∀ e ∈ es, e.2.Data P := by
  refine ⟨fun h => ?_, fun h => .map h.1 h.2⟩
  cases h with
  | scalar h => simp [isScalar] at h
  | map hkeys h => exact ⟨hkeys, h⟩

theorem data_textList (ts : List String) : (Value.textList ts).Data P := by
  refine .list fun v hv => ?_
  obtain ⟨s, -, rfl⟩ := List.mem_map.1 hv
  exact .scalar rfl

theorem Data.mono (hPQ : ∀ v, P v → Q v) (h : v.Data P) : v.Data Q := by
  induction h with
  | scalar h => exact .scalar h
  | list _ ih => exact .list ih
  | tuple _ ih => exact .tuple ih
  | map hkeys _ ih => exact .map (fun e he => hPQ _ (hkeys e he)) ih

theorem isScalar_of_isMember (h : v.isMember) : v.isScalar := by
  cases v <;> simp_all [isMember, isScalar]

/-- A collection among plain data is a list or a tuple. -/
theorem Data.of_collection (h : v.Data P) (hvs : v.collection? = some vs) :
    ∀ w ∈ vs, w.Data P := by
  cases h with
  | scalar h => cases v <;> simp_all [collection?, isScalar]
  | list h | tuple h => exact Option.some.inj hvs ▸ h
  | map _ _ => simp [collection?] at hvs

theorem Data.of_sequence (h : v.Data P) (hvs : v.sequence? = some vs) : ∀ w ∈ vs, w.Data P := by
  refine h.of_collection ?_
  cases v <;> simp_all [sequence?, collection?]

theorem Data.find? (h : (Value.map es).Data P) {key : Key} (hv : Entries.find? es key = some v) :
    v.Data P := by
  obtain ⟨e, he, -, rfl⟩ := Entries.exists_mem_of_find? hv
  exact (data_map_iff.1 h).2 e he

theorem Data.get? (h : (Value.map es).Data P) {name : String}
    (hv : Entries.get? es name = some v) : v.Data P :=
  h.find? hv

/-- A binding that may be left out, its default being plain data. -/
theorem Data.getOr (h : (Value.map es).Data P) (name : String) (hw : w.Data P) :
    (Config.getOr es name w).Data P := by
  unfold Config.getOr
  cases hv : Entries.get? es name with
  | none => exact hw
  | some v => exact h.get? hv

theorem Data.getD (h : (Value.map es).Data P) (name : String) : (Entries.getD es name).Data P := by
  unfold Entries.getD
  cases hv : Entries.get? es name with
  | none => exact .scalar rfl
  | some v => exact h.get? hv

/-! ## Forms of literals -/

mutual

/-- The form of a literal in a document is plain data exactly when the literal is. -/
theorem data_literal_iff : ∀ v : Value, v.literal.Data P ↔ v.Data P
  | .tuple vs => by rw [literal, data_list_iff, data_tuple_iff, data_literals_iff vs]
  | .null | .bool _ | .int _ | .float _ | .text _ | .word _ | .bytes _ | .date _ | .list _ | .set _
  | .map _ | .part _ _ => Iff.rfl

theorem data_literals_iff : ∀ vs : List Value,
    (∀ v ∈ literals vs, v.Data P) ↔ ∀ v ∈ vs, v.Data P
  | [] => Iff.rfl
  | v :: vs => by
    rw [literals, List.forall_mem_cons, List.forall_mem_cons, data_literal_iff v,
      data_literals_iff vs]

end

theorem Data.normalize (h : v.Data P) : (Sql.normalize v).Data P := by
  cases h with
  | list h => exact .tuple h
  | scalar h => cases v <;> simp_all [Sql.normalize, isScalar] <;> exact .scalar rfl
  | tuple h => exact .tuple h
  | map hkeys h => exact .map hkeys h

theorem data_ofFields_iff (hP : ∀ s, P (.text s)) {fields : List (String × Value)} :
    (Document.ofFields fields).Data P ↔ ∀ f ∈ fields, f.2.Data P := by
  rw [Document.ofFields, data_map_iff, List.forall_mem_map, List.forall_mem_map]
  exact and_iff_right fun f _ => hP f.1

/-! ## JSON -/

theorem exists_memberName (h : v.isScalar) : (∃ name, v.memberName = .ok name) ↔ v.isMember := by
  cases v with
  | bool b => cases b <;> simp [memberName, isMember]
  | _ => simp_all [memberName, isMember, isScalar]

theorem exists_itemsToJson : ∀ {vs : List Value},
    (∃ js, itemsToJson vs = .ok js) ↔ ∀ v ∈ vs, ∃ j, v.toJson = .ok j
  | [] => by simp [itemsToJson]
  | v :: vs => by
    simp only [itemsToJson, exists_bind_eq_ok, pure_eq_ok, exists_eq', and_true,
      List.forall_mem_cons, ← exists_itemsToJson, exists_and_right]

theorem exists_entriesToJson : ∀ {es : Entries},
    (∃ ms, entriesToJson es = .ok ms)
      ↔ ∀ e ∈ es, (∃ name, e.1.memberName = .ok name) ∧ ∃ j, e.2.toJson = .ok j
  | [] => by simp [entriesToJson]
  | (k, v) :: es => by
    simp only [entriesToJson, exists_bind_eq_ok, pure_eq_ok, exists_eq', and_true,
      List.forall_mem_cons, ← exists_entriesToJson, exists_and_right, and_assoc]

theorem exists_toJson_list :
    (∃ j, (Value.list vs).toJson = .ok j) ↔ ∀ v ∈ vs, ∃ j, v.toJson = .ok j := by
  simp only [toJson, exists_bind_eq_ok, pure_eq_ok, exists_eq', and_true, exists_itemsToJson]

theorem exists_toJson_map : (∃ j, (Value.map es).toJson = .ok j) ↔
    ∀ e ∈ es, (∃ name, e.1.memberName = .ok name) ∧ ∃ j, e.2.toJson = .ok j := by
  simp only [toJson, exists_bind_eq_ok, pure_eq_ok, exists_eq', and_true, exists_entriesToJson]

/-- Plain data has a JSON tree exactly when each of its keys can name a member. -/
theorem Data.exists_toJson (h : v.Data isScalar) : (∃ j, v.toJson = .ok j) ↔ v.Data isMember := by
  induction h with
  | @scalar v h =>
    refine iff_of_true ?_ (.scalar h)
    revert h
    cases v <;> simp [toJson, isScalar]
  | list _ ih =>
    rw [exists_toJson_list, data_list_iff]
    exact forall₂_congr ih
  | @tuple vs _ ih =>
    have htuple : (Value.tuple vs).toJson = (Value.list vs).toJson := by rw [toJson, toJson]
    rw [htuple, exists_toJson_list, data_tuple_iff]
    exact forall₂_congr ih
  | map hkeys _ ih =>
    rw [exists_toJson_map, data_map_iff, ← forall₂_and]
    exact forall₂_congr fun e he => and_congr (exists_memberName (hkeys e he)) (ih e he)

theorem exists_jsonBlock : (∃ text, v.jsonBlock = .ok text) ↔ ∃ j, v.toJson = .ok j :=
  exists_map_eq_ok

theorem exists_jsonText : (∃ text, v.jsonText = .ok text) ↔ ∃ j, v.toJson = .ok j :=
  exists_map_eq_ok

end Value

end QueryDraft
