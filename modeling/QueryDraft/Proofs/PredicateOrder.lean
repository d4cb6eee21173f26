import QueryDraft.Proofs.KeyOrder
import QueryDraft.Proofs.Outcome
import QueryDraft.Search.Reading

/-!
# Predicates and aggregations with mappings in another order

A predicate in a document may have its `bool`, `multi_match` and `range` bodies in another order, at
any depth (`Predicate.Rearranged`), and an aggregation its body. All of them are read by looking up
names, so the same part is read, or the same fault is reported (`Predicate.ofDocument_eq`,
`Aggregation.ofDocument_eq`).
-/

namespace QueryDraft

variable {α : Type}

/-! ## Values with mappings in another order -/

/-- Whether entries have the same keys one by one, with values that are related. Which relation it
is may depend on the name that a key is. -/
abbrev Entries.Related (R : Option String → Value → Value → Prop) : Entries → Entries → Prop :=
  List.Forall₂ fun e e' => e.1 = e'.1 ∧ R e.1.text? e.2 e'.2

namespace Value

/-- Whether a value is another one, or both are mappings with the same entries in another order. -/
inductive Permuted : Value → Value → Prop
  | same (v : Value) : Permuted v v
  | map {es es' : Entries} (h : es.Permuted es') : Permuted (.map es) (.map es')

/-- Whether a value is another one, or both are lists with members that are related one by one. -/
inductive Members (R : Value → Value → Prop) : Value → Value → Prop
  | same (v : Value) : Members R v v
  | list {vs vs' : List Value} (h : List.Forall₂ R vs vs') : Members R (.list vs) (.list vs')

/-- Whether a value is another one, or both are mappings with the same keys in the same order and
with values that are related. -/
inductive Entrywise (R : Value → Value → Prop) : Value → Value → Prop
  | same (v : Value) : Entrywise R v v
  | map {es es' : Entries} (h : es.Related (fun _ => R) es') : Entrywise R (.map es) (.map es')

/-- Whether a value is another one, or both are mappings with values that are related, in another
order. -/
inductive Rearranged (R : Option String → Value → Value → Prop) : Value → Value → Prop
  | same (v : Value) : Rearranged R v v
  | map {es mid es' : Entries} (h : es.Related R mid) (hperm : mid.Permuted es') :
    Rearranged R (.map es) (.map es')

end Value

namespace Entries

variable {R : Option String → Value → Value → Prop} {es es' : Entries}

theorem Related.keys_eq (h : es.Related R es') : keys es = keys es' := by
  induction h with
  | nil => rfl
  | cons he _ ih => exact List.cons_eq_cons.2 ⟨he.1, ih⟩

/-- A key is one with a name exactly when it counts as that text. -/
theorem key?_eq_name {k : Value} {name : String} :
    k.key? = some [.text name] ↔ k.text? = some name := by
  cases k with
  | float x => cases h : (Number.float x).place? <;> simp [Value.key?, Value.text?, h]
  | tuple vs | set vs | part kind vs =>
    cases h : keyMembers? vs <;> simp [Value.key?, Value.text?, h]
  | _ => simp [Value.key?, Value.text?]

theorem Related.get?_rel (h : es.Related R es') (name : String) :
    Option.Rel (R (some name)) (get? es name) (get? es' name) := by
  induction h with
  | nil => exact .none
  | @cons e e' es es' he _ ih =>
    obtain ⟨k, v⟩ := e
    obtain ⟨k', v'⟩ := e'
    obtain ⟨rfl, hv⟩ : k = k' ∧ R k.text? v v' := he
    rw [get?, get?, find?_cons, find?_cons]
    by_cases hk : k.key? = some [.text name]
    · rw [if_pos hk, if_pos hk]
      rw [key?_eq_name.1 hk] at hv
      exact .some hv
    · rw [if_neg hk, if_neg hk]
      exact ih

end Entries

/-! ## Bounds -/

theorem Bounds.coerce_eq {v v' : Value} (h : v.Permuted v') : coerce v = coerce v' := by
  cases h with
  | same => rfl
  | map h => simp only [coerce, ofValue?, h.rejectUnknown_eq, h.getD_eq]

/-! ## Mappings with one entry -/

theorem singleEntry_perm {what : String} {es es' : Entries} (h : es.Perm es') :
    singleEntry what (.map es) = singleEntry what (.map es') := by
  rcases es with _ | ⟨e, _ | ⟨e₂, es⟩⟩
  · rw [h.nil_eq]
  · rw [List.singleton_perm.1 h]
  · rcases es' with _ | ⟨e', _ | ⟨e₂', es'⟩⟩
    · simp at h
    · simp at h
    · rfl

theorem singleEntry_bind_eq {what : String} {es es' : Entries} {R : Value → Value → Prop}
    {f : Value × Value → Outcome α} (h : es.Related (fun _ => R) es')
    (hf : ∀ k v v', R v v' → f (k, v) = f (k, v')) :
    singleEntry what (.map es) >>= f = singleEntry what (.map es') >>= f := by
  cases h with
  | nil => rfl
  | @cons e e' es es' he hes =>
    obtain ⟨k, v⟩ := e
    obtain ⟨k', v'⟩ := e'
    obtain ⟨rfl, hv⟩ : k = k' ∧ R v v' := he
    cases hes with
    | nil =>
      by_cases hk : k.text?.isSome
      · simp only [singleEntry, if_pos hk, ok_bind]
        exact hf k v v' hv
      · simp only [singleEntry, if_neg hk]
    | cons => rfl

/-! ## Predicates -/

mutual

/-- Whether two documents of predicates differ in the order of `bool`, `multi_match` and `range`
bodies at most. -/
inductive Predicate.Rearranged : Value → Value → Prop
  | same (v : Value) : Rearranged v v
  | bool {k : Value} {es mid es' : Entries} (hk : k.text? = some "bool")
    (h : ClausesRearranged es mid) (hperm : mid.Permuted es') :
    Rearranged (.map [(k, .map es)]) (.map [(k, .map es')])
  | multiMatch {k body body' : Value} (hk : k.text? = some "multi_match")
    (h : body.Permuted body') : Rearranged (.map [(k, body)]) (.map [(k, body')])
  | range {k body body' : Value} (hk : k.text? = some "range")
    (h : body.Rearranged (fun _ => Value.Permuted) body') :
    Rearranged (.map [(k, body)]) (.map [(k, body')])

/-- Whether the clauses of two `bool` bodies differ so, one by one. -/
inductive Predicate.ClausesRearranged : Entries → Entries → Prop
  | nil : ClausesRearranged [] []
  | cons {k v v' : Value} {es es' : Entries} (h : ClauseRearranged v v')
    (hes : ClausesRearranged es es') : ClausesRearranged ((k, v) :: es) ((k, v') :: es')

/-- Whether two clauses differ so: they are one predicate each, or several. -/
inductive Predicate.ClauseRearranged : Value → Value → Prop
  | one {v v' : Value} (h : Rearranged v v') : ClauseRearranged v v'
  | list {vs vs' : List Value} (h : AllRearranged vs vs') : ClauseRearranged (.list vs) (.list vs')
  | tuple {vs vs' : List Value} (h : AllRearranged vs vs') :
    ClauseRearranged (.tuple vs) (.tuple vs')

/-- Whether predicates differ so, one by one. -/
inductive Predicate.AllRearranged : List Value → List Value → Prop
  | nil : AllRearranged [] []
  | cons {v v' : Value} {vs vs' : List Value} (h : Rearranged v v') (hvs : AllRearranged vs vs') :
    AllRearranged (v :: vs) (v' :: vs')

end

namespace Predicate

theorem Rearranged.eq_or_map {v v' : Value} (h : Rearranged v v') :
    v = v' ∨ ∃ es es', v = .map es ∧ v' = .map es' := by
  cases h with
  | same => exact .inl rfl
  | _ => exact .inr ⟨_, _, rfl, rfl⟩

theorem ClausesRearranged.keys_eq {es es' : Entries} (h : ClausesRearranged es es') :
    Entries.keys es = Entries.keys es' := by
  induction es generalizing es' with
  | nil => cases h; rfl
  | cons e es ih =>
    cases h with
    | cons h hes => exact List.cons_eq_cons.2 ⟨rfl, ih hes⟩

theorem ofMultiMatch_eq {v v' : Value} (h : v.Permuted v') : ofMultiMatch v = ofMultiMatch v' := by
  cases h with
  | same => rfl
  | map h => simp only [ofMultiMatch, h.get?_eq, h.getD_eq]

theorem ofField_range_eq {k body body' : Value} (hk : k.text? = some "range")
    (h : body.Rearranged (fun _ => Value.Permuted) body') : ofField k body = ofField k body' := by
  cases h with
  | same => rfl
  | map h hperm =>
    simp only [ofField, hk, Option.getD_some]
    rw [← singleEntry_perm hperm.perm]
    refine singleEntry_bind_eq h fun field arg arg' harg => ?_
    rw [Bounds.coerce_eq harg]

theorem clauseOf_readClauses (es : Entries) (name : String) :
    clauseOf (readClauses es) name
      = match Entries.get? es name with
        | some v => readClause v
        | none => .ok [] := by
  induction es with
  | nil => rfl
  | cons e es ih =>
    obtain ⟨k, v⟩ := e
    rw [readClauses, Entries.get?, Entries.find?_cons, clauseOf, List.find?_cons]
    by_cases hk : k.text? = some name
    · rw [if_pos (Entries.key?_eq_name.2 hk)]
      simp [hk]
    · rw [if_neg (mt Entries.key?_eq_name.1 hk)]
      have hne : (k.text? == some name) = false := by simpa using hk
      rw [hne]
      exact ih

theorem ofEntry_bool {k : Value} {es mid es' : Entries} (hk : k.text? = some "bool")
    (hkeys : Entries.keys es = Entries.keys mid) (hread : readClauses es = readClauses mid)
    (hperm : mid.Permuted es') : ofEntry k (.map es) = ofEntry k (.map es') := by
  have hunknown : rejectUnknown es clauseNames .unknownBoolClauses
      = rejectUnknown es' clauseNames .unknownBoolClauses := by
    rw [← hperm.rejectUnknown_eq, rejectUnknown, rejectUnknown, unknownKeys, unknownKeys, hkeys]
  have hclause (name : String) : clauseOf (readClauses es) name
      = clauseOf (readClauses es') name := by
    rw [hread, clauseOf_readClauses, clauseOf_readClauses, hperm.get?_eq]
  simp only [ofEntry, hk, hunknown, hclause]

theorem ofEntry_multiMatch {k body : Value} (hk : k.text? = some "multi_match") :
    ofEntry k body = ofMultiMatch body := by
  unfold ofEntry
  rw [hk]
  rfl

theorem ofEntry_range {k body : Value} (hk : k.text? = some "range") :
    ofEntry k body = ofField k body := by
  unfold ofEntry
  rw [hk]
  rfl

theorem readOne_eq_map (v : Value) : readOne v = toValue <$> ofDocument v := by
  unfold readOne ofDocument
  split
  · cases ofEntry _ _ <;> rfl
  · rfl

theorem readClause_map (es : Entries) :
    readClause (.map es) = (fun p => [p.toValue]) <$> ofDocument (.map es) := by
  rcases es with _ | ⟨⟨k, body⟩, _ | ⟨e, es⟩⟩
  · rfl
  · rw [readClause, ofDocument]
    cases ofEntry k body <;> rfl
  · rfl

mutual

/-- The order of bodies makes no difference to the predicate that is read. -/
theorem ofDocument_eq {v v' : Value} : Rearranged v v' → ofDocument v = ofDocument v'
  | .same v => rfl
  | .bool hk h hperm => ofEntry_bool hk h.keys_eq (readClauses_eq h) hperm
  | .multiMatch hk h => by
    rw [ofDocument, ofDocument, ofEntry_multiMatch hk, ofEntry_multiMatch hk, ofMultiMatch_eq h]
  | .range hk h => by
    rw [ofDocument, ofDocument, ofEntry_range hk, ofEntry_range hk, ofField_range_eq hk h]

theorem readClauses_eq {es es' : Entries} :
    ClausesRearranged es es' → readClauses es = readClauses es'
  | .nil => rfl
  | .cons h hes => by rw [readClauses, readClauses, readClause_eq h, readClauses_eq hes]

theorem readClause_eq {v v' : Value} : ClauseRearranged v v' → readClause v = readClause v'
  | .one h => by
    have hread := ofDocument_eq h
    rcases h.eq_or_map with rfl | ⟨es, es', rfl, rfl⟩
    · rfl
    · rw [readClause_map, readClause_map, hread]
  | .list h => by rw [readClause, readClause, readAll_eq h]
  | .tuple h => by rw [readClause, readClause, readAll_eq h]

theorem readAll_eq {vs vs' : List Value} : AllRearranged vs vs' → readAll vs = readAll vs'
  | .nil => rfl
  | .cons h hvs => by
    rw [readAll, readAll, readOne_eq_map, readOne_eq_map, ofDocument_eq h, readAll_eq hvs]

end

end Predicate

/-! ## Aggregations -/

/-- The order of a body makes no difference to the aggregation that is read. -/
theorem Aggregation.ofDocument_eq {v v' : Value} (h : v.Entrywise Value.Permuted v') :
    ofDocument v = ofDocument v' := by
  cases h with
  | same => rfl
  | map h =>
    refine singleEntry_bind_eq h fun k body body' hbody => ?_
    cases hbody with
    | same => rfl
    | map hbody =>
      simp only [Value.entries?, Option.getD_some, hbody.getD_eq, hbody.get?_eq]
      rfl

end QueryDraft
