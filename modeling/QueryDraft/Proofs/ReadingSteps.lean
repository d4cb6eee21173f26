import QueryDraft.Proofs.PredicateOrder
import QueryDraft.Proofs.PredicateRoundtrip
import QueryDraft.Proofs.SearchDefinition

/-!
# How documents of predicates are read

The document of a predicate has one key, which names its kind. That of a `bool` lists further
documents in its clauses (`members`), and all that reading it does, once its keys are known ones, is
to read these in their order (`ofDocument_bool`). They are smaller than the document, so what holds
of a document if it holds of its members holds of every document (`member_induction`).
-/

namespace QueryDraft

theorem exists_refused_of_singleEntry {what : String} {v : Value} {e : Error}
    (h : singleEntry what v = .error e) : ∃ r, e = .refused r := by
  unfold singleEntry at h
  split at h
  · split_ifs at h
    exact ⟨_, (Except.error.inj h).symm⟩
  · exact ⟨_, (Except.error.inj h).symm⟩

namespace Predicate

variable {k body : Value} {es : Entries} {name : String}

/-- The documents in a clause of a `bool`. -/
def clause (es : Entries) (name : String) : List Value := listOf (Entries.getD es name)

/-- The documents in the clauses of a `bool`, in the order in which they are read. -/
def members (es : Entries) : List Value := clauseNames.flatMap (clause es)

theorem mem_members {v : Value} : v ∈ members es ↔ ∃ name ∈ clauseNames, v ∈ clause es name :=
  List.mem_flatMap

theorem sizeOf_clause_lt {v : Value} (h : v ∈ clause es name) : sizeOf v < sizeOf es := by
  have hlist {w : Value} (hv : v ∈ listOf w) : sizeOf v ≤ sizeOf w := by
    unfold listOf at hv
    split at hv
    · simp at hv
    · have hlt := List.sizeOf_lt_of_mem hv
      simp only [Value.list.sizeOf_spec]
      omega
    · have hlt := List.sizeOf_lt_of_mem hv
      simp only [Value.tuple.sizeOf_spec]
      omega
    · rw [List.mem_singleton.1 hv]
  unfold clause Entries.getD at h
  cases hget : Entries.get? es name with
  | none =>
    rw [hget] at h
    simp [listOf] at h
  | some w =>
    rw [hget] at h
    obtain ⟨⟨k, x⟩, he, -, rfl⟩ := Entries.exists_mem_of_find? hget
    have hentry := List.sizeOf_lt_of_mem he
    have hle := hlist h
    simp only [Prod.mk.sizeOf_spec] at hentry hle
    dsimp only [Option.getD_some] at hle
    omega

/-- What holds of a document if it holds of the members that it has as a `bool` holds of all. -/
theorem member_induction {P : Value → Prop}
    (h : ∀ v, (∀ k es, v = .map [(k, .map es)] → ∀ w ∈ members es, P w) → P v) (v : Value) :
    P v := by
  refine h v fun k es hv w hw => ?_
  obtain ⟨name, -, hmem⟩ := mem_members.1 hw
  have hlt := sizeOf_clause_lt hmem
  have hsize : sizeOf w < sizeOf v := by
    subst hv
    simp only [Value.map.sizeOf_spec, List.cons.sizeOf_spec, Prod.mk.sizeOf_spec]
    omega
  exact member_induction h w
termination_by sizeOf v

/-! ## The members of a `bool` -/

theorem readAll_eq_mapM (vs : List Value) : readAll vs = vs.mapM readOne := by
  induction vs with
  | nil => rfl
  | cons v vs ih => rw [readAll, List.mapM_cons, ih]

theorem readClause_eq_mapM (v : Value) : readClause v = (listOf v).mapM readOne := by
  have hone (w : Value) : [w].mapM readOne = (fun x => [x]) <$> readOne w := by
    rw [List.mapM_cons, List.mapM_nil]
    cases readOne w <;> rfl
  cases v with
  | null => rfl
  | list vs | tuple vs => rw [readClause, readAll_eq_mapM, listOf]
  | map es =>
    rw [listOf, hone, readOne_eq_map, readClause_map]
    · cases ofDocument (Value.map es) <;> rfl
    all_goals simp
  | _ => rfl

theorem clauseOf_eq_mapM (es : Entries) (name : String) :
    clauseOf (readClauses es) name = (clause es name).mapM readOne := by
  rw [clauseOf_readClauses, clause, Entries.getD]
  cases Entries.get? es name with
  | none => rfl
  | some v => exact readClause_eq_mapM v

/-- The predicate with what was read for its clauses, which come in their order. -/
def ofClauses (read : List (List Value)) : Predicate :=
  .bool (.tuple (read.getD 0 [])) (.tuple (read.getD 1 [])) (.tuple (read.getD 2 []))
    (.tuple (read.getD 3 []))

theorem ofDocument_bool (hk : k.text? = some "bool") (es : Entries) :
    ofDocument (.map [(k, .map es)]) = rejectUnknown es clauseNames .unknownBoolClauses >>= fun _ =>
      ofClauses <$> clauseNames.mapM fun name => (clause es name).mapM readOne := by
  rw [ofDocument, ofEntry, hk]
  simp only [clauseOf_eq_mapM, clauseNames, List.mapM_cons, List.mapM_nil]
  refine congrArg _ (funext fun _ => ?_)
  cases (clause es "must").mapM readOne with
  | error e => rfl
  | ok must => cases (clause es "must_not").mapM readOne with
    | error e => rfl
    | ok mustNot => cases (clause es "should").mapM readOne with
      | error e => rfl
      | ok should => cases (clause es "filter").mapM readOne <;> rfl

/-! ## The kinds of documents -/

section Kinds

variable {field : Value} (hfield : field.text?.isSome)

theorem ofDocument_matchAll (hk : k.text? = some "match_all") (body : Value) :
    ofDocument (.map [(k, body)]) = .ok .matchAll := by
  rw [ofDocument]
  unfold ofEntry
  rw [hk]
  rfl

theorem ofDocument_multiMatch (hk : k.text? = some "multi_match") (body : Value) :
    ofDocument (.map [(k, body)]) = ofMultiMatch body :=
  ofEntry_multiMatch hk

theorem ofDocument_field (hk : k.text? = some name)
    (hname : name ∉ ["match_all", "bool", "multi_match"]) (body : Value) :
    ofDocument (.map [(k, body)]) = ofField k body := by
  simp only [List.mem_cons, List.not_mem_nil, or_false, not_or] at hname
  rw [ofDocument]
  unfold ofEntry
  rw [hk]
  dsimp only
  split <;> simp_all

include hfield

theorem ofDocument_match (hk : k.text? = some "match") (arg : Value) :
    ofDocument (.map [(k, .map [(field, arg)])]) = .ok (.matching field arg) := by
  rw [ofDocument_field hk (by decide), ofField, singleEntry_name hfield, hk]
  rfl

theorem ofDocument_phrase (hk : k.text? = some "match_phrase") (arg : Value) :
    ofDocument (.map [(k, .map [(field, arg)])]) = .ok (.phrase field arg) := by
  rw [ofDocument_field hk (by decide), ofField, singleEntry_name hfield, hk]
  rfl

theorem ofDocument_term (hk : k.text? = some "term") (arg : Value) :
    ofDocument (.map [(k, .map [(field, arg)])]) = .ok (.term field arg) := by
  rw [ofDocument_field hk (by decide), ofField, singleEntry_name hfield, hk]
  rfl

theorem ofDocument_terms (hk : k.text? = some "terms") (arg : Value) :
    ofDocument (.map [(k, .map [(field, arg)])])
      = match arg.sequence? with
        | some vs => .ok (.terms field vs)
        | none => refuse .termsValues := by
  rw [ofDocument_field hk (by decide), ofField, singleEntry_name hfield, hk]
  rfl

theorem ofDocument_range (hk : k.text? = some "range") (arg : Value) :
    ofDocument (.map [(k, .map [(field, arg)])])
      = (fun b => .range field b.toValue) <$> Bounds.coerce arg := by
  rw [ofDocument_field hk (by decide), ofField, singleEntry_name hfield, hk]
  rfl

end Kinds

/-- What a document can be: one of the kinds, or what is refused without a look into it. -/
inductive Form : Value → Prop
  | refused {v : Value} {r : Refusal} (h : ofDocument v = refuse r) : Form v
  | matchAll {k : Value} (hk : k.text? = some "match_all") (body : Value) : Form (.map [(k, body)])
  | bool {k : Value} (hk : k.text? = some "bool") (es : Entries) : Form (.map [(k, .map es)])
  | multiMatch {k : Value} (hk : k.text? = some "multi_match") (body : Value) :
    Form (.map [(k, body)])
  | field {k field : Value} {name : String} (hk : k.text? = some name)
    (hname : name ∈ ["match", "match_phrase", "term", "terms", "range"])
    (hfield : field.text?.isSome) (arg : Value) : Form (.map [(k, .map [(field, arg)])])

theorem form_of_field (hk : k.text? = some name)
    (hname : name ∉ ["match_all", "bool", "multi_match"]) (body : Value) :
    Form (.map [(k, body)]) := by
  cases hentry : singleEntry k.plain body with
  | error e =>
    obtain ⟨r, rfl⟩ := exists_refused_of_singleEntry hentry
    refine .refused (r := r) ?_
    rw [ofDocument_field hk hname, ofField, hentry]
    rfl
  | ok entry =>
    obtain ⟨field, arg⟩ := entry
    obtain ⟨rfl, hfield⟩ := singleEntry_eq_ok.1 hentry
    by_cases hmem : name ∈ ["match", "match_phrase", "term", "terms", "range"]
    · exact .field hk hmem hfield arg
    · refine .refused (r := .predicateKind k.plain) ?_
      simp only [List.mem_cons, List.not_mem_nil, or_false, not_or] at hmem
      rw [ofDocument_field hk hname, ofField, hentry, ok_bind, hk]
      dsimp only [Option.getD_some]
      split <;> simp_all

theorem form (v : Value) : Form v := by
  by_cases hv : ∃ k body, v = .map [(k, body)]
  · obtain ⟨k, body, rfl⟩ := hv
    cases hk : k.text? with
    | none =>
      refine .refused (r := .keyNotText "predicate") ?_
      rw [ofDocument]
      unfold ofEntry
      rw [hk]
    | some name =>
      by_cases hname : name ∈ ["match_all", "bool", "multi_match"]
      · simp only [List.mem_cons, List.not_mem_nil, or_false] at hname
        rcases hname with rfl | rfl | rfl
        · exact .matchAll hk body
        · by_cases hbody : ∃ es, body = .map es
          · obtain ⟨es, rfl⟩ := hbody
            exact .bool hk es
          · refine .refused (r := .boolBody) ?_
            rw [ofDocument]
            unfold ofEntry
            rw [hk]
            cases body <;> simp_all
        · exact .multiMatch hk body
      · exact form_of_field hk hname body
  · refine .refused (r := .notSingleEntry "predicate") ?_
    unfold ofDocument
    split
    · exact absurd ⟨_, _, rfl⟩ hv
    · rfl

end Predicate

/-! ## Aggregations -/

namespace Aggregation

variable {k : Value} {es : Entries} {name : String}

section Kinds

variable (hfield : (Entries.getD es "field").isTruthy)
include hfield

theorem ofDocument_avg (hk : k.text? = some "avg") :
    ofDocument (.map [(k, .map es)]) = .ok (.avg (Entries.getD es "field")) := by
  simp [ofDocument, singleEntry, Value.entries?, hk, hfield, pure, Except.pure]

theorem ofDocument_sum (hk : k.text? = some "sum") :
    ofDocument (.map [(k, .map es)]) = .ok (.sum (Entries.getD es "field")) := by
  simp [ofDocument, singleEntry, Value.entries?, hk, hfield, pure, Except.pure]

theorem ofDocument_terms (hk : k.text? = some "terms") :
    ofDocument (.map [(k, .map es)])
      = makeTerms (Entries.getD es "field") ((Entries.get? es "size").getD (.int 10)) := by
  simp [ofDocument, singleEntry, Value.entries?, hk, hfield]

theorem ofDocument_dateHistogram (hk : k.text? = some "date_histogram") :
    ofDocument (.map [(k, .map es)])
      = let interval := (Entries.get? es "calendar_interval").getD (Entries.getD es "interval")
        if interval.isTruthy then .ok (.dateHistogram (Entries.getD es "field") interval)
        else refuse .histogramBody := by
  have hentry : singleEntry "aggregation" (.map [(k, .map es)]) = .ok (k, .map es) :=
    singleEntry_eq_ok.2 ⟨rfl, by simp [hk]⟩
  rw [ofDocument, hentry, ok_bind]
  simp only [Value.entries?, Option.getD_some, hfield, hk]
  rfl

end Kinds

/-- What the document of an aggregation can be: of one of the kinds with its field, or refused. -/
inductive Form : Value → Prop
  | refused {v : Value} {r : Refusal} (h : ofDocument v = refuse r) : Form v
  | kind {k : Value} {es : Entries} {name : String} (hk : k.text? = some name)
    (hname : name ∈ ["avg", "sum", "terms", "date_histogram"])
    (hfield : (Entries.getD es "field").isTruthy) : Form (.map [(k, .map es)])

theorem form (v : Value) : Form v := by
  cases hentry : singleEntry "aggregation" v with
  | error e =>
    obtain ⟨r, rfl⟩ := exists_refused_of_singleEntry hentry
    refine .refused (r := r) ?_
    rw [ofDocument, hentry]
    rfl
  | ok entry =>
    obtain ⟨k, body⟩ := entry
    obtain ⟨rfl, hk⟩ := singleEntry_eq_ok.1 hentry
    obtain ⟨name, hk⟩ := Option.isSome_iff_exists.1 hk
    by_cases hfield : (Entries.getD (body.entries?.getD []) "field").isTruthy
    · rcases body.map_or_plain with ⟨es, rfl⟩ | hplain
      · by_cases hname : name ∈ ["avg", "sum", "terms", "date_histogram"]
        · exact .kind hk hname hfield
        · refine .refused (r := .aggregationKind k.plain) ?_
          simp only [List.mem_cons, List.not_mem_nil, or_false, not_or] at hname
          rw [Value.entries?, Option.getD_some] at hfield
          rw [ofDocument, hentry, ok_bind]
          simp only [Value.entries?, hk, Option.getD_some, hfield]
          split <;> simp_all
      · rw [hplain] at hfield
        simp [Value.isTruthy] at hfield
    · refine .refused (r := .aggregationField k.plain) ?_
      rw [ofDocument, hentry, ok_bind]
      simp only [hfield]
      rfl

end Aggregation

end QueryDraft
