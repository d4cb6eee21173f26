import QueryDraft.Proofs.Checks
import QueryDraft.Proofs.Fields
import QueryDraft.Search.Reading

/-!
# Predicates and their documents

A predicate that was made by the rules of its parts (`Predicate.WellFormed`) has a document, and
what is read from the document is the predicate again, with its literals as a document writes them
(`Value.withLiterals`). Only literals that are tuples change, so a predicate without any comes back
as it was.

The induction is on how the predicate was made. What it carries (`Predicate.ReadsBack`) names the
one entry of the document, since the members of a `bool` are read by their entries. The clauses of a
`bool` that hold nothing are not written, and are found empty when they are looked up
(`WrittenClause.ofEntry_bool`).
-/

namespace QueryDraft

open Document Entries

/-! ## What is written and what comes back -/

mutual

/-- A predicate with its literals in the form in which a document writes them. -/
def Value.withLiterals : Value → Value
  | .part .matching [field, value] => .part .matching [field, value.literal]
  | .part .multiMatch [value, fields] => .part .multiMatch [value.literal, fields]
  | .part .term [field, value] => .part .term [field, value.literal]
  | .part .terms [field, .tuple values] => .part .terms [field, .tuple (literals values)]
  | .part .range [field, .part .bounds bounds] =>
    .part .range [field, .part .bounds (literals bounds)]
  | .part .bool [.tuple must, .tuple mustNot, .tuple should, .tuple filter] =>
    .part .bool [.tuple (membersWithLiterals must), .tuple (membersWithLiterals mustNot),
      .tuple (membersWithLiterals should), .tuple (membersWithLiterals filter)]
  | v => v

/-- The members of a clause with their literals as a document writes them. -/
def membersWithLiterals : List Value → List Value
  | [] => []
  | v :: vs => v.withLiterals :: membersWithLiterals vs

end

mutual

/-- The literals of a predicate, those of its clauses included. -/
def Value.literalsIn : Value → List Value
  | .part .matching [_, value] => [value]
  | .part .multiMatch [value, _] => [value]
  | .part .term [_, value] => [value]
  | .part .terms [_, .tuple values] => values
  | .part .range [_, .part .bounds bounds] => bounds
  | .part .bool [.tuple must, .tuple mustNot, .tuple should, .tuple filter] =>
    memberLiterals must ++ memberLiterals mustNot ++ memberLiterals should ++ memberLiterals filter
  | _ => []

/-- The literals of the members of a clause. -/
def memberLiterals : List Value → List Value
  | [] => []
  | v :: vs => v.literalsIn ++ memberLiterals vs

end

namespace Predicate

/-- A predicate whose fields are names and whose parts were made by their own rules, at every
depth. -/
inductive WellFormed : Predicate → Prop
  | matchAll : WellFormed .matchAll
  | matching {field : Value} (value : Value) (hfield : field.text?.isSome) :
    WellFormed (.matching field value)
  | phrase {field : Value} (words : Value) (hfield : field.text?.isSome) :
    WellFormed (.phrase field words)
  | multiMatch {value fields : Value} {p : Predicate} (h : makeMultiMatch value fields = .ok p) :
    WellFormed p
  | term {field : Value} (value : Value) (hfield : field.text?.isSome) :
    WellFormed (.term field value)
  | terms {field values : Value} {p : Predicate} (hfield : field.text?.isSome)
    (h : makeTerms field values = .ok p) : WellFormed p
  | range {field gte gt lte lt : Value} {b : Bounds} (hfield : field.text?.isSome)
    (h : Bounds.make gte gt lte lt = .ok b) : WellFormed (.range field b.toValue)
  | bool {must mustNot should filter : List Predicate} (hmust : ∀ p ∈ must, WellFormed p)
    (hmustNot : ∀ p ∈ mustNot, WellFormed p) (hshould : ∀ p ∈ should, WellFormed p)
    (hfilter : ∀ p ∈ filter, WellFormed p) :
    WellFormed (.bool (.tuple (must.map toValue)) (.tuple (mustNot.map toValue))
      (.tuple (should.map toValue)) (.tuple (filter.map toValue)))

/-- A predicate whose document has one entry, from which the predicate is read. -/
def ReadsBack (p : Predicate) : Prop :=
  ∃ name body q, p.toValue.predicateDocument = .ok (single name body) ∧
    ofEntry (.text name) body = .ok q ∧ q.toValue = p.toValue.withLiterals

end Predicate

/-! ## Names, literals and bounds -/

theorem Value.isKey_of_text? {v : Value} (h : v.text?.isSome) : v.isKey := by
  cases v <;> simp_all [Value.text?, Value.isKey]

theorem literals_eq_map : ∀ vs : List Value, literals vs = vs.map Value.literal
  | [] => rfl
  | v :: vs => by rw [literals, literals_eq_map vs, List.map_cons]

theorem Value.isNull_literal (v : Value) : v.literal.isNull = v.isNull := by
  cases v <;> simp [Value.literal, Value.isNull]

/-- Only a tuple is written in another form. -/
theorem Value.literal_eq_self {v : Value} (h : ∀ vs, v ≠ .tuple vs) : v.literal = v := by
  cases v <;> simp_all [Value.literal]

theorem literals_eq_self {vs : List Value} (h : ∀ ws, .tuple ws ∉ vs) : literals vs = vs := by
  rw [literals_eq_map]
  refine (List.map_congr_left fun v hv => ?_).trans (List.map_id vs)
  exact Value.literal_eq_self fun ws hw => h ws (hw ▸ hv)

namespace Bounds

/-- The bounds with their literals as a document writes them. -/
def literal (b : Bounds) : Bounds := ⟨b.gte.literal, b.gt.literal, b.lte.literal, b.lt.literal⟩

theorem isEmpty_literal (b : Bounds) : b.literal.isEmpty = b.isEmpty := by
  simp [isEmpty, literal, Value.isNull_literal]

/-- The document of bounds: those that are set, with their literals as a document writes them. -/
def document (b : Bounds) : Value := ofFields (b.items.map fun (name, v) => (name, v.literal))

theorem ofBounds_toValue (b : Bounds) : ofBounds b.toValue = .ok b.document := rfl

/-- Bounds are read from their document, those that are not set as absent. -/
theorem coerce_document {b : Bounds} (h : b.isEmpty = false) :
    coerce b.document = .ok b.literal := by
  have hnames : ∀ e ∈ b.items.map fun (name, v) => (name, v.literal), e.1 ∈ names := by
    intro e he
    simp only [items, List.mem_map, List.mem_filter] at he
    obtain ⟨e', ⟨he', -⟩, rfl⟩ := he
    simp only [List.mem_cons, List.not_mem_nil, or_false] at he'
    rcases he' with rfl | rfl | rfl | rfl <;> simp [names]
  have hget : ∀ name, getD (ofTexts (b.items.map fun (name, v) => (name, v.literal))) name =
      (getD (ofTexts [("gte", b.gte), ("gt", b.gt), ("lte", b.lte), ("lt", b.lt)]) name).literal :=
    fun name => getD_ofTexts_set name (by simp)
  have hread : coerce b.document =
      make b.gte.literal b.gt.literal b.lte.literal b.lt.literal := by
    rw [document, ofFields_eq]
    simp only [coerce, ofValue?, rejectUnknown_ofTexts hnames, ok_bind, hget]
    simp
  have hset : b.literal.isEmpty = false := by rw [isEmpty_literal, h]
  rw [hread]
  exact if_neg (by simpa [literal] using hset)

end Bounds

/-! ## Clauses -/

namespace Predicate

/-- The entries that write a clause, and the members that are read from them: a clause without
members is not written. -/
inductive WrittenClause (name : String) : List (String × Value) → List Value → Prop
  | absent : WrittenClause name [] []
  | present {docs ms : List Value} (h : readAll docs = .ok ms) :
    WrittenClause name [(name, .list docs)] ms

namespace WrittenClause

variable {m n : String} {es rest : List (String × Value)} {ms : List Value}

theorem clauseOf_cons (n name : String) (v : Value) (fields : List (String × Value)) :
    clauseOf (readClauses (ofTexts ((n, v) :: fields))) name =
      if n = name then readClause v else clauseOf (readClauses (ofTexts fields)) name := by
  rw [ofTexts_cons, readClauses, clauseOf, clauseOf, List.find?_cons]
  by_cases h : n = name
  · simp [h, Value.text?]
  · have hkey : ((Value.text n).text? == some name) = false := by simpa [Value.text?] using h
    rw [hkey, if_neg h]

theorem name_eq (h : WrittenClause n es ms) : ∀ e ∈ es, e.1 = n := by
  cases h <;> simp

theorem read_append (h : WrittenClause n es ms)
    (hrest : clauseOf (readClauses (ofTexts rest)) n = .ok []) :
    clauseOf (readClauses (ofTexts (es ++ rest))) n = .ok ms := by
  cases h with
  | absent => exact hrest
  | present h => rw [List.singleton_append, clauseOf_cons, if_pos rfl, readClause, h]

theorem skip (h : WrittenClause m es ms) (hmn : m ≠ n) :
    clauseOf (readClauses (ofTexts (es ++ rest))) n = clauseOf (readClauses (ofTexts rest)) n := by
  cases h with
  | absent => rfl
  | present h => rw [List.singleton_append, clauseOf_cons, if_neg hmn]

theorem read (h : WrittenClause n es ms) : clauseOf (readClauses (ofTexts es)) n = .ok ms := by
  have hnil : clauseOf (readClauses (ofTexts (es ++ []))) n = .ok ms := h.read_append rfl
  rwa [List.append_nil] at hnil

theorem read_other (h : WrittenClause m es ms) (hmn : m ≠ n) :
    clauseOf (readClauses (ofTexts es)) n = .ok [] := by
  have hnil : clauseOf (readClauses (ofTexts (es ++ []))) n = .ok [] := h.skip hmn
  rwa [List.append_nil] at hnil

/-- The clauses of a body are found, whichever of them were written. -/
theorem ofEntry_bool {must mustNot should filter : List (String × Value)}
    {vs ws xs ys : List Value} (hmust : WrittenClause "must" must vs)
    (hmustNot : WrittenClause "must_not" mustNot ws) (hshould : WrittenClause "should" should xs)
    (hfilter : WrittenClause "filter" filter ys) :
    ofEntry (.text "bool") (ofFields (must ++ mustNot ++ should ++ filter)) =
      .ok (.bool (.tuple vs) (.tuple ws) (.tuple xs) (.tuple ys)) := by
  rw [List.append_assoc, List.append_assoc, ofFields_eq]
  have hnames : ∀ e ∈ must ++ (mustNot ++ (should ++ filter)), e.1 ∈ clauseNames := by
    intro e he
    simp only [List.mem_append] at he
    rcases he with he | he | he | he
    · simp [hmust.name_eq e he, clauseNames]
    · simp [hmustNot.name_eq e he, clauseNames]
    · simp [hshould.name_eq e he, clauseNames]
    · simp [hfilter.name_eq e he, clauseNames]
  generalize hes : must ++ (mustNot ++ (should ++ filter)) = es at hnames ⊢
  have h₁ : clauseOf (readClauses (ofTexts es)) "must" = .ok vs := by
    rw [← hes, hmust.read_append]
    rw [hmustNot.skip, hshould.skip, hfilter.read_other] <;> decide
  have h₂ : clauseOf (readClauses (ofTexts es)) "must_not" = .ok ws := by
    rw [← hes, hmust.skip (by decide), hmustNot.read_append]
    rw [hshould.skip, hfilter.read_other] <;> decide
  have h₃ : clauseOf (readClauses (ofTexts es)) "should" = .ok xs := by
    rw [← hes, hmust.skip (by decide), hmustNot.skip (by decide), hshould.read_append]
    exact hfilter.read_other (by decide)
  have h₄ : clauseOf (readClauses (ofTexts es)) "filter" = .ok ys := by
    rw [← hes, hmust.skip, hmustNot.skip, hshould.skip, hfilter.read] <;> decide
  rw [ofEntry]
  simp [Value.text?, rejectUnknown_ofTexts hnames, h₁, h₂, h₃, h₄]

end WrittenClause

/-- Members that each read back are written as a list that is read as all of them. -/
theorem readAll_memberDocuments :
    ∀ {ps : List Predicate}, (∀ p ∈ ps, p.ReadsBack) →
      ∃ docs, memberDocuments (ps.map toValue) = .ok docs ∧
        readAll docs = .ok (membersWithLiterals (ps.map toValue))
  | [], _ => ⟨[], rfl, rfl⟩
  | p :: ps, h => by
    obtain ⟨name, body, q, hdoc, hread, hq⟩ := h p (List.mem_cons_self ..)
    obtain ⟨docs, hdocs, hall⟩ :=
      readAll_memberDocuments fun p' hp' => h p' (List.mem_cons_of_mem _ hp')
    refine ⟨single name body :: docs, ?_, ?_⟩
    · simp [memberDocuments, hdoc, hdocs]
    · have hone : readOne (single name body) = .ok p.toValue.withLiterals := by
        rw [single, ofFields_eq, ofTexts_cons, ofTexts_nil, readOne, hread, ← hq]
        rfl
      simp [readAll, hone, hall, membersWithLiterals]

theorem writtenClause_of_readsBack (name : String) {ps : List Predicate}
    (h : ∀ p ∈ ps, p.ReadsBack) :
    ∃ es, clauseDocument name (.tuple (ps.map toValue)) = .ok es ∧
      WrittenClause name es (membersWithLiterals (ps.map toValue)) := by
  rcases ps with _ | ⟨p, ps⟩
  · exact ⟨[], rfl, .absent⟩
  · obtain ⟨docs, hdocs, hall⟩ := readAll_memberDocuments h
    refine ⟨[(name, .list docs)], ?_, .present hall⟩
    rw [List.map_cons] at hdocs ⊢
    simp [clauseDocument, hdocs]

/-! ## The way there and back -/

theorem makeMultiMatch_eq_ok {value fields : Value} {p : Predicate} :
    makeMultiMatch value fields = .ok p ↔
      ∃ names, requireCollection .multiMatchFields fields = .ok names ∧
        .multiMatch value names = p := by
  simp only [makeMultiMatch, bind_eq_ok, pure_eq_ok]

theorem makeTerms_eq_ok {field values : Value} {p : Predicate} :
    makeTerms field values = .ok p ↔ ∃ vs, values.collection? = some vs ∧ .terms field vs = p := by
  unfold makeTerms
  cases values.collection? <;> simp

theorem ofField_name {kind : String} {field body : Value} (hfield : field.text?.isSome) :
    Document.ofField kind field body = .ok (single kind (.map [(field, body)])) :=
  if_pos (Value.isKey_of_text? hfield)

theorem singleEntry_name {kind : String} {field body : Value} (hfield : field.text?.isSome) :
    singleEntry kind (.map [(field, body)]) = .ok (field, body) :=
  if_pos hfield

theorem readsBack_bool {must mustNot should filter : List Predicate}
    (hmust : ∀ p ∈ must, p.ReadsBack) (hmustNot : ∀ p ∈ mustNot, p.ReadsBack)
    (hshould : ∀ p ∈ should, p.ReadsBack) (hfilter : ∀ p ∈ filter, p.ReadsBack) :
    ReadsBack (.bool (.tuple (must.map toValue)) (.tuple (mustNot.map toValue))
      (.tuple (should.map toValue)) (.tuple (filter.map toValue))) := by
  obtain ⟨es₁, h₁, hw₁⟩ := writtenClause_of_readsBack "must" hmust
  obtain ⟨es₂, h₂, hw₂⟩ := writtenClause_of_readsBack "must_not" hmustNot
  obtain ⟨es₃, h₃, hw₃⟩ := writtenClause_of_readsBack "should" hshould
  obtain ⟨es₄, h₄, hw₄⟩ := writtenClause_of_readsBack "filter" hfilter
  refine ⟨"bool", ofFields (es₁ ++ es₂ ++ es₃ ++ es₄), _, ?_, hw₁.ofEntry_bool hw₂ hw₃ hw₄, ?_⟩
  · simp [toValue, Value.predicateDocument, h₁, h₂, h₃, h₄]
  · simp [toValue, Value.withLiterals]

theorem readsBack_multiMatch {value fields : Value} {p : Predicate}
    (h : makeMultiMatch value fields = .ok p) : p.ReadsBack := by
  obtain ⟨names, hnames, rfl⟩ := makeMultiMatch_eq_ok.1 h
  have hagain : requireCollection .multiMatchFields (.tuple (names.map .text)) = .ok names :=
    requireCollection_textTuple (isTrimmed_of_requireCollection hnames)
  refine ⟨"multi_match", _, .multiMatch value.literal names, rfl, ?_, rfl⟩
  rw [ofFields_eq, ofEntry]
  simp [Value.text?, ofMultiMatch, listOf, makeMultiMatch, hagain]

theorem readsBack_terms {field values : Value} {p : Predicate} (hfield : field.text?.isSome)
    (h : makeTerms field values = .ok p) : p.ReadsBack := by
  obtain ⟨vs, -, rfl⟩ := makeTerms_eq_ok.1 h
  refine ⟨"terms", _, .terms field (literals vs), ofField_name hfield, ?_, rfl⟩
  simp [ofEntry, Value.text?, Predicate.ofField, singleEntry_name hfield, Value.sequence?]

theorem readsBack_range {field : Value} {b : Bounds} (hfield : field.text?.isSome)
    (h : b.isEmpty = false) : ReadsBack (.range field b.toValue) := by
  refine ⟨"range", .map [(field, b.document)], .range field b.literal.toValue, ?_, ?_, rfl⟩
  · simp [toValue, Value.predicateDocument, Bounds.ofBounds_toValue, ofField_name hfield]
  · simp [ofEntry, Value.text?, Predicate.ofField, singleEntry_name hfield,
      Bounds.coerce_document h]

theorem WellFormed.readsBack {p : Predicate} (h : p.WellFormed) : p.ReadsBack := by
  induction h with
  | matchAll => exact ⟨"match_all", .map [], .matchAll, rfl, rfl, rfl⟩
  | matching value hfield =>
    refine ⟨"match", _, .matching _ value.literal, ofField_name hfield, ?_, rfl⟩
    simp [ofEntry, Value.text?, Predicate.ofField, singleEntry_name hfield]
  | phrase words hfield =>
    refine ⟨"match_phrase", _, .phrase _ words, ofField_name hfield, ?_, rfl⟩
    simp [ofEntry, Value.text?, Predicate.ofField, singleEntry_name hfield]
  | multiMatch h => exact readsBack_multiMatch h
  | term value hfield =>
    refine ⟨"term", _, .term _ value.literal, ofField_name hfield, ?_, rfl⟩
    simp [ofEntry, Value.text?, Predicate.ofField, singleEntry_name hfield]
  | terms hfield h => exact readsBack_terms hfield h
  | range hfield h => exact readsBack_range hfield (Bounds.isEmpty_of_make h)
  | bool _ _ _ _ hmust hmustNot hshould hfilter =>
    exact readsBack_bool hmust hmustNot hshould hfilter

/-! ## Predicates that come back as they were -/

theorem toValue_injective : Function.Injective toValue := by
  have htexts : Function.Injective Value.textTuple := fun ss ts h =>
    List.map_injective_iff.2 (fun s t hst => Value.text.inj hst) (Value.tuple.inj h)
  intro p q h
  cases p <;> cases q <;> simp_all [toValue]
  exact htexts h.2

theorem membersWithLiterals_eq_self {ps : List Predicate}
    (hps : ∀ p ∈ ps, (∀ vs, .tuple vs ∉ p.toValue.literalsIn) →
      p.toValue.withLiterals = p.toValue)
    (h : ∀ vs, .tuple vs ∉ memberLiterals (ps.map toValue)) :
    membersWithLiterals (ps.map toValue) = ps.map toValue := by
  induction ps with
  | nil => rfl
  | cons p ps ih =>
    simp only [List.map_cons, memberLiterals, List.mem_append, not_or] at h
    rw [List.map_cons, membersWithLiterals, hps p (List.mem_cons_self ..) fun vs => (h vs).1,
      ih (fun p' hp' => hps p' (List.mem_cons_of_mem _ hp')) fun vs => (h vs).2]

theorem WellFormed.withLiterals_eq_self {p : Predicate} (h : p.WellFormed)
    (hp : ∀ vs, .tuple vs ∉ p.toValue.literalsIn) : p.toValue.withLiterals = p.toValue := by
  have hone : ∀ {v : Value}, (∀ vs, .tuple vs ∉ [v]) → v.literal = v := fun h =>
    Value.literal_eq_self fun vs hv => h vs (by simp [hv])
  induction h with
  | matchAll => rfl
  | matching value hfield => rw [toValue, Value.withLiterals, hone hp]
  | phrase words hfield => rfl
  | multiMatch h =>
    obtain ⟨names, -, rfl⟩ := makeMultiMatch_eq_ok.1 h
    rw [toValue, Value.withLiterals, hone hp]
  | term value hfield => rw [toValue, Value.withLiterals, hone hp]
  | terms hfield h =>
    obtain ⟨vs, -, rfl⟩ := makeTerms_eq_ok.1 h
    have hvs : literals vs = vs := literals_eq_self hp
    rw [toValue, Value.withLiterals, hvs]
  | @range field _ _ _ _ b hfield h =>
    have hb : literals [b.gte, b.gt, b.lte, b.lt] = [b.gte, b.gt, b.lte, b.lt] :=
      literals_eq_self hp
    rw [toValue, Bounds.toValue, Value.withLiterals, hb]
  | bool _ _ _ _ hmust hmustNot hshould hfilter =>
    simp only [toValue, Value.literalsIn, List.mem_append, not_or] at hp
    rw [toValue, Value.withLiterals,
      membersWithLiterals_eq_self hmust fun vs => (hp vs).1.1.1,
      membersWithLiterals_eq_self hmustNot fun vs => (hp vs).1.1.2,
      membersWithLiterals_eq_self hshould fun vs => (hp vs).1.2,
      membersWithLiterals_eq_self hfilter fun vs => (hp vs).2]

/-- A predicate made by the rules has a document, from which it is read again with its literals as
the document writes them. A predicate without tuples among its literals is read as it was. -/
theorem ofDocument_predicateDocument {p : Predicate} (h : p.WellFormed) :
    ∃ doc q, p.toValue.predicateDocument = .ok doc ∧ ofDocument doc = .ok q ∧
      q.toValue = p.toValue.withLiterals ∧
      ((∀ vs, .tuple vs ∉ p.toValue.literalsIn) → q = p) := by
  obtain ⟨name, body, q, hdoc, hread, hq⟩ := h.readsBack
  refine ⟨single name body, q, hdoc, hread, hq, fun hp => ?_⟩
  rw [h.withLiterals_eq_self hp] at hq
  exact toValue_injective hq

theorem ofDocument_predicateDocument_nested :
    ∃ doc q,
      Value.predicateDocument (.part .bool [
        .tuple [.part .range [.text "price", .part .bounds [.int 0, .null, .null, .text ""]],
          .part .bool [.tuple [], .tuple [], .tuple [], .tuple []]],
        .tuple [.part .terms [.text "tag", .tuple [.tuple [.int 1, .tuple []], .list [.tuple []]]],
          .part .terms [.text "tag", .tuple []]],
        .tuple [.part .multiMatch [.tuple [.bool false], .tuple []],
          .part .phrase [.text "title", .tuple [.text "a"]]],
        .tuple []]) = .ok doc ∧
      ofDocument doc = .ok q ∧
      q.toValue = .part .bool [
        .tuple [.part .range [.text "price", .part .bounds [.int 0, .null, .null, .text ""]],
          .part .bool [.tuple [], .tuple [], .tuple [], .tuple []]],
        .tuple [.part .terms [.text "tag", .tuple [.list [.int 1, .list []], .list [.tuple []]]],
          .part .terms [.text "tag", .tuple []]],
        .tuple [.part .multiMatch [.list [.bool false], .tuple []],
          .part .phrase [.text "title", .tuple [.text "a"]]],
        .tuple []] := by
  have hprice : WellFormed
      (.range (.text "price") (Bounds.mk (.int 0) .null .null (.text "")).toValue) :=
    @WellFormed.range _ (.int 0) .null .null (.text "") _ rfl rfl
  have hempty : (bool (.tuple []) (.tuple []) (.tuple []) (.tuple [])).WellFormed :=
    @WellFormed.bool [] [] [] [] (by simp) (by simp) (by simp) (by simp)
  have hterms : ∀ vs, (terms (.text "tag") vs).WellFormed := fun vs =>
    @WellFormed.terms (.text "tag") (.list vs) _ rfl rfl
  have hmulti : (multiMatch (.tuple [.bool false]) []).WellFormed :=
    @WellFormed.multiMatch _ (.set []) _ rfl
  have hphrase : (phrase (.text "title") (.tuple [.text "a"])).WellFormed := .phrase _ rfl
  obtain ⟨doc, q, hdoc, hread, hq, -⟩ := ofDocument_predicateDocument (@WellFormed.bool
    [range (.text "price") (Bounds.mk (.int 0) .null .null (.text "")).toValue,
      bool (.tuple []) (.tuple []) (.tuple []) (.tuple [])]
    [terms (.text "tag") [.tuple [.int 1, .tuple []], .list [.tuple []]], terms (.text "tag") []]
    [multiMatch (.tuple [.bool false]) [], phrase (.text "title") (.tuple [.text "a"])]
    [] (by simp [hprice, hempty]) (by simp [hterms]) (by simp [hmulti, hphrase]) (by simp))
  exact ⟨doc, q, hdoc, hread, hq⟩

end Predicate

end QueryDraft
