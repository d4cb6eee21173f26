import QueryDraft.Proofs.ReadingErrors

/-!
# Which documents are read, and what is written for them

The documents that are read as predicates have a grammar, which says at the same time what is
written for the predicate (`Predicate.Restates`). A literal, a clause, the bounds of a range and the
names of fields may be given in several forms, and are written in one. Whatever is read is in the
grammar, by induction on the members of a `bool`, and whatever is in the grammar is read, by
induction on how it is in it.

Taken strictly, the grammar has each key of each body written again. What is read need not be
strictly in it: the body of a `match_all` is not looked at, and of the body of a `multi_match` or of
an aggregation only some keys are (`LeavesOut`).
-/

namespace QueryDraft

open Document Entries

namespace Predicate

/-- The bounds that a mapping sets, as a document writes them. -/
def boundFields (es : Entries) : List (String × Value) :=
  ((Bounds.names.map fun name => (name, getD es name)).filter fun e => !e.2.isNull).map
    fun (name, v) => (name, v.literal)

/-- The clauses that have members, with a document for each member. -/
def clauseFields (es : Entries) (doc : Value → Value) : List (String × Value) :=
  clauseNames.flatMap fun name =>
    if (clause es name).isEmpty then [] else [(name, .list ((clause es name).map doc))]

/-- Whether a document stands for a predicate, and another one is written for it. Strictly, there is
nothing in the first that is not in the second. -/
inductive Restates (strict : Prop) : Value → Value → Prop
  | matchAll {k body : Value} (hk : k.text? = some "match_all") (hbody : strict → body = .map []) :
    Restates strict (.map [(k, body)]) (single "match_all" (.map []))
  | matching {k field : Value} (hk : k.text? = some "match") (hfield : field.text?.isSome)
    (arg : Value) : Restates strict (.map [(k, .map [(field, arg)])])
      (single "match" (.map [(field, arg.literal)]))
  | phrase {k field : Value} (hk : k.text? = some "match_phrase") (hfield : field.text?.isSome)
    (arg : Value) : Restates strict (.map [(k, .map [(field, arg)])])
      (single "match_phrase" (.map [(field, arg)]))
  | term {k field : Value} (hk : k.text? = some "term") (hfield : field.text?.isSome)
    (arg : Value) : Restates strict (.map [(k, .map [(field, arg)])])
      (single "term" (.map [(field, arg.literal)]))
  | terms {k field arg : Value} {vs : List Value} (hk : k.text? = some "terms")
    (hfield : field.text?.isSome) (hvs : arg.sequence? = some vs) :
    Restates strict (.map [(k, .map [(field, arg)])])
      (single "terms" (.map [(field, .list (literals vs))]))
  | range {k field : Value} {es : Entries} (hk : k.text? = some "range")
    (hfield : field.text?.isSome) (hknown : unknownKeys es Bounds.names = [])
    (hset : boundFields es ≠ []) : Restates strict (.map [(k, .map [(field, .map es)])])
      (single "range" (.map [(field, ofFields (boundFields es))]))
  | bounds {k field arg : Value} {b : Bounds} (hk : k.text? = some "range")
    (hfield : field.text?.isSome) (hb : Bounds.ofValue? arg = some b) :
    Restates strict (.map [(k, .map [(field, arg)])])
      (single "range" (.map [(field, b.document)]))
  | multiMatch {k value : Value} {es : Entries} {names : List String}
    (hk : k.text? = some "multi_match") (hvalue : get? es "query" = some value)
    (hnames : List.Forall₂ (fun v name => v.text?.bind Text.nonBlank? = some name)
      (listOf (getD es "fields")) names)
    (hkeys : strict → unknownKeys es ["query", "fields"] = []) :
    Restates strict (.map [(k, .map es)])
      (single "multi_match" (ofFields [("query", value.literal), ("fields", .textList names)]))
  | bool {k : Value} {es : Entries} {doc : Value → Value} (hk : k.text? = some "bool")
    (hknown : unknownKeys es clauseNames = []) (h : ∀ w ∈ members es, Restates strict w (doc w)) :
    Restates strict (.map [(k, .map es)]) (single "bool" (ofFields (clauseFields es doc)))

/-- Somewhere in a document a `match_all` has a body, or a `multi_match` has a key that is not
looked up. -/
inductive LeavesOut : Value → Prop
  | matchAll {k body : Value} (hk : k.text? = some "match_all") (h : body ≠ .map []) :
    LeavesOut (.map [(k, body)])
  | multiMatch {k : Value} {es : Entries} (hk : k.text? = some "multi_match")
    (h : unknownKeys es ["query", "fields"] ≠ []) : LeavesOut (.map [(k, .map es)])
  | member {k w : Value} {es : Entries} (hk : k.text? = some "bool") (hw : w ∈ members es)
    (h : LeavesOut w) : LeavesOut (.map [(k, .map es)])

variable {k field v doc : Value} {es : Entries} {p : Predicate}

theorem Restates.strict (h : Restates False v doc) (hv : ¬LeavesOut v) : Restates True v doc := by
  induction h with
  | @matchAll k body hk hbody =>
    refine .matchAll hk fun _ => ?_
    by_contra hne
    exact hv (.matchAll hk hne)
  | matching hk hfield arg => exact .matching hk hfield arg
  | phrase hk hfield arg => exact .phrase hk hfield arg
  | term hk hfield arg => exact .term hk hfield arg
  | terms hk hfield hvs => exact .terms hk hfield hvs
  | range hk hfield hknown hset => exact .range hk hfield hknown hset
  | bounds hk hfield hb => exact .bounds hk hfield hb
  | @multiMatch k value es names hk hvalue hnames hkeys =>
    refine .multiMatch hk hvalue hnames fun _ => ?_
    by_contra hne
    exact hv (.multiMatch hk hne)
  | bool hk hknown _ ih =>
    exact .bool hk hknown fun w hw => ih w hw fun hw' => hv (.member hk hw hw')

/-- What is left out is the only thing in the way: a document has one kind, so the alternatives of
the two relations meet in pairs. -/
theorem LeavesOut.not_restates (h : LeavesOut v) : ¬Restates True v doc := by
  induction h generalizing doc with
  | matchAll hk h =>
    intro hdoc
    cases hdoc <;> simp_all
  | multiMatch hk h =>
    intro hdoc
    cases hdoc <;> simp_all
  | @member k w es hk hw h ih =>
    intro hdoc
    cases hdoc with
    | bool _ _ hall => exact ih (hall w hw)
    | _ => simp_all

/-! ## What is read is in the grammar -/

theorem exists_ofDocument_bool (hk : k.text? = some "bool") :
    (∃ p, ofDocument (.map [(k, .map es)]) = .ok p)
      ↔ unknownKeys es clauseNames = [] ∧ ∀ w ∈ members es, ∃ p, ofDocument w = .ok p := by
  simp only [ofDocument_bool hk, exists_bind_eq_ok, exists_map_eq_ok, exists_mapM_eq_ok,
    exists_readOne_eq_ok, rejectUnknown_eq_ok, exists_and_left, exists_const, mem_members]
  refine and_congr_right fun _ => ⟨?_, ?_⟩
  · rintro h w ⟨name, hname, hw⟩
    exact h name hname w hw
  · exact fun h name hname w hw => h w ⟨name, hname, hw⟩

/-- The `bool` of what is read for the members. -/
def ofMembers (es : Entries) (q : Value → Predicate) : Predicate :=
  ofClauses (clauseNames.map fun name => (clause es name).map fun w => (q w).toValue)

theorem ofDocument_of_members (hk : k.text? = some "bool")
    (hknown : unknownKeys es clauseNames = []) {q : Value → Predicate}
    (hq : ∀ w ∈ members es, ofDocument w = .ok (q w)) :
    ofDocument (.map [(k, .map es)]) = .ok (ofMembers es q) := by
  have hclause : ∀ name ∈ clauseNames, (clause es name).mapM readOne
      = .ok ((clause es name).map fun w => (q w).toValue) := fun name hname =>
    mapM_ok fun w hw => by rw [readOne_eq_map, hq w (mem_members.2 ⟨name, hname, hw⟩), map_ok]
  have hreject : rejectUnknown es clauseNames .unknownBoolClauses = .ok () :=
    rejectUnknown_eq_ok.2 hknown
  rw [ofDocument_bool hk, hreject, ok_bind, mapM_ok hclause, map_ok, ofMembers]

theorem memberDocuments_eq_mapM (vs : List Value) :
    memberDocuments vs = vs.mapM Value.predicateDocument := by
  induction vs with
  | nil => rfl
  | cons v vs ih => rw [memberDocuments, List.mapM_cons, ih]

theorem clauseDocument_members (name : String) {ws : List Value} {q : Value → Predicate}
    {doc : Value → Value} (h : ∀ w ∈ ws, (q w).toValue.predicateDocument = .ok (doc w)) :
    clauseDocument name (.tuple (ws.map fun w => (q w).toValue))
      = .ok (if ws.isEmpty then [] else [(name, .list (ws.map doc))]) := by
  rw [clauseDocument, List.isEmpty_map, memberDocuments_eq_mapM, mapM_map_ok h]
  split_ifs <;> rfl

theorem predicateDocument_ofMembers {q : Value → Predicate} {doc : Value → Value}
    (h : ∀ w ∈ members es, (q w).toValue.predicateDocument = .ok (doc w)) :
    (ofMembers es q).toValue.predicateDocument
      = .ok (single "bool" (ofFields (clauseFields es doc))) := by
  let part (name : String) : Value := .tuple ((clause es name).map fun w => (q w).toValue)
  let fields (name : String) : List (String × Value) :=
    if (clause es name).isEmpty then [] else [(name, .list ((clause es name).map doc))]
  have hclause (name : String) (hname : name ∈ clauseNames) :
      clauseDocument name (part name) = .ok (fields name) :=
    clauseDocument_members name fun w hw => h w (mem_members.2 ⟨name, hname, hw⟩)
  have hvalue : (ofMembers es q).toValue
      = .part .bool [part "must", part "must_not", part "should", part "filter"] := rfl
  have hfields : clauseFields es doc
      = fields "must" ++ fields "must_not" ++ fields "should" ++ fields "filter" := by
    simp [clauseFields, clauseNames, fields]
  rw [hvalue, Value.predicateDocument, hclause _ (by decide), ok_bind, hclause _ (by decide),
    ok_bind, hclause _ (by decide), ok_bind, hclause _ (by decide), ok_bind, hfields]
  rfl

theorem boundFields_eq_nil : boundFields es = []
    ↔ (Bounds.mk (getD es "gte") (getD es "gt") (getD es "lte") (getD es "lt")).isEmpty := by
  simp [boundFields, Bounds.names, Bounds.isEmpty, List.filter_eq_nil_iff, and_assoc]

/-- The document of the bounds that are read from a mapping has those that are set. -/
theorem coerce_map_eq_ok {b : Bounds} : Bounds.coerce (.map es) = .ok b
    ↔ unknownKeys es Bounds.names = [] ∧ boundFields es ≠ []
      ∧ ⟨getD es "gte", getD es "gt", getD es "lte", getD es "lt"⟩ = b := by
  have hcoerce : Bounds.coerce (.map es) = rejectUnknown es Bounds.names .unknownBounds >>= fun _ =>
      Bounds.make (getD es "gte") (getD es "gt") (getD es "lte") (getD es "lt") := rfl
  rw [hcoerce, check_bind_eq_ok, rejectUnknown_eq_ok, Ne, boundFields_eq_nil, Bounds.make]
  refine and_congr_right fun _ => ?_
  split_ifs with hempty
  · simp [hempty]
  · simp [hempty]

theorem coerce_cases {b : Bounds} (h : Bounds.coerce v = .ok b) :
    Bounds.ofValue? v = some b ∨ ∃ es, v = .map es := by
  unfold Bounds.coerce at h
  split at h
  · rename_i b' hb
    exact .inl (hb.trans (congrArg some (Except.ok.inj h)))
  · exact .inr ⟨_, rfl⟩
  · simp at h

theorem ofMultiMatch_eq_ok {body : Value} : ofMultiMatch body = .ok p
    ↔ ∃ es value names, body = .map es ∧ get? es "query" = some value
      ∧ List.Forall₂ (fun v name => v.text?.bind Text.nonBlank? = some name)
        (listOf (getD es "fields")) names ∧ .multiMatch value names = p := by
  have hnames (vs : List Value) (names : List String) :
      requireCollection .multiMatchFields (.tuple vs) = .ok names
        ↔ List.Forall₂ (fun v name => v.text?.bind Text.nonBlank? = some name) vs names := by
    have htuple : requireCollection .multiMatchFields (.tuple vs)
        = vs.mapM (requireMember .multiMatchFields) := rfl
    rw [htuple, mapM_eq_ok]
    simp only [requireMember_eq_ok]
  rcases body.map_or_plain with ⟨es, rfl⟩ | hplain
  · cases hvalue : get? es "query" <;>
      simp [ofMultiMatch, hvalue, makeMultiMatch_eq_ok, hnames]
  · cases body <;> simp_all [ofMultiMatch, Value.entries?]

theorem exists_restates_field {name : String} {arg : Value} (hk : k.text? = some name)
    (hname : name ∈ ["match", "match_phrase", "term", "terms", "range"])
    (hfield : field.text?.isSome) (hp : ofDocument (.map [(k, .map [(field, arg)])]) = .ok p) :
    ∃ doc, p.toValue.predicateDocument = .ok doc
      ∧ Restates False (.map [(k, .map [(field, arg)])]) doc := by
  simp only [List.mem_cons, List.not_mem_nil, or_false] at hname
  rcases hname with rfl | rfl | rfl | rfl | rfl
  · rw [ofDocument_match hfield hk] at hp
    obtain rfl := Except.ok.inj hp
    exact ⟨_, ofField_name hfield, .matching hk hfield arg⟩
  · rw [ofDocument_phrase hfield hk] at hp
    obtain rfl := Except.ok.inj hp
    exact ⟨_, ofField_name hfield, .phrase hk hfield arg⟩
  · rw [ofDocument_term hfield hk] at hp
    obtain rfl := Except.ok.inj hp
    exact ⟨_, ofField_name hfield, .term hk hfield arg⟩
  · rw [ofDocument_terms hfield hk] at hp
    cases hvs : arg.sequence? with
    | none => simp [hvs] at hp
    | some vs =>
      rw [hvs] at hp
      obtain rfl := Except.ok.inj hp
      exact ⟨_, ofField_name hfield, .terms hk hfield hvs⟩
  · rw [ofDocument_range hfield hk] at hp
    obtain ⟨b, hb, rfl⟩ := map_eq_ok.1 hp
    have hdoc : (range field b.toValue).toValue.predicateDocument
        = .ok (single "range" (.map [(field, b.document)])) := by
      simp [toValue, Value.predicateDocument, Bounds.ofBounds_toValue, ofField_name hfield]
    refine ⟨_, hdoc, ?_⟩
    rcases coerce_cases hb with hmade | ⟨es, rfl⟩
    · exact .bounds hk hfield hmade
    · obtain ⟨hknown, hset, rfl⟩ := coerce_map_eq_ok.1 hb
      exact .range hk hfield hknown hset

theorem exists_restates (v : Value) : ∀ p, ofDocument v = .ok p →
    ∃ doc, p.toValue.predicateDocument = .ok doc ∧ Restates False v doc := by
  induction v using member_induction with
  | h v ih =>
    intro p hp
    cases form v with
    | refused h => simp [h] at hp
    | matchAll hk body =>
      rw [ofDocument_matchAll hk] at hp
      obtain rfl := Except.ok.inj hp
      exact ⟨_, rfl, .matchAll hk False.elim⟩
    | @bool k hk es =>
      obtain ⟨hknown, hall⟩ := (exists_ofDocument_bool hk).1 ⟨p, hp⟩
      -- a predicate and a document for each member, on their own
      have : Nonempty Predicate := ⟨.matchAll⟩
      choose! q hq using hall
      choose! doc hdoc using fun w hw => ih k es rfl w hw (q w) (hq w hw)
      rw [ofDocument_of_members hk hknown hq] at hp
      obtain rfl := Except.ok.inj hp
      exact ⟨_, predicateDocument_ofMembers fun w hw => (hdoc w hw).1,
        .bool hk hknown fun w hw => (hdoc w hw).2⟩
    | multiMatch hk body =>
      rw [ofDocument_multiMatch hk] at hp
      obtain ⟨es, value, names, rfl, hvalue, hnames, rfl⟩ := ofMultiMatch_eq_ok.1 hp
      exact ⟨_, rfl, .multiMatch hk hvalue hnames False.elim⟩
    | field hk hname hfield arg => exact exists_restates_field hk hname hfield hp

/-- What the grammar has is read. -/
theorem exists_ofDocument (h : Restates False v doc) : ∃ p, ofDocument v = .ok p := by
  induction h with
  | matchAll hk _ => exact ⟨_, ofDocument_matchAll hk _⟩
  | matching hk hfield arg => exact ⟨_, ofDocument_match hfield hk arg⟩
  | phrase hk hfield arg => exact ⟨_, ofDocument_phrase hfield hk arg⟩
  | term hk hfield arg => exact ⟨_, ofDocument_term hfield hk arg⟩
  | @terms k field arg vs hk hfield hvs =>
    rw [ofDocument_terms hfield hk, hvs]
    exact ⟨_, rfl⟩
  | range hk hfield hknown hset =>
    rw [ofDocument_range hfield hk, exists_map_eq_ok]
    exact ⟨_, coerce_map_eq_ok.2 ⟨hknown, hset, rfl⟩⟩
  | @bounds k field arg b hk hfield hb =>
    have hcoerce : Bounds.coerce arg = .ok b := by
      unfold Bounds.coerce
      rw [hb]
    rw [ofDocument_range hfield hk, hcoerce]
    exact ⟨_, rfl⟩
  | multiMatch hk hvalue hnames _ =>
    rw [ofDocument_multiMatch hk]
    exact ⟨_, ofMultiMatch_eq_ok.2 ⟨_, _, _, rfl, hvalue, hnames, rfl⟩⟩
  | bool hk hknown _ ih => exact (exists_ofDocument_bool hk).2 ⟨hknown, ih⟩

end Predicate

/-! ## Aggregations -/

namespace Aggregation

/-- The name under which the interval of a histogram is looked up. -/
def intervalName (es : Entries) : String :=
  if has es "calendar_interval" then "calendar_interval" else "interval"

/-- Whether a document stands for an aggregation, and another one is written for it. Strictly, there
is nothing in the first that is not in the second. -/
inductive Restates (strict : Prop) : Value → Value → Prop
  | avg {k : Value} {es : Entries} (hk : k.text? = some "avg")
    (hfield : (getD es "field").isTruthy) (hkeys : strict → unknownKeys es ["field"] = []) :
    Restates strict (.map [(k, .map es)]) (single "avg" (single "field" (getD es "field")))
  | sum {k : Value} {es : Entries} (hk : k.text? = some "sum")
    (hfield : (getD es "field").isTruthy) (hkeys : strict → unknownKeys es ["field"] = []) :
    Restates strict (.map [(k, .map es)]) (single "sum" (single "field" (getD es "field")))
  | terms {k size : Value} {es : Entries} {n : Number} (hk : k.text? = some "terms")
    (hfield : (getD es "field").isTruthy) (hsize : (get? es "size").getD (.int 10) = size)
    (hn : size.number? = some n) (hnonneg : n.isNegative = false)
    (hkeys : strict → unknownKeys es ["field", "size"] = []) :
    Restates strict (.map [(k, .map es)])
      (single "terms" (ofFields [("field", getD es "field"), ("size", size)]))
  | dateHistogram {k interval : Value} {es : Entries} (hk : k.text? = some "date_histogram")
    (hfield : (getD es "field").isTruthy) (hinterval : getD es (intervalName es) = interval)
    (hset : interval.isTruthy) (hkeys : strict → unknownKeys es ["field", intervalName es] = []) :
    Restates strict (.map [(k, .map es)]) (single "date_histogram"
      (ofFields [("field", getD es "field"), ("calendar_interval", interval)]))

/-- An aggregation has a key that is not looked up. -/
inductive LeavesOut : Value → Prop
  | metric {k : Value} {es : Entries} (hk : k.text? = some "avg" ∨ k.text? = some "sum")
    (h : unknownKeys es ["field"] ≠ []) : LeavesOut (.map [(k, .map es)])
  | terms {k : Value} {es : Entries} (hk : k.text? = some "terms")
    (h : unknownKeys es ["field", "size"] ≠ []) : LeavesOut (.map [(k, .map es)])
  | dateHistogram {k : Value} {es : Entries} (hk : k.text? = some "date_histogram")
    (h : unknownKeys es ["field", intervalName es] ≠ []) : LeavesOut (.map [(k, .map es)])

variable {v doc field size : Value} {a : Aggregation}

theorem Restates.strict (h : Restates False v doc) (hv : ¬LeavesOut v) : Restates True v doc := by
  cases h with
  | avg hk hfield _ => exact .avg hk hfield fun _ => not_not.1 fun h => hv (.metric (.inl hk) h)
  | sum hk hfield _ => exact .sum hk hfield fun _ => not_not.1 fun h => hv (.metric (.inr hk) h)
  | terms hk hfield hsize hn hnonneg _ =>
    exact .terms hk hfield hsize hn hnonneg fun _ => not_not.1 fun h => hv (.terms hk h)
  | dateHistogram hk hfield hinterval hset _ =>
    exact .dateHistogram hk hfield hinterval hset fun _ => not_not.1 fun h =>
      hv (.dateHistogram hk h)

theorem LeavesOut.not_restates (h : LeavesOut v) : ¬Restates True v doc := by
  intro hdoc
  cases h <;> cases hdoc <;> simp_all

theorem getD_intervalName (es : Entries) : getD es (intervalName es)
    = (get? es "calendar_interval").getD (getD es "interval") := by
  unfold intervalName has
  cases h : get? es "calendar_interval" <;> simp [getD, h]

theorem exists_restates (h : ofDocument v = .ok a) :
    ∃ doc, a.toValue.aggregationDocument = .ok doc ∧ Restates False v doc := by
  have hdoc : a.toValue.aggregationDocument = .ok a.document := by cases a <;> rfl
  refine ⟨a.document, hdoc, ?_⟩
  cases form v with
  | refused h' => simp [h'] at h
  | @kind k es name hk hname hfield =>
    simp only [List.mem_cons, List.not_mem_nil, or_false] at hname
    rcases hname with rfl | rfl | rfl | rfl
    · rw [ofDocument_avg hfield hk] at h
      exact Except.ok.inj h ▸ .avg hk hfield False.elim
    · rw [ofDocument_sum hfield hk] at h
      exact Except.ok.inj h ▸ .sum hk hfield False.elim
    · rw [ofDocument_terms hfield hk] at h
      obtain ⟨n, hn, hnonneg, rfl⟩ := makeTerms_eq_ok.1 h
      exact .terms hk hfield rfl hn hnonneg False.elim
    · rw [ofDocument_dateHistogram hfield hk, ← getD_intervalName] at h
      dsimp only at h
      split_ifs at h with hset
      · exact Except.ok.inj h ▸ .dateHistogram hk hfield rfl hset False.elim
      · simp at h

theorem exists_ofDocument (h : Restates False v doc) : ∃ a, ofDocument v = .ok a := by
  cases h with
  | avg hk hfield _ => exact ⟨_, ofDocument_avg hfield hk⟩
  | sum hk hfield _ => exact ⟨_, ofDocument_sum hfield hk⟩
  | terms hk hfield hsize hn hnonneg _ =>
    rw [ofDocument_terms hfield hk, hsize]
    exact ⟨_, makeTerms_eq_ok.2 ⟨_, hn, hnonneg, rfl⟩⟩
  | dateHistogram hk hfield hinterval hset _ =>
    rw [ofDocument_dateHistogram hfield hk, ← getD_intervalName, hinterval]
    exact ⟨_, if_pos hset⟩

end Aggregation

/-- What is read from a document has one that stands in the grammar with it, strictly so exactly if
nothing was left out; what is not in the grammar gives an error. -/
def ReadsBy {α : Type} (x : Outcome α) (write : α → Outcome Value)
    (restates : Prop → Value → Prop) (leavesOut stumbles : Prop) : Prop :=
  (∃ a doc, x = .ok a ∧ write a = .ok doc ∧ restates False doc ∧ (restates True doc ↔ ¬leavesOut))
    ∨ (¬∃ doc, restates False doc)
      ∧ ∃ e, x = .error e ∧ ((∃ r, e = .refused r) ∨ e = .failed .mismatch ∧ stumbles)

theorem readsBy_of {α : Type} {x : Outcome α} {write : α → Outcome Value}
    {restates : Prop → Value → Prop} {leavesOut stumbles : Prop}
    (hread : ∀ a, x = .ok a → ∃ doc, write a = .ok doc ∧ restates False doc)
    (hgrammar : ∀ doc, restates False doc → ∃ a, x = .ok a)
    (hstrict : ∀ doc, restates False doc → ¬leavesOut → restates True doc)
    (hleaves : ∀ doc, leavesOut → ¬restates True doc) (hx : FailsExactlyIf stumbles x) :
    ReadsBy x write restates leavesOut stumbles := by
  cases x with
  | ok a =>
    obtain ⟨doc, hdoc, hrestates⟩ := hread a rfl
    exact .inl ⟨a, doc, rfl, hdoc, hrestates, fun h hleft => hleaves doc hleft h,
      hstrict doc hrestates⟩
  | error e =>
    refine .inr ⟨?_, e, rfl, hx.refused_or rfl⟩
    rintro ⟨doc, hdoc⟩
    obtain ⟨a, ha⟩ := hgrammar doc hdoc
    simp at ha

/-- A document is read as a predicate or as an aggregation exactly if it is in the grammar, and what
is then written for it is what the grammar has for it. Each key of each body is written again
exactly if nothing is left out. A document that is not in the grammar gives an error, a refusal
unless it is one of the cases in which data cannot be compared. -/
theorem reading_restates (v : Value) :
    ReadsBy (Predicate.ofDocument v) (fun p => p.toValue.predicateDocument)
        (Predicate.Restates · v ·) (Predicate.LeavesOut v) (Predicate.Stumbles v)
      ∧ ReadsBy (Aggregation.ofDocument v) (fun a => a.toValue.aggregationDocument)
        (Aggregation.Restates · v ·) (Aggregation.LeavesOut v) (Aggregation.Stumbles v) := by
  constructor
  · exact readsBy_of (Predicate.exists_restates v) (fun doc => Predicate.exists_ofDocument)
      (fun doc => Predicate.Restates.strict) (fun doc => Predicate.LeavesOut.not_restates)
      (Predicate.failsExactlyIf_ofDocument v)
  · exact readsBy_of (fun a => Aggregation.exists_restates)
      (fun doc => Aggregation.exists_ofDocument) (fun doc => Aggregation.Restates.strict)
      (fun doc => Aggregation.LeavesOut.not_restates) (Aggregation.failsExactlyIf_ofDocument v)

/-- The operator of a `multi_match`, the body of a `match_all` and a key of an aggregation beside
its field are read without an error and not written again. -/
theorem reading_leaves_out :
    let query : List (String × Value) :=
      [("query", .text "laptop"), ("fields", .list [.text "name"])]
    (∃ p, Predicate.ofDocument (single "multi_match"
        (ofFields (query ++ [("operator", .text "and")]))) = .ok p
        ∧ p.toValue.predicateDocument = .ok (single "multi_match" (ofFields query)))
      ∧ (∃ p, Predicate.ofDocument (single "match_all" (single "boost" (.int 2))) = .ok p
        ∧ p.toValue.predicateDocument = .ok (single "match_all" (.map [])))
      ∧ ∃ a, Aggregation.ofDocument (single "avg"
          (ofFields [("field", .text "price"), ("missing", .int 0)])) = .ok a
        ∧ a.document = single "avg" (single "field" (.text "price")) :=
  ⟨⟨_, rfl, rfl⟩, ⟨_, rfl, rfl⟩, ⟨_, rfl, rfl⟩⟩

end QueryDraft
