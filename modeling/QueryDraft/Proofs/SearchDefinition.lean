import QueryDraft.Proofs.Checks
import QueryDraft.Proofs.SearchSlots
import QueryDraft.Proofs.Sections

/-!
# Searches from definitions

A definition of a search is read into edits, each of which writes one slot, so the primary predicate
of its draft is that of `query` and its aggregations are those of `aggs`, put one after another.

The mappings of `query` and `aggs` describe predicates and aggregations that a caller makes with
calls of their own (`PredicateCall`, `AggregationCall`). Such a call brings every name into the form
of a name (`named_of_check`). A mapping is taken as it stands, so the two make the same exactly when
the names, sizes and intervals of the mapping are in their forms already (`typed_of_read`).
-/

namespace QueryDraft

open Text (IsTrimmed)

/-- A value that is a name: a text that is not empty and has no white space at either end. -/
def Value.IsName (v : Value) : Prop := ∃ s, v = .text s ∧ IsTrimmed s

theorem requireText_of_isTrimmed {s : String} (h : IsTrimmed s) (slot : TextSlot) :
    requireText slot (.text s) = .ok s := requireText_eq_ok.2 h.nonBlank?

theorem requireCount_of_nonneg {n : Int} (h : 0 ≤ n) (slot : CountSlot) :
    requireCount slot (.int n) = .ok n := requireCount_eq_ok.2 ⟨rfl, h⟩

theorem singleEntry_eq_ok {what : String} {v k body : Value} :
    singleEntry what v = .ok (k, body) ↔ v = .map [(k, body)] ∧ k.text?.isSome := by
  constructor
  · intro h
    unfold singleEntry at h
    split at h
    · split_ifs at h with hk
      · obtain ⟨rfl, rfl⟩ := Prod.mk.inj (Except.ok.inj h)
        exact ⟨rfl, hk⟩
      · simp at h
    · simp at h
  · rintro ⟨rfl, hk⟩
    exact if_pos hk

/-- A predicate whose fields are names. Members of clauses are not looked at. -/
def Predicate.Named : Predicate → Prop
  | .matching field _ | .phrase field _ | .term field _ | .terms field _ | .range field _ =>
    field.IsName
  | .multiMatch _ fields => ∀ s ∈ fields, IsTrimmed s
  | .matchAll | .bool .. => True

/-- An aggregation whose field and interval are names and whose size is a count. -/
def Aggregation.Named : Aggregation → Prop
  | .avg field | .sum field => field.IsName
  | .terms field size => field.IsName ∧ ∃ n : Int, 0 ≤ n ∧ size = .int n
  | .dateHistogram field interval => field.IsName ∧ interval.IsName

theorem Aggregation.eq_of_makeTerms {field size : Value} {a : Aggregation}
    (h : makeTerms field size = .ok a) : a = .terms field size := by
  obtain ⟨n, -, -, rfl⟩ := makeTerms_eq_ok.1 h
  rfl

theorem Aggregation.ensure_toValue (a : Aggregation) : ensure a.toValue = .ok a := by
  cases a <;> rfl

namespace Search

/-! ## Calls that check names -/

theorem isName_of_requireField {v w : Value} (h : requireField v = .ok w) : w.IsName := by
  unfold requireField at h
  cases hs : requireText .fieldName v with
  | error e => simp [hs] at h
  | ok s =>
    rw [hs] at h
    exact ⟨s, (Except.ok.inj h).symm, isTrimmed_of_requireText hs⟩

theorem requireField_of_isName {v : Value} (h : v.IsName) : requireField v = .ok v := by
  obtain ⟨s, rfl, hs⟩ := h
  rw [requireField, requireText_of_isTrimmed hs, map_ok]

/-- A call that names the sort of predicate or aggregation that it makes. -/
def Call.Typed : Call → Prop
  | .query _ | .aggregate .. => False
  | _ => True

/-- An edit that puts names where names belong. -/
def Edit.Named : Edit → Prop
  | .predicate p | .filter p => p.Named
  | .aggregate _ a => a.Named
  | _ => True

theorem named_filterOf {field : Value} (h : field.IsName) (v : Value) :
    (filterOf field v).Named := by
  unfold filterOf
  split <;> exact h

theorem named_of_rangeOf {field bounds : Value} {p : Predicate} (h : rangeOf field bounds = .ok p) :
    p.Named := by
  simp only [rangeOf, bind_eq_ok, pure_eq_ok] at h
  obtain ⟨field, hfield, b, -, rfl⟩ := h
  exact isName_of_requireField hfield

theorem named_of_check {c : Call} {e : Edit} (hc : c.Typed) (h : c.check = .ok e) : e.Named := by
  cases c with
  | query _ | aggregate _ _ => exact hc.elim
  | matchAll => exact Except.ok.inj h ▸ trivial
  | matching field value | phrase field value | term field value =>
    simp only [Call.check, bind_eq_ok, pure_eq_ok] at h
    obtain ⟨field, hfield, rfl⟩ := h
    exact isName_of_requireField hfield
  | multiMatch value fields =>
    simp only [Call.check, Predicate.makeMultiMatch, bind_eq_ok, pure_eq_ok] at h
    obtain ⟨p, ⟨names, hnames, rfl⟩, rfl⟩ := h
    exact isTrimmed_of_requireCollection hnames
  | terms field values =>
    simp only [Call.check, bind_eq_ok, pure_eq_ok] at h
    obtain ⟨field, hfield, p, hp, rfl⟩ := h
    unfold Predicate.makeTerms at hp
    split at hp
    · exact Except.ok.inj hp ▸ isName_of_requireField hfield
    · simp at hp
  | range field bounds | filterRange field bounds =>
    simp only [Call.check, bind_eq_ok, pure_eq_ok] at h
    obtain ⟨p, hp, rfl⟩ := h
    exact named_of_rangeOf hp
  | filter field value =>
    simp only [Call.check, bind_eq_ok, pure_eq_ok] at h
    obtain ⟨field, hfield, rfl⟩ := h
    exact named_filterOf (isName_of_requireField hfield) value
  | avg name field | sum name field =>
    simp only [Call.check, aggregateAs, bind_eq_ok, pure_eq_ok] at h
    obtain ⟨field, hfield, name, -, rfl⟩ := h
    exact isName_of_requireField hfield
  | termsAggregation name field size =>
    simp only [Call.check, aggregateAs, bind_eq_ok, pure_eq_ok] at h
    obtain ⟨field, hfield, count, hcount, a, ha, name, -, rfl⟩ := h
    obtain rfl := Aggregation.eq_of_makeTerms ha
    exact ⟨isName_of_requireField hfield, count, nonneg_of_requireCount hcount, rfl⟩
  | dateHistogram name field interval =>
    simp only [Call.check, aggregateAs, bind_eq_ok, pure_eq_ok] at h
    obtain ⟨interval, hinterval, field, hfield, name, -, rfl⟩ := h
    exact ⟨isName_of_requireField hfield, interval, rfl, isTrimmed_of_requireText hinterval⟩
  | sort field order =>
    simp only [Call.check, bind_eq_ok, pure_eq_ok] at h
    obtain ⟨name, -, o, -, rfl⟩ := h
    trivial
  | index _ | size _ | start _ | source _ | highlight _ =>
    simp only [Call.check, bind_eq_ok, pure_eq_ok] at h
    obtain ⟨a, -, rfl⟩ := h
    trivial

end Search

namespace Config.Search

open QueryDraft.Search (Call Edit Slot aggregateAs named_of_check requireField_of_isName)

/-! ## Mappings and calls -/

/-- The call that makes the predicate of a mapping, with what the mapping holds. -/
inductive PredicateCall : Value → Call → Prop
  | matching {kind : Value} (hkind : kind.text? = some "match") (field value : Value) :
    PredicateCall (.map [(kind, .map [(field, value)])]) (.matching field value)
  | phrase {kind : Value} (hkind : kind.text? = some "match_phrase") (field words : Value) :
    PredicateCall (.map [(kind, .map [(field, words)])]) (.phrase field words)
  | term {kind : Value} (hkind : kind.text? = some "term") (field value : Value) :
    PredicateCall (.map [(kind, .map [(field, value)])]) (.term field value)
  | terms {kind : Value} (hkind : kind.text? = some "terms") (field values : Value) :
    PredicateCall (.map [(kind, .map [(field, values)])]) (.terms field values)
  | range {kind : Value} (hkind : kind.text? = some "range") (field bounds : Value) :
    PredicateCall (.map [(kind, .map [(field, bounds)])]) (.range field bounds)
  | multiMatch {kind value : Value} {es : Entries} {fields : List Value}
    (hkind : kind.text? = some "multi_match") (hvalue : Entries.get? es "query" = some value)
    (hfields : Entries.get? es "fields" = some (.list fields)) :
    PredicateCall (.map [(kind, .map es)]) (.multiMatch value (.list fields))

/-- The call that makes the aggregation of a mapping under a name, with what the mapping holds. -/
inductive AggregationCall (name : Value) : Value → Call → Prop
  | avg {kind : Value} (hkind : kind.text? = some "avg") (es : Entries) :
    AggregationCall name (.map [(kind, .map es)]) (.avg name (Entries.getD es "field"))
  | sum {kind : Value} (hkind : kind.text? = some "sum") (es : Entries) :
    AggregationCall name (.map [(kind, .map es)]) (.sum name (Entries.getD es "field"))
  | terms {kind : Value} (hkind : kind.text? = some "terms") (es : Entries) :
    AggregationCall name (.map [(kind, .map es)])
      (.termsAggregation name (Entries.getD es "field") ((Entries.get? es "size").getD (.int 10)))
  | dateHistogram {kind : Value} (hkind : kind.text? = some "date_histogram") (es : Entries) :
    AggregationCall name (.map [(kind, .map es)])
      (.dateHistogram name (Entries.getD es "field")
        ((Entries.get? es "calendar_interval").getD (Entries.getD es "interval")))

theorem PredicateCall.typed {v : Value} {c : Call} (h : PredicateCall v c) : c.Typed := by
  cases h <;> trivial

theorem AggregationCall.typed {name v : Value} {c : Call} (h : AggregationCall name v c) :
    c.Typed := by
  cases h <;> trivial

/-- What the mapping of a predicate about one field is read as. -/
theorem ofDocument_field {kind field value : Value} {name : String} {p : Predicate}
    (hkind : kind.text? = some name)
    (hname : name ∉ ["match_all", "bool", "multi_match"])
    (h : Predicate.ofDocument (.map [(kind, .map [(field, value)])]) = .ok p) :
    Predicate.ofField kind (.map [(field, value)]) = .ok p := by
  simp only [List.mem_cons, List.not_mem_nil, or_false, not_or] at hname
  rw [Predicate.ofDocument, Predicate.ofEntry, hkind] at h
  split at h <;> simp_all

theorem isSome_text_of_ofField {kind field value : Value} {p : Predicate}
    (h : Predicate.ofField kind (.map [(field, value)]) = .ok p) : field.text?.isSome := by
  obtain ⟨⟨name, arg⟩, hentry, -⟩ := bind_eq_ok.1 h
  obtain ⟨hentries, hname⟩ := singleEntry_eq_ok.1 hentry
  obtain ⟨rfl, -⟩ : field = name ∧ value = arg := by simpa using hentries
  exact hname

/-- The fields of a `multi_match` go through one check on both ways. -/
theorem check_multiMatch {v value fields : Value} {p : Predicate}
    (hc : PredicateCall v (.multiMatch value fields)) (h : Predicate.ofDocument v = .ok p) :
    (Call.multiMatch value fields).check = .ok (.predicate p) := by
  cases hc with
  | multiMatch hkind hvalue hfields =>
    rw [Predicate.ofDocument, Predicate.ofEntry, hkind] at h
    simp only [Predicate.ofMultiMatch, hvalue, Entries.getD, hfields, Option.getD_some] at h
    simp only [Call.check, bind_eq_ok, pure_eq_ok]
    exact ⟨p, h, rfl⟩

/-- Where the names of a predicate are in their form, its own call makes it. -/
theorem check_predicateCall {v : Value} {c : Call} {p : Predicate} (hc : PredicateCall v c)
    (h : Predicate.ofDocument v = .ok p) (hp : p.Named) : c.check = .ok (.predicate p) := by
  cases hc with
  | multiMatch hkind hvalue hfields => exact check_multiMatch (.multiMatch hkind hvalue hfields) h
  | matching hkind field value | phrase hkind field value | term hkind field value =>
    replace h := ofDocument_field hkind (by decide) h
    have hfield := isSome_text_of_ofField h
    simp only [Predicate.ofField, singleEntry, hfield, if_true, ok_bind, hkind, Option.getD_some,
      pure_eq_ok] at h
    subst h
    simp only [Call.check, requireField_of_isName hp, ok_bind]
    rfl
  | terms hkind field values =>
    replace h := ofDocument_field hkind (by decide) h
    have hfield := isSome_text_of_ofField h
    simp only [Predicate.ofField, singleEntry, hfield, if_true, ok_bind, hkind,
      Option.getD_some] at h
    split at h
    · rename_i vs hvs
      obtain rfl := Except.ok.inj h
      simp only [Call.check, requireField_of_isName hp, ok_bind]
      cases values <;> simp [Value.sequence?] at hvs <;> subst hvs <;> rfl
    · simp at h
  | range hkind field bounds =>
    replace h := ofDocument_field hkind (by decide) h
    have hfield := isSome_text_of_ofField h
    simp only [Predicate.ofField, singleEntry, hfield, if_true, ok_bind, hkind, Option.getD_some,
      bind_eq_ok, pure_eq_ok] at h
    obtain ⟨b, hb, rfl⟩ := h
    simp only [Call.check, QueryDraft.Search.rangeOf, requireField_of_isName hp, ok_bind, hb]
    rfl

/-- What an accepted mapping of an aggregation is read as, by its kind. -/
theorem ofDocument_aggregation {kind : Value} {t : String} {es : Entries} {a : Aggregation}
    (hkind : kind.text? = some t)
    (h : Aggregation.ofDocument (.map [(kind, .map es)]) = .ok a) :
    (t = "avg" → a = .avg (Entries.getD es "field"))
      ∧ (t = "sum" → a = .sum (Entries.getD es "field"))
      ∧ (t = "terms" → Aggregation.makeTerms (Entries.getD es "field")
          ((Entries.get? es "size").getD (.int 10)) = .ok a)
      ∧ (t = "date_histogram" → a = .dateHistogram (Entries.getD es "field")
          ((Entries.get? es "calendar_interval").getD (Entries.getD es "interval"))) := by
  have hentry : singleEntry "aggregation" (.map [(kind, .map es)]) = .ok (kind, .map es) :=
    singleEntry_eq_ok.2 ⟨rfl, by simp [hkind]⟩
  rw [Aggregation.ofDocument, hentry, ok_bind] at h
  dsimp only [Value.entries?, Option.getD_some] at h
  simp only [hkind, Option.getD_some] at h
  split at h
  · simp [refuse] at h
  · refine ⟨?_, ?_, ?_, ?_⟩ <;> rintro rfl
    · exact (Except.ok.inj h).symm
    · exact (Except.ok.inj h).symm
    · exact h
    · simp only at h
      split_ifs at h
      · exact (Except.ok.inj h).symm
      · simp at h

/-- Where the names and the size of an aggregation are in their forms, its own call makes it. -/
theorem check_aggregationCall {name v : Value} {c : Call} {s : String} {a : Aggregation}
    (hc : AggregationCall name v c) (hname : requireText .aggregationName name = .ok s)
    (h : Aggregation.ofDocument v = .ok a) (ha : a.Named) : c.check = .ok (.aggregate s a) := by
  cases hc with
  | avg hkind es =>
    obtain rfl := (ofDocument_aggregation hkind h).1 rfl
    simp only [Call.check, requireField_of_isName ha, ok_bind, aggregateAs, hname]
    rfl
  | sum hkind es =>
    obtain rfl := (ofDocument_aggregation hkind h).2.1 rfl
    simp only [Call.check, requireField_of_isName ha, ok_bind, aggregateAs, hname]
    rfl
  | terms hkind es =>
    replace h := (ofDocument_aggregation hkind h).2.2.1 rfl
    obtain rfl := Aggregation.eq_of_makeTerms h
    obtain ⟨hfield, n, hn, hsize⟩ := ha
    rw [hsize] at h
    simp only [hsize, Call.check, requireField_of_isName hfield, ok_bind,
      requireCount_of_nonneg hn, h, aggregateAs, hname]
    rfl
  | dateHistogram hkind es =>
    obtain rfl := (ofDocument_aggregation hkind h).2.2.2 rfl
    obtain ⟨hfield, t, ht, htrimmed⟩ := ha
    simp only [ht, Call.check, requireText_of_isTrimmed htrimmed, requireField_of_isName hfield,
      ok_bind, aggregateAs, hname]
    rfl

/-! ## Sections and slots -/

/-- Every edit that a reader gives writes one slot. -/
def ReadsInto (slot : Slot) (read : String → Value → Outcome Edit) : Prop :=
  ∀ key v a, read key v = .ok a → a.slot = slot

section Readers

open QueryDraft.Search (slot_of_check)

theorem readIndex_into : ReadsInto .index readIndex := by
  intro key v a h
  obtain ⟨s, -, h⟩ := bind_eq_ok.1 h
  exact slot_of_check h

theorem readQuery_eq_ok {key : String} {v : Value} {a : Edit} (h : readQuery key v = .ok a) :
    ∃ p, Predicate.ofDocument v = .ok p ∧ a = .predicate p := by
  unfold readQuery at h
  cases hp : readPredicate key v with
  | error e => simp [hp] at h
  | ok p =>
    simp only [hp, map_ok, Except.ok.injEq] at h
    simp only [readPredicate, bind_eq_ok, expectMapping_eq_ok] at hp
    obtain ⟨es, rfl, hp⟩ := hp
    exact ⟨p, hp, h.symm⟩

theorem readFilter_into (key : String) (field v : Value) (a : Edit)
    (h : readFilter key field v = .ok a) : a.slot = .filters :=
  slot_of_check h

theorem readFilterRange_into (key : String) (field v : Value) (a : Edit)
    (h : readFilterRange key field v = .ok a) : a.slot = .filters := by
  obtain ⟨es, -, h⟩ := bind_eq_ok.1 h
  exact slot_of_check h

theorem readSort_into : ReadsInto .sort readSort := by
  intro key v a h
  unfold readSort at h
  split at h
  · exact slot_of_check h
  · obtain ⟨es, -, h⟩ := bind_eq_ok.1 h
    split at h
    · obtain ⟨order, -, h⟩ := bind_eq_ok.1 h
      exact slot_of_check h
    · simp at h

theorem readSize_into : ReadsInto .size readSize := by
  intro key v a h
  obtain ⟨n, -, h⟩ := bind_eq_ok.1 h
  exact slot_of_check h

theorem readStart_into : ReadsInto .start readStart := by
  intro key v a h
  obtain ⟨n, -, h⟩ := bind_eq_ok.1 h
  exact slot_of_check h

theorem readSource_into : ReadsInto .source readSource := by
  intro key v a h
  obtain ⟨ts, -, h⟩ := bind_eq_ok.1 h
  exact slot_of_check h

theorem readAggregation_eq_ok {key : String} {name v : Value} {e : Edit}
    (h : readAggregation key name v = .ok e) : ∃ s a, requireText .aggregationName name = .ok s
      ∧ Aggregation.ofDocument v = .ok a ∧ e = .aggregate s a := by
  simp only [readAggregation, Call.check, bind_eq_ok, pure_eq_ok, expectMapping_eq_ok] at h
  obtain ⟨es, rfl, a, ha, s, hs, a', ha', rfl⟩ := h
  rw [Aggregation.ensure_toValue] at ha'
  obtain rfl := Except.ok.inj ha'
  exact ⟨s, a, hs, ha, rfl⟩

theorem readHighlight_into : ReadsInto .highlight readHighlight := by
  intro key v a h
  unfold readHighlight at h
  split at h
  all_goals
    simp only [bind_eq_ok, pure_eq_ok] at h
    obtain ⟨fields, -, highlight, -, rfl⟩ := h
    rfl

end Readers

/-- The entries of a mapping that a definition binds to a name, none if it binds none. -/
def mapped (es : Entries) (name : String) : Entries :=
  match Entries.get? es name with
  | some (.map parts) => parts
  | _ => []

section Sections

variable {es : Entries} {key name : String} {slot : Slot} {as : List Edit}

theorem optional_eq_ok {read : String → Value → Outcome Edit}
    (h : optional es key name read = .ok as) :
    (Entries.get? es name = none ∧ as = []) ∨ ∃ v a, Entries.get? es name = some v
      ∧ read (key ++ "." ++ name) v = .ok a ∧ as = [a] := by
  unfold optional at h
  split at h
  · rename_i hnone
    exact .inl ⟨hnone, (Except.ok.inj h).symm⟩
  · rename_i v hv
    simp only [bind_eq_ok, pure_eq_ok] at h
    obtain ⟨a, ha, rfl⟩ := h
    exact .inr ⟨v, a, hv, ha, rfl⟩

theorem exists_of_optional {read : String → Value → Outcome Edit} {v : Value}
    (h : optional es key name read = .ok as) (hv : Entries.get? es name = some v) :
    ∃ a, read (key ++ "." ++ name) v = .ok a ∧ as = [a] := by
  rcases optional_eq_ok h with ⟨hnone, -⟩ | ⟨w, a, hw, ha, has⟩
  · simp [hv] at hnone
  · obtain rfl := Option.some.inj (hv.symm.trans hw)
    exact ⟨a, ha, has⟩

theorem slot_of_optional {read : String → Value → Outcome Edit} (hread : ReadsInto slot read)
    (h : optional es key name read = .ok as) : ∀ a ∈ as, a.slot = slot := by
  rcases optional_eq_ok h with ⟨-, rfl⟩ | ⟨v, a, -, ha, rfl⟩
  · simp
  · exact List.forall_mem_singleton.2 (hread _ _ _ ha)

theorem entries_eq_ok {read : String → Value → Value → Outcome Edit}
    (h : entries es key name read = .ok as) :
    List.Forall₂ (fun e a => read (key ++ "." ++ name ++ "." ++ e.1.plain) e.1 e.2 = .ok a)
      (mapped es name) as := by
  simp only [entries, bind_eq_ok, expectMapping_eq_ok, getOr] at h
  obtain ⟨parts, hparts, h⟩ := h
  have hmapped : mapped es name = parts := by
    unfold mapped
    cases hes : Entries.get? es name with
    | none =>
      rw [hes] at hparts
      simpa using hparts
    | some v =>
      rw [hes] at hparts
      obtain rfl : v = .map parts := hparts
      rfl
  rw [hmapped]
  exact mapM_eq_ok.1 h

theorem slot_of_entries {read : String → Value → Value → Outcome Edit}
    (hread : ∀ key k v a, read key k v = .ok a → a.slot = slot)
    (h : entries es key name read = .ok as) : ∀ a ∈ as, a.slot = slot :=
  forall_mem_of_forall₂ (entries_eq_ok h) fun _ _ ha => hread _ _ _ _ ha

theorem slot_of_sorts (h : readSorts es key = .ok as) : ∀ a ∈ as, a.slot = .sort := by
  simp only [readSorts, bind_eq_ok] at h
  obtain ⟨vs, -, h⟩ := h
  exact forall_mem_of_places readSort_into h

/-- Edits of another slot leave a slot without items. -/
theorem items_eq_nil (s : Slot) (h : ∀ a ∈ as, a.slot = slot) (hs : s ≠ slot := by decide) :
    as.filterMap (·.item? s) = [] := by
  refine List.filterMap_eq_nil_iff.2 fun a ha => Option.not_isSome_iff_eq_none.1 fun hitem => ?_
  exact hs (((QueryDraft.Search.isSome_item?_iff a s).1 hitem).trans (h a ha))

end Sections

/-! ## The draft of a definition -/

/-- What the mappings of `query` and `aggs` decide in the draft of a definition. -/
structure Decides (es : Entries) (d : Search.Draft) : Prop where
  query : ∀ q, Entries.get? es "query" = some q → Predicate.ofDocument q = .ok d.predicate
  aggs : ∃ named : List (String × Aggregation),
    List.Forall₂ (fun e n => requireText .aggregationName e.1 = .ok n.1
      ∧ Aggregation.ofDocument e.2 = .ok n.2) (mapped es "aggs") named
    ∧ d.aggregations = named.foldl (fun all n => QueryDraft.Search.putNamed all n.1 n.2) []

/-- A definition with a predicate of its own composes none. -/
theorem eq_nil_of_checkPredicates {key : String} {es : Entries} {q : Value} {as : List Edit}
    (h : checkPredicates key es = .ok ()) (hquery : Entries.get? es "query" = some q)
    (hbool : optional es key "bool" readBool = .ok as) : as = [] := by
  rcases optional_eq_ok hbool with ⟨-, rfl⟩ | ⟨v, a, hv, -, -⟩
  · rfl
  · simp [checkPredicates, Entries.has, hquery, hv] at h

theorem readBool_into : ReadsInto .predicate readBool := by
  intro key v a h
  simp only [readBool, bind_eq_ok, pure_eq_ok] at h
  obtain ⟨es, -, -, -, must, -, mustNot, -, should, -, filter, -, rfl⟩ := h
  rfl

theorem readQuery_into : ReadsInto .predicate readQuery := by
  intro key v a h
  obtain ⟨p, -, rfl⟩ := readQuery_eq_ok h
  rfl

theorem readAggregation_into (key : String) (name v : Value) (a : Edit)
    (h : readAggregation key name v = .ok a) : a.slot = .aggregations := by
  obtain ⟨s, a, -, -, rfl⟩ := readAggregation_eq_ok h
  rfl

theorem readAggregation_pair {key : String} (e : Value × Value) (a : Edit)
    (h : readAggregation (key ++ "." ++ e.1.plain) e.1 e.2 = .ok a) :
    ∃ n : String × Aggregation, a = .aggregate n.1 n.2
      ∧ requireText .aggregationName e.1 = .ok n.1 ∧ Aggregation.ofDocument e.2 = .ok n.2 := by
  obtain ⟨s, a, hs, ha, rfl⟩ := readAggregation_eq_ok h
  exact ⟨(s, a), rfl, hs, ha⟩

theorem decides_of_edits {key : String} {es : Entries} {as : List Edit}
    (h : edits key es = .ok as) : Decides es (as.foldl QueryDraft.Search.Draft.edit {}) := by
  simp only [edits, bind_eq_ok, pure_eq_ok] at h
  obtain ⟨index, hindex, ⟨⟩, hboth, query, hquery, bool, hbool, filter, hfilter, ranges, hranges,
    sort, hsort, size, hsize, start, hstart, source, hsource, aggs, haggs, highlight, hhighlight,
    rfl⟩ := h
  have hquery' := slot_of_optional readQuery_into hquery
  have hbool' := slot_of_optional readBool_into hbool
  have haggs' := slot_of_entries readAggregation_into haggs
  have hindex := slot_of_optional readIndex_into hindex
  have hfilter := slot_of_entries readFilter_into hfilter
  have hranges := slot_of_entries readFilterRange_into hranges
  have hsort := slot_of_sorts hsort
  have hsize := slot_of_optional readSize_into hsize
  have hstart := slot_of_optional readStart_into hstart
  have hsource := slot_of_optional readSource_into hsource
  have hhighlight := slot_of_optional readHighlight_into hhighlight
  rw [QueryDraft.Search.foldl_edit]
  constructor
  · intro q hq
    obtain rfl := eq_nil_of_checkPredicates hboth hq hbool
    obtain ⟨a, ha, rfl⟩ := exists_of_optional hquery hq
    obtain ⟨p, hp, rfl⟩ := readQuery_eq_ok ha
    simp only [List.filterMap_append, items_eq_nil .predicate hindex,
      items_eq_nil .predicate hfilter, items_eq_nil .predicate hranges,
      items_eq_nil .predicate hsort, items_eq_nil .predicate hsize,
      items_eq_nil .predicate hstart, items_eq_nil .predicate hsource,
      items_eq_nil .predicate haggs', items_eq_nil .predicate hhighlight,
      QueryDraft.Search.Draft.ofItems]
    exact hp
  · obtain ⟨named, rfl, hnamed⟩ := exists_map_of_forall₂ readAggregation_pair (entries_eq_ok haggs)
    refine ⟨named, hnamed, ?_⟩
    have hitems : (named.map fun n => Edit.aggregate n.1 n.2).filterMap (·.item? .aggregations)
        = named := by
      rw [List.filterMap_map]
      exact List.filterMap_some
    simp only [List.filterMap_append, items_eq_nil .aggregations hindex,
      items_eq_nil .aggregations hquery', items_eq_nil .aggregations hbool',
      items_eq_nil .aggregations hfilter, items_eq_nil .aggregations hranges,
      items_eq_nil .aggregations hsort, items_eq_nil .aggregations hsize,
      items_eq_nil .aggregations hstart, items_eq_nil .aggregations hsource,
      items_eq_nil .aggregations hhighlight, QueryDraft.Search.Draft.ofItems, List.nil_append,
      List.append_nil]
    rw [hitems]
    rfl

theorem edits_of_read {key name : String} {es : Entries} {d : Search.Draft}
    (h : Definition.read key (.map es) = .ok ⟨name, .search d⟩) :
    ∃ as, edits key es = .ok as ∧ d = as.foldl QueryDraft.Search.Draft.edit {} := by
  simp only [Definition.read, bind_eq_ok, expectMapping_eq_ok] at h
  obtain ⟨es', hes, text, -, h⟩ := h
  obtain rfl : es = es' := Value.map.inj hes
  split at h
  · simp at h
  · simp only [bind_eq_ok, pure_eq_ok, Definition.mk.injEq] at h
    obtain ⟨kind, -, draft, hdraft, -, rfl⟩ := h
    unfold Definition.readDraft at hdraft
    split at hdraft
    · simp only [Definition.under_eq_ok, bind_eq_ok, pure_eq_ok] at hdraft
      obtain ⟨-, -, as, -, hstatement⟩ := hdraft
      simp at hstatement
    · simp only [Definition.under_eq_ok, bind_eq_ok, pure_eq_ok, Draft.search.injEq] at hdraft
      obtain ⟨-, -, as, has, rfl⟩ := hdraft
      exact ⟨as, has, rfl⟩
    · simp at hdraft

/-- A definition that is accepted has the predicate of its `query`, and its aggregations are those
of `aggs`, put one after another. Their own calls, with what the mappings hold, make the same
exactly when fields and intervals are names and sizes are counts. The call of a `multi_match` always
does. -/
theorem typed_of_read {key name : String} {es : Entries} {d : Search.Draft}
    (h : Definition.read key (.map es) = .ok ⟨name, .search d⟩) :
    (∀ q c, Entries.get? es "query" = some q → PredicateCall q c →
      (c.check = .ok (.predicate d.predicate) ↔ d.predicate.Named)
        ∧ (∀ value fields, c = .multiMatch value fields →
          c.check = .ok (.predicate d.predicate)))
    ∧ ∃ named : List (String × Aggregation),
      List.Forall₂ (fun e n => ∀ c, AggregationCall e.1 e.2 c →
        (c.check = .ok (.aggregate n.1 n.2) ↔ n.2.Named)) (mapped es "aggs") named
      ∧ d.aggregations = named.foldl (fun all n => QueryDraft.Search.putNamed all n.1 n.2) [] := by
  obtain ⟨as, has, rfl⟩ := edits_of_read h
  obtain ⟨hquery, named, hnamed, haggs⟩ := decides_of_edits has
  refine ⟨fun q c hq hc => ⟨⟨fun hcheck => named_of_check hc.typed hcheck, fun hp => ?_⟩, ?_⟩,
    named, hnamed.imp fun e n ⟨hname, ha⟩ c hc => ⟨fun hcheck => ?_, fun hn => ?_⟩, haggs⟩
  · exact check_predicateCall hc (hquery q hq) hp
  · rintro value fields rfl
    exact check_multiMatch hc (hquery q hq)
  · exact named_of_check hc.typed hcheck
  · exact check_aggregationCall hc hname ha hn

/-- A predicate and an aggregation that their own calls make as well. -/
theorem typed_of_read_named :
    let query := Value.map [(.text "range", .map [(.text "price", .map [(.text "lt", .int 9)])])]
    let spec := Value.map [(.text "date_histogram", .map [(.text "field", .text "day"),
      (.text "interval", .text "month")])]
    let es : Entries := [(.text "name", .text "cheap"), (.text "type", .text "search"),
      (.text "query", query), (.text "aggs", .map [(.text " by day ", spec)])]
    ∃ d, Definition.read "queries[0]" (.map es) = .ok ⟨"cheap", .search d⟩
      ∧ (Call.range (.text "price") (.map [(.text "lt", .int 9)])).check
        = .ok (.predicate d.predicate)
      ∧ ∃ a, d.aggregations = [("by day", a)]
        ∧ (Call.dateHistogram (.text " by day ") (.text "day") (.text "month")).check
          = .ok (.aggregate "by day" a) := by
  intro query spec es
  let d : Search.Draft := {
    predicate := .range (.text "price") (Bounds.mk .null .null .null (.int 9)).toValue
    aggregations := [("by day", .dateHistogram (.text "day") (.text "month"))] }
  have hread : Definition.read "queries[0]" (.map es) = .ok ⟨"cheap", .search d⟩ := by
    with_unfolding_all rfl
  have hname : ∀ s ∈ ["price", "day", "month"], (Value.text s).IsName := by
    intro s hs
    refine ⟨s, rfl, ?_, ?_⟩ <;> revert s <;> decide
  obtain ⟨hquery, named, hnamed, haggs⟩ := typed_of_read hread
  have hmapped : mapped es "aggs" = [(.text " by day ", spec)] := by with_unfolding_all rfl
  rw [hmapped] at hnamed
  obtain ⟨n, hn, rfl⟩ : ∃ n, (∀ c, AggregationCall (.text " by day ") spec c →
      (c.check = .ok (.aggregate n.1 n.2) ↔ n.2.Named)) ∧ named = [n] := by
    cases hnamed with
    | cons hn hrest => cases hrest with
      | nil => exact ⟨_, hn, rfl⟩
  obtain rfl : ("by day", .dateHistogram (.text "day") (.text "month")) = n := by
    simpa [d, QueryDraft.Search.putNamed, Prod.ext_iff] using haggs
  refine ⟨d, hread, ?_, _, rfl, ?_⟩
  · exact ((hquery query _ rfl (.range rfl _ _)).1).2 (hname "price" (by simp))
  · exact (hn _ (.dateHistogram rfl _)).2 ⟨hname "day" (by simp), hname "month" (by simp)⟩

/-- A blank field and a size that is a truth are read, though their own calls refuse them. -/
theorem read_of_blank_field :
    let query := Value.map [(.text "match", .map [(.text " ", .text "x")])]
    let spec := Value.map [(.text "terms", .map [(.text "field", .text "brand"),
      (.text "size", .bool true)])]
    let es : Entries := [(.text "name", .text "q"), (.text "type", .text "search"),
      (.text "query", query), (.text "aggs", .map [(.text "by", spec)])]
    ∃ d c c', Definition.read "q" (.map es) = .ok ⟨"q", .search d⟩
      ∧ PredicateCall query c ∧ c.check = refuse (.blank .fieldName)
      ∧ d.predicate = .matching (.text " ") (.text "x")
      ∧ AggregationCall (.text "by") spec c' ∧ c'.check = refuse (.notCount .termsSize)
      ∧ d.aggregations = [("by", .terms (.text "brand") (.bool true))] := by
  intro query spec es
  let d : Search.Draft := {
    predicate := .matching (.text " ") (.text "x")
    aggregations := [("by", .terms (.text "brand") (.bool true))] }
  have hread : Definition.read "q" (.map es) = .ok ⟨"q", .search d⟩ := by with_unfolding_all rfl
  exact ⟨d, _, _, hread, .matching rfl _ _, rfl, rfl, .terms rfl _, rfl, rfl⟩

end Config.Search

end QueryDraft
