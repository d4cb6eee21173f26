import QueryDraft.Proofs.PlainData
import QueryDraft.Proofs.RequestDocument
import QueryDraft.Proofs.SearchDefinition

/-!
# Documents of searches from definitions

A predicate that is read from plain data has a document, and the document is plain data with the
same sort of keys (`Predicate.HasDocument`). The induction is on the data. What it carries (`Reads`)
says so of a value in each of the places where predicates are read: as the body of an entry, as a
member of a list, and as a clause of a `bool`.

What a definition puts into its draft then has documents edit by edit, and so has the request that
the draft builds to (`exists_document_of_read`).
-/

namespace QueryDraft

open Document
open Value (Data data_ofFields_iff data_literal_iff data_literals_iff data_map_iff data_list_iff
  data_tuple_iff)

variable {P : Value → Bool}

namespace Predicate

/-- The predicate has a document, which is plain data. -/
def HasDocument (P : Value → Bool) (p : Predicate) : Prop :=
  ∃ doc, p.toValue.predicateDocument = .ok doc ∧ doc.Data P

/-- Members with documents are written as a list of them. -/
theorem exists_memberDocuments : ∀ {ps : List Predicate}, (∀ p ∈ ps, p.HasDocument P) →
    ∃ docs, memberDocuments (ps.map toValue) = .ok docs ∧ ∀ doc ∈ docs, doc.Data P
  | [], _ => ⟨[], rfl, by simp⟩
  | p :: ps, h => by
    obtain ⟨hp, hps⟩ := List.forall_mem_cons.1 h
    obtain ⟨doc, hdoc, hdata⟩ := hp
    obtain ⟨docs, hdocs, hall⟩ := exists_memberDocuments hps
    refine ⟨doc :: docs, ?_, List.forall_mem_cons.2 ⟨hdata, hall⟩⟩
    simp [memberDocuments, hdoc, hdocs]

theorem exists_clauseDocument (name : String) {ps : List Predicate}
    (h : ∀ p ∈ ps, p.HasDocument P) :
    ∃ es, clauseDocument name (.tuple (ps.map toValue)) = .ok es ∧ ∀ e ∈ es, e.2.Data P := by
  rcases ps with _ | ⟨p, ps⟩
  · exact ⟨[], rfl, by simp⟩
  · obtain ⟨docs, hdocs, hall⟩ := exists_memberDocuments h
    refine ⟨[(name, .list docs)], ?_, List.forall_mem_singleton.2 (.list hall)⟩
    rw [List.map_cons] at hdocs ⊢
    simp [clauseDocument, hdocs]

section Made

variable (hP : ∀ s, P (.text s))
include hP

theorem exists_ofField (kind : String) {field body : Value} (hfield : field.text?.isSome)
    (hkey : P field) (hbody : body.Data P) :
    ∃ doc, Document.ofField kind field body = .ok doc ∧ doc.Data P := by
  refine ⟨_, ofField_name hfield, (data_ofFields_iff hP).2 (List.forall_mem_singleton.2 ?_)⟩
  exact .map (List.forall_mem_singleton.2 hkey) (List.forall_mem_singleton.2 hbody)

theorem hasDocument_matchAll : HasDocument P .matchAll :=
  ⟨_, rfl, (data_ofFields_iff hP).2 (List.forall_mem_singleton.2 (.map (by simp) (by simp)))⟩

theorem hasDocument_multiMatch {value : Value} (hvalue : value.Data P) (names : List String) :
    HasDocument P (.multiMatch value names) := by
  refine ⟨_, rfl, (data_ofFields_iff hP).2 (List.forall_mem_singleton.2 ?_)⟩
  have hnames : ∀ v ∈ names.map Value.text, v.Data P := by
    intro v hv
    obtain ⟨s, -, rfl⟩ := List.mem_map.1 hv
    exact .scalar rfl
  refine (data_ofFields_iff hP).2 (List.forall_mem_cons.2 ⟨(data_literal_iff _).2 hvalue, ?_⟩)
  exact List.forall_mem_singleton.2 (.list hnames)

theorem hasDocument_terms {field : Value} {values : List Value} (hfield : field.text?.isSome)
    (hkey : P field) (hvalues : ∀ v ∈ values, v.Data P) : HasDocument P (.terms field values) :=
  exists_ofField hP "terms" hfield hkey (.list ((data_literals_iff values).2 hvalues))

theorem hasDocument_term {field value : Value} (hfield : field.text?.isSome) (hkey : P field)
    (hvalue : value.Data P) : HasDocument P (.term field value) :=
  exists_ofField hP "term" hfield hkey ((data_literal_iff _).2 hvalue)

/-- Bounds that are read from plain data are written as plain data. -/
theorem data_document_of_coerce {v : Value} {b : Bounds} (hv : v.Data P)
    (h : Bounds.coerce v = .ok b) : b.document.Data P := by
  obtain ⟨es, rfl⟩ : ∃ es, v = .map es := by
    cases hv with
    | map _ _ => exact ⟨_, rfl⟩
    | @scalar v hscalar => cases v <;> simp [Value.isScalar, Bounds.coerce, Bounds.ofValue?] at *
    | _ => simp [Bounds.coerce, Bounds.ofValue?] at h
  simp only [Bounds.coerce, Bounds.ofValue?, check_bind_eq_ok, Bounds.make] at h
  obtain ⟨-, h⟩ := h
  split_ifs at h
  · simp at h
  obtain rfl := Except.ok.inj h
  refine (data_ofFields_iff hP).2 fun f hf => ?_
  simp only [Bounds.items, List.mem_map, List.mem_filter] at hf
  obtain ⟨e, ⟨he, -⟩, rfl⟩ := hf
  refine (data_literal_iff _).2 ?_
  simp only [List.mem_cons, List.not_mem_nil, or_false] at he
  rcases he with rfl | rfl | rfl | rfl
  all_goals exact hv.getD _

theorem hasDocument_range {field v : Value} {b : Bounds} (hfield : field.text?.isSome)
    (hkey : P field) (hv : v.Data P) (h : Bounds.coerce v = .ok b) :
    HasDocument P (.range field b.toValue) := by
  have hbounds := data_document_of_coerce hP hv h
  obtain ⟨doc, hdoc, hdata⟩ := exists_ofField hP "range" hfield hkey hbounds
  refine ⟨doc, ?_, hdata⟩
  rw [toValue, Value.predicateDocument, Bounds.ofBounds_toValue, ok_bind, hdoc]

theorem hasDocument_bool {must mustNot should filter : List Predicate}
    (hmust : ∀ p ∈ must, p.HasDocument P) (hmustNot : ∀ p ∈ mustNot, p.HasDocument P)
    (hshould : ∀ p ∈ should, p.HasDocument P) (hfilter : ∀ p ∈ filter, p.HasDocument P) :
    HasDocument P (.bool (.tuple (must.map toValue)) (.tuple (mustNot.map toValue))
      (.tuple (should.map toValue)) (.tuple (filter.map toValue))) := by
  obtain ⟨es₁, h₁, hd₁⟩ := exists_clauseDocument "must" hmust
  obtain ⟨es₂, h₂, hd₂⟩ := exists_clauseDocument "must_not" hmustNot
  obtain ⟨es₃, h₃, hd₃⟩ := exists_clauseDocument "should" hshould
  obtain ⟨es₄, h₄, hd₄⟩ := exists_clauseDocument "filter" hfilter
  refine ⟨single "bool" (ofFields (es₁ ++ es₂ ++ es₃ ++ es₄)), ?_, ?_⟩
  · simp [toValue, Value.predicateDocument, h₁, h₂, h₃, h₄]
  · refine (data_ofFields_iff hP).2 (List.forall_mem_singleton.2 ((data_ofFields_iff hP).2 ?_))
    simp only [List.mem_append]
    rintro e (((he | he) | he) | he)
    · exact hd₁ e he
    · exact hd₂ e he
    · exact hd₃ e he
    · exact hd₄ e he

/-- What is read as a predicate about one field has a document. -/
theorem hasDocument_of_ofField {kind body : Value} {p : Predicate} (hbody : body.Data P)
    (h : Predicate.ofField kind body = .ok p) : p.HasDocument P := by
  simp only [Predicate.ofField, bind_eq_ok] at h
  obtain ⟨⟨field, arg⟩, hentry, h⟩ := h
  obtain ⟨rfl, hfield⟩ := singleEntry_eq_ok.1 hentry
  obtain ⟨hkeys, hargs⟩ := data_map_iff.1 hbody
  have hkey : P field := hkeys _ (List.mem_singleton_self _)
  have harg : arg.Data P := hargs _ (List.mem_singleton_self _)
  split at h
  · obtain rfl := pure_eq_ok.1 h
    exact exists_ofField hP "match" hfield hkey ((data_literal_iff _).2 harg)
  · obtain rfl := pure_eq_ok.1 h
    exact exists_ofField hP "match_phrase" hfield hkey harg
  · obtain rfl := pure_eq_ok.1 h
    exact hasDocument_term hP hfield hkey harg
  · split at h
    · rename_i vs hvs
      obtain rfl := pure_eq_ok.1 h
      exact hasDocument_terms hP hfield hkey (harg.of_sequence hvs)
    · simp at h
  · simp only [bind_eq_ok, pure_eq_ok] at h
    obtain ⟨b, hb, rfl⟩ := h
    exact hasDocument_range hP hfield hkey harg hb
  · simp at h

theorem hasDocument_of_ofMultiMatch {body : Value} {p : Predicate} (hbody : body.Data P)
    (h : Predicate.ofMultiMatch body = .ok p) : p.HasDocument P := by
  unfold ofMultiMatch at h
  split at h
  · split at h
    · rename_i value hvalue
      obtain ⟨names, -, rfl⟩ := makeMultiMatch_eq_ok.1 h
      exact hasDocument_multiMatch hP (hbody.get? hvalue) names
    · simp at h
  · simp at h

end Made

/-! ## Predicates that are read -/

/-- What is read from a value has documents, wherever the value stands. -/
structure Reads (P : Value → Bool) (v : Value) : Prop where
  entry : ∀ kind p, ofEntry kind v = .ok p → p.HasDocument P
  one : ∀ w, readOne v = .ok w → ∃ p : Predicate, w = p.toValue ∧ p.HasDocument P
  clause : ∀ ws, readClause v = .ok ws →
    ∃ ps : List Predicate, ws = ps.map toValue ∧ ∀ p ∈ ps, p.HasDocument P

theorem exists_of_readAll : ∀ {vs ws : List Value}, (∀ v ∈ vs, Reads P v) → readAll vs = .ok ws →
    ∃ ps : List Predicate, ws = ps.map toValue ∧ ∀ p ∈ ps, p.HasDocument P
  | [], ws, _, h => ⟨[], (Except.ok.inj h).symm, by simp⟩
  | v :: vs, ws, hvs, h => by
    obtain ⟨hv, hvs⟩ := List.forall_mem_cons.1 hvs
    simp only [readAll, bind_eq_ok, pure_eq_ok] at h
    obtain ⟨w, hw, rest, hrest, rfl⟩ := h
    obtain ⟨p, rfl, hp⟩ := hv.one w hw
    obtain ⟨ps, rfl, hps⟩ := exists_of_readAll hvs hrest
    exact ⟨p :: ps, rfl, List.forall_mem_cons.2 ⟨hp, hps⟩⟩

/-- A clause that is looked up is one that was read, or it is absent. -/
theorem exists_of_clauseOf {es : Entries} {name : String} {ws : List Value}
    (hes : ∀ e ∈ es, Reads P e.2) (h : clauseOf (readClauses es) name = .ok ws) :
    ∃ ps : List Predicate, ws = ps.map toValue ∧ ∀ p ∈ ps, p.HasDocument P := by
  have hmem : ∀ {es : Entries}, ∀ c ∈ readClauses es, ∃ e ∈ es, c.2 = readClause e.2 := by
    intro es
    induction es with
    | nil => simp [readClauses]
    | cons e es ih =>
      intro c hc
      rw [readClauses] at hc
      rcases List.mem_cons.1 hc with rfl | hc
      · exact ⟨e, List.mem_cons_self .., rfl⟩
      · obtain ⟨e', he', h⟩ := ih c hc
        exact ⟨e', List.mem_cons_of_mem _ he', h⟩
  unfold clauseOf at h
  split at h
  · rename_i c hc
    obtain ⟨e, he, hce⟩ := hmem c (List.mem_of_find?_eq_some hc)
    exact (hes e he).clause ws (hce ▸ h)
  · exact ⟨[], (Except.ok.inj h).symm, by simp⟩

/-- Besides `match_all` every predicate has a mapping for a body. -/
theorem eq_matchAll_of_ofEntry {kind body : Value} {p : Predicate} (hbody : body.entries? = none)
    (h : ofEntry kind body = .ok p) : p = .matchAll := by
  have hmap : ∀ es, body ≠ .map es := by
    rintro es rfl
    simp [Value.entries?] at hbody
  unfold ofEntry at h
  split at h
  · simp at h
  · exact (Except.ok.inj h).symm
  · split at h
    · exact absurd rfl (hmap _)
    · simp at h
  · unfold ofMultiMatch at h
    split at h
    · exact absurd rfl (hmap _)
    · simp at h
  · obtain ⟨entry, hentry, -⟩ := bind_eq_ok.1 h
    exact absurd (singleEntry_eq_ok.1 hentry).1 (hmap _)

theorem eq_of_readOne {v w : Value} (h : readOne v = .ok w) :
    ∃ kind body p, v = .map [(kind, body)] ∧ ofEntry kind body = .ok p ∧ w = p.toValue := by
  unfold readOne at h
  split at h
  · simp only [bind_eq_ok, pure_eq_ok] at h
    obtain ⟨p, hp, rfl⟩ := h
    exact ⟨_, _, p, rfl, hp, rfl⟩
  · simp at h

/-- One predicate stands for the list of itself. -/
theorem eq_of_readClause_map {es : Entries} {ws : List Value} (h : readClause (.map es) = .ok ws) :
    ∃ w, readOne (.map es) = .ok w ∧ ws = [w] := by
  rcases es with _ | ⟨⟨kind, body⟩, _ | ⟨e, es⟩⟩
  · simp [readClause] at h
  · simp only [readClause, bind_eq_ok, pure_eq_ok] at h
    obtain ⟨p, hp, rfl⟩ := h
    exact ⟨p.toValue, by simp [readOne, hp], rfl⟩
  · simp [readClause] at h

theorem reads_of_data (hP : ∀ s, P (.text s)) {v : Value} (hv : v.Data P) : Reads P v := by
  have hother : ∀ {kind body : Value} {p : Predicate}, body.entries? = none →
      ofEntry kind body = .ok p → p.HasDocument P := fun hbody h =>
    eq_matchAll_of_ofEntry hbody h ▸ hasDocument_matchAll hP
  induction hv with
  | @scalar v h =>
    have hbody : v.entries? = none := by cases v <;> simp_all [Value.entries?, Value.isScalar]
    refine ⟨fun kind p hp => hother hbody hp, fun w hw => ?_, fun ws hws => ?_⟩
    · obtain ⟨kind, body, p, rfl, -, -⟩ := eq_of_readOne hw
      simp [Value.isScalar] at h
    · cases v <;> simp [readClause, Value.isScalar] at h hws
      exact ⟨[], hws, by simp⟩
  | list _ ih | tuple _ ih =>
    refine ⟨fun kind p hp => hother rfl hp, fun w hw => ?_, fun ws hws => ?_⟩
    · obtain ⟨kind, body, p, hv, -, -⟩ := eq_of_readOne hw
      simp at hv
    · rw [readClause] at hws
      exact exists_of_readAll ih hws
  | @map es hkeys h ih =>
    have hone : ∀ w, readOne (.map es) = .ok w →
        ∃ p : Predicate, w = p.toValue ∧ p.HasDocument P := by
      intro w hw
      obtain ⟨kind, body, p, hes, hp, rfl⟩ := eq_of_readOne hw
      obtain rfl := Value.map.inj hes
      exact ⟨p, rfl, (ih _ (List.mem_singleton_self _)).entry kind p hp⟩
    refine ⟨fun kind p hp => ?_, hone, fun ws hws => ?_⟩
    · rw [ofEntry] at hp
      split at hp
      · simp at hp
      · exact Except.ok.inj hp ▸ hasDocument_matchAll hP
      · simp only [bind_eq_ok, pure_eq_ok] at hp
        obtain ⟨⟨⟩, -, must, hmust, mustNot, hmustNot, should, hshould, filter, hfilter, rfl⟩ := hp
        obtain ⟨must, rfl, hmust'⟩ := exists_of_clauseOf ih hmust
        obtain ⟨mustNot, rfl, hmustNot'⟩ := exists_of_clauseOf ih hmustNot
        obtain ⟨should, rfl, hshould'⟩ := exists_of_clauseOf ih hshould
        obtain ⟨filter, rfl, hfilter'⟩ := exists_of_clauseOf ih hfilter
        exact hasDocument_bool hP hmust' hmustNot' hshould' hfilter'
      · exact hasDocument_of_ofMultiMatch hP (.map hkeys h) hp
      · exact hasDocument_of_ofField hP (.map hkeys h) hp
    · obtain ⟨w, hw, rfl⟩ := eq_of_readClause_map hws
      obtain ⟨p, rfl, hp⟩ := hone w hw
      exact ⟨[p], rfl, List.forall_mem_singleton.2 hp⟩

theorem hasDocument_of_ofDocument (hP : ∀ s, P (.text s)) {v : Value} {p : Predicate}
    (hv : v.Data P) (h : ofDocument v = .ok p) : p.HasDocument P := by
  unfold ofDocument at h
  split at h
  · exact (reads_of_data hP ((data_map_iff.1 hv).2 _ (List.mem_singleton_self _))).entry _ p h
  · simp at h

end Predicate

/-! ## What a definition puts into its draft -/

/-- What an edit puts into a draft has a document. -/
def Search.Edit.HasDocument (P : Value → Bool) : Search.Edit → Prop
  | .predicate p | .filter p => p.HasDocument P
  | .aggregate _ a => a.document.Data P
  | .highlight h => h.document.Data P
  | _ => True

/-- What a draft holds has documents. -/
structure Search.Draft.HasDocuments (P : Value → Bool) (d : Search.Draft) : Prop where
  predicate : d.predicate.HasDocument P
  filters : ∀ p ∈ d.filters, p.HasDocument P
  aggregations : ∀ n ∈ d.aggregations, n.2.document.Data P
  highlight : ∀ h, d.highlight = some h → h.document.Data P

namespace Search

theorem mem_of_mem_putNamed {α : Type} {items : List (String × α)} {name : String} {item : α}
    {n : String × α} (h : n ∈ putNamed items name item) : n = (name, item) ∨ n ∈ items := by
  induction items with
  | nil => exact .inl (List.mem_singleton.1 h)
  | cons e items ih =>
    rw [putNamed] at h
    split_ifs at h
    · exact (List.mem_cons.1 h).imp_right (List.mem_cons_of_mem _)
    · rcases List.mem_cons.1 h with rfl | h
      · exact .inr (List.mem_cons_self ..)
      · exact (ih h).imp_right (List.mem_cons_of_mem _)

namespace Draft

theorem HasDocuments.empty (hP : ∀ s, P (.text s)) : HasDocuments P {} :=
  ⟨Predicate.hasDocument_matchAll hP, by simp, by simp, by simp⟩

theorem HasDocuments.edit {d : Draft} {e : Edit} (h : d.HasDocuments P) (he : e.HasDocument P) :
    (d.edit e).HasDocuments P := by
  cases e with
  | predicate p => exact { h with predicate := he }
  | filter p =>
    refine { h with filters := fun q hq => ?_ }
    rcases List.mem_append.1 hq with hq | hq
    · exact h.filters q hq
    · exact List.mem_singleton.1 hq ▸ he
  | aggregate name a =>
    refine { h with aggregations := fun n hn => ?_ }
    rcases mem_of_mem_putNamed hn with rfl | hn
    · exact he
    · exact h.aggregations n hn
  | highlight spec => exact { h with highlight := fun spec' hs => Option.some.inj hs ▸ he }
  | _ => exact ⟨h.predicate, h.filters, h.aggregations, h.highlight⟩

theorem HasDocuments.foldl {es : List Edit} (hes : ∀ e ∈ es, e.HasDocument P) {d : Draft}
    (h : d.HasDocuments P) : (es.foldl Draft.edit d).HasDocuments P := by
  induction es generalizing d with
  | nil => exact h
  | cons e es ih =>
    obtain ⟨he, hes⟩ := List.forall_mem_cons.1 hes
    exact ih hes (h.edit he)

/-- Filters and the predicate that they wrap have documents together. -/
theorem HasDocuments.finalPredicate (hP : ∀ s, P (.text s)) {d : Draft} (h : d.HasDocuments P) :
    d.finalPredicate.HasDocument P := by
  unfold Draft.finalPredicate
  split_ifs
  · exact h.predicate
  · exact @Predicate.hasDocument_bool P hP [d.predicate] [] [] d.filters
      (List.forall_mem_singleton.2 h.predicate) nofun nofun h.filters

theorem data_present (hP : ∀ s, P (.text s)) {parts : List (String × Option Value)}
    (h : ∀ part ∈ parts, ∀ v, part.2 = some v → v.Data P) : (ofFields (present parts)).Data P := by
  refine (data_ofFields_iff hP).2 fun f hf => ?_
  obtain ⟨part, hpart, hsome⟩ := List.mem_filterMap.1 hf
  obtain ⟨v, hv, rfl⟩ := Option.map_eq_some_iff.1 hsome
  exact h part hpart v hv

theorem data_sortField (hP : ∀ s, P (.text s)) (s : SortField) : s.document.Data P := by
  have horder : (single "order" (.text s.order.text)).Data P :=
    (data_ofFields_iff hP).2 (List.forall_mem_singleton.2 (.scalar rfl))
  exact .map (List.forall_mem_singleton.2 (hP s.field)) (List.forall_mem_singleton.2 horder)

theorem eq_of_unlessEmpty {α : Type} {make : List α → Value} {as : List α} {v : Value}
    (h : unlessEmpty make as = some v) : v = make as := by
  cases as with
  | nil => simp [unlessEmpty] at h
  | cons a as => exact (Option.some.inj h).symm

/-- A draft of things that have documents builds to a request that has one. -/
theorem HasDocuments.exists_document (hP : ∀ s, P (.text s)) {d : Draft} (h : d.HasDocuments P) :
    ∃ doc, d.build.document = .ok doc ∧ doc.Data P := by
  obtain ⟨query, hquery, hdata⟩ := h.finalPredicate hP
  refine ⟨_, Request.document_eq hquery, data_present hP fun part hpart v hv => ?_⟩
  simp only [Request.parts, List.mem_cons, List.not_mem_nil, or_false] at hpart
  rcases hpart with rfl | rfl | rfl | rfl | rfl | rfl | rfl
  all_goals dsimp only at hv
  · exact Option.some.inj hv ▸ hdata
  · obtain rfl := eq_of_unlessEmpty hv
    refine .list fun w hw => ?_
    obtain ⟨s, -, rfl⟩ := List.mem_map.1 hw
    exact data_sortField hP s
  · obtain ⟨n, -, rfl⟩ := Option.map_eq_some_iff.1 hv
    exact .scalar rfl
  · obtain ⟨n, -, rfl⟩ := Option.map_eq_some_iff.1 hv
    exact .scalar rfl
  · obtain rfl := eq_of_unlessEmpty hv
    refine (data_ofFields_iff hP).2 fun f hf => ?_
    obtain ⟨n, hn, rfl⟩ := List.mem_map.1 hf
    exact h.aggregations n hn
  · obtain ⟨spec, hspec, rfl⟩ := Option.map_eq_some_iff.1 hv
    exact h.highlight spec hspec
  · obtain ⟨fields, -, rfl⟩ := Option.map_eq_some_iff.1 hv
    exact Value.data_textList fields

end Draft

end Search

namespace Config.Search

open QueryDraft.Search (Call Edit Draft Slot)

section Readers

variable (hP : ∀ s, P (.text s)) {key name : String} {v : Value} {a : Edit}
include hP

theorem hasDocument_of_readPredicate {p : Predicate} (hv : v.Data P)
    (h : readPredicate key v = .ok p) : p.HasDocument P := by
  simp only [readPredicate, bind_eq_ok, expectMapping_eq_ok] at h
  obtain ⟨es, rfl, h⟩ := h
  exact Predicate.hasDocument_of_ofDocument hP hv h

theorem hasDocument_of_readClause {es : Entries} {ps : List Predicate} (hes : (Value.map es).Data P)
    (h : readClause es key name = .ok ps) : ∀ p ∈ ps, p.HasDocument P := by
  simp only [readClause, bind_eq_ok, expectList_eq_ok] at h
  obtain ⟨vs, hvs, h⟩ := h
  have hdata : (Value.list vs).Data P := hvs ▸ hes.getOr name (.list (by simp))
  exact forall_mem_of_places_of (fun _ _ _ => hasDocument_of_readPredicate hP)
    (data_list_iff.1 hdata) h

theorem hasDocument_of_readQuery (hv : v.Data P) (h : readQuery key v = .ok a) :
    a.HasDocument P := by
  obtain ⟨p, hp, rfl⟩ := readQuery_eq_ok h
  exact Predicate.hasDocument_of_ofDocument hP hv hp

theorem hasDocument_of_readBool (hv : v.Data P) (h : readBool key v = .ok a) :
    a.HasDocument P := by
  simp only [readBool, bind_eq_ok, expectMapping_eq_ok, pure_eq_ok] at h
  obtain ⟨es, rfl, ⟨⟩, -, must, hmust, mustNot, hmustNot, should, hshould, filter, hfilter, rfl⟩ :=
    h
  exact Predicate.hasDocument_bool hP (hasDocument_of_readClause hP hv hmust)
    (hasDocument_of_readClause hP hv hmustNot) (hasDocument_of_readClause hP hv hshould)
    (hasDocument_of_readClause hP hv hfilter)

theorem hasDocument_of_readFilter {field : Value} (hv : v.Data P)
    (h : readFilter key field v = .ok a) : a.HasDocument P := by
  simp only [readFilter, Call.check, bind_eq_ok, pure_eq_ok] at h
  obtain ⟨field, hfield, rfl⟩ := h
  obtain ⟨s, rfl, -⟩ := QueryDraft.Search.isName_of_requireField hfield
  show (QueryDraft.Search.filterOf _ v).HasDocument P
  unfold QueryDraft.Search.filterOf
  split
  · rename_i vs hvs
    exact Predicate.hasDocument_terms hP rfl (hP s) (hv.of_collection hvs)
  · exact Predicate.hasDocument_term hP rfl (hP s) hv

theorem hasDocument_of_readFilterRange {field : Value} (hv : v.Data P)
    (h : readFilterRange key field v = .ok a) : a.HasDocument P := by
  simp only [readFilterRange, Call.check, QueryDraft.Search.rangeOf, bind_eq_ok, pure_eq_ok,
    expectMapping_eq_ok] at h
  obtain ⟨es, rfl, p, ⟨field, hfield, b, hb, rfl⟩, rfl⟩ := h
  obtain ⟨s, rfl, -⟩ := QueryDraft.Search.isName_of_requireField hfield
  exact Predicate.hasDocument_range hP rfl (hP s) hv hb

theorem data_of_ofDocument {g : Aggregation} (hv : v.Data P)
    (h : Aggregation.ofDocument v = .ok g) : g.document.Data P := by
  simp only [Aggregation.ofDocument, bind_eq_ok] at h
  obtain ⟨⟨kind, body⟩, hentry, h⟩ := h
  obtain ⟨rfl, hkind⟩ := singleEntry_eq_ok.1 hentry
  have hes : (Value.map (body.entries?.getD [])).Data P := by
    have hbody : body.Data P := (data_map_iff.1 hv).2 _ (List.mem_singleton_self _)
    cases body with
    | map es => exact hbody
    | _ => exact .map (by simp [Value.entries?]) (by simp [Value.entries?])
  dsimp only at h
  generalize body.entries?.getD [] = es at h hes
  have hone : ∀ field : Value, field.Data P → ∀ name, (single name field).Data P :=
    fun _ hfield _ => (data_ofFields_iff hP).2 (List.forall_mem_singleton.2 hfield)
  have hboth : ∀ {field other : Value} (name name' : String), field.Data P → other.Data P →
      (ofFields [(name, field), (name', other)]).Data P := fun _ _ hfield hother =>
    (data_ofFields_iff hP).2 (List.forall_mem_cons.2 ⟨hfield, List.forall_mem_singleton.2 hother⟩)
  have hfield := hes.getD "field"
  split at h
  · simp [refuse] at h
  split at h
  · obtain rfl := pure_eq_ok.1 h
    exact hone _ (hone _ hfield "field") "avg"
  · obtain rfl := pure_eq_ok.1 h
    exact hone _ (hone _ hfield "field") "sum"
  · obtain rfl := Aggregation.eq_of_makeTerms h
    have hsize : ((Entries.get? es "size").getD (.int 10)).Data P := hes.getOr "size" (.scalar rfl)
    exact hone _ (hboth "field" "size" hfield hsize) "terms"
  · have hinterval := hes.getOr "calendar_interval" (hes.getD "interval")
    split_ifs at h
    · obtain rfl := pure_eq_ok.1 h
      exact hone _ (hboth "field" "calendar_interval" hfield hinterval) "date_histogram"
    · simp at h
  · simp at h

theorem hasDocument_of_readAggregation {field : Value} (hv : v.Data P)
    (h : readAggregation key field v = .ok a) : a.HasDocument P := by
  obtain ⟨s, g, -, hg, rfl⟩ := readAggregation_eq_ok h
  exact data_of_ofDocument hP hv hg

theorem data_document_highlight {h : Highlight} (hpre : ∀ v ∈ h.preTags, v.Data P)
    (hpost : ∀ v ∈ h.postTags, v.Data P) (hsize : h.fragmentSize.Data P) : h.document.Data P := by
  rw [Highlight.document_eq]
  refine QueryDraft.Search.Draft.data_present hP fun part hpart v hv => ?_
  simp only [Highlight.parts, List.mem_cons, List.not_mem_nil, or_false] at hpart
  rcases hpart with rfl | rfl | rfl | rfl
  all_goals dsimp only at hv
  · obtain rfl := Option.some.inj hv
    refine (data_ofFields_iff hP).2 fun f hf => ?_
    obtain ⟨name, -, rfl⟩ := List.mem_map.1 hf
    exact .map (by simp) (by simp)
  · exact QueryDraft.Search.Draft.eq_of_unlessEmpty hv ▸ .list hpre
  · exact QueryDraft.Search.Draft.eq_of_unlessEmpty hv ▸ .list hpost
  · unfold unlessNull at hv
    split_ifs at hv
    exact Option.some.inj hv ▸ hsize

omit hP in
theorem data_of_expectSpellings {ts : List Value} (hv : v.Data P)
    (h : expectSpellings key v = .ok ts) : ∀ t ∈ ts, t.Data P := by
  unfold expectSpellings at h
  split at h
  · obtain rfl := Except.ok.inj h
    exact List.forall_mem_singleton.2 hv
  · simp only [bind_eq_ok, expectList_eq_ok] at h
    obtain ⟨vs, rfl, h⟩ := h
    refine forall_mem_of_places_of (fun _ w t hw ht => ?_) (data_list_iff.1 hv) h
    obtain ⟨-, rfl⟩ := expectSpelling_eq_ok.1 ht
    exact hw

omit hP in
theorem eq_of_make {fields size : Value} {pre post : List Value} {h : Highlight}
    (hmake : Highlight.make fields (.tuple pre) (.tuple post) size = .ok h) :
    h.preTags = pre ∧ h.postTags = post ∧ h.fragmentSize = size := by
  obtain ⟨-, -, hpre, hpost, hsize⟩ := Highlight.make_eq_ok.1 hmake
  exact ⟨(Option.some.inj hpre).symm, (Option.some.inj hpost).symm, hsize.symm⟩

theorem hasDocument_of_readHighlight (hv : v.Data P) (h : readHighlight key v = .ok a) :
    a.HasDocument P := by
  unfold readHighlight at h
  split at h
  case h_4 =>
    simp only [bind_eq_ok, pure_eq_ok, expectMapping_eq_ok] at h
    obtain ⟨es, rfl, spec, hspec, rfl⟩ := h
    simp only [readHighlightOptions, bind_eq_ok] at hspec
    obtain ⟨⟨⟩, -, listed, -, fields, -, pre, hpre, post, hpost, hspec⟩ := hspec
    obtain ⟨size, hsize, hmake⟩ : ∃ size : Value, size.Data P
        ∧ Highlight.make (.textTuple fields) (.tuple pre) (.tuple post) size = .ok spec := by
      split at hspec
      · exact ⟨.null, .scalar rfl, hspec⟩
      · obtain ⟨size, hsize, hmake⟩ := bind_eq_ok.1 hspec
        obtain ⟨n, -, rfl⟩ := map_eq_ok.1 hsize
        exact ⟨_, .scalar rfl, hmake⟩
    obtain ⟨rfl, rfl, rfl⟩ := eq_of_make hmake
    have htags : ∀ name, (getOr es name (.list [])).Data P := fun name =>
      hv.getOr name (.list (by simp))
    exact data_document_highlight hP (data_of_expectSpellings (htags _) hpre)
      (data_of_expectSpellings (htags _) hpost) hsize
  all_goals
    simp only [bind_eq_ok, pure_eq_ok] at h
    obtain ⟨fields, -, spec, hspec, rfl⟩ := h
    obtain ⟨hpre, hpost, hsize⟩ := eq_of_make hspec
    exact data_document_highlight hP (by simp [hpre]) (by simp [hpost]) (hsize ▸ .scalar rfl)

end Readers

/-! ## The document of a definition -/

section Edits

variable {es : Entries} {key name : String} {as : List Edit}

theorem hasDocument_of_slot {a : Edit}
    (h : a.slot ∉ [.predicate, .filters, .aggregations, .highlight]) : a.HasDocument P := by
  cases a <;> first | trivial | simp [Edit.slot] at h

/-- A section of other parts than those that have documents. -/
theorem hasDocument_of_slots {slot : Slot} (has : ∀ a ∈ as, a.slot = slot)
    (hslot : slot ∉ [.predicate, .filters, .aggregations, .highlight] := by decide) :
    ∀ a ∈ as, a.HasDocument P :=
  fun a ha => hasDocument_of_slot (has a ha ▸ hslot)

theorem hasDocument_of_optional {read : String → Value → Outcome Edit} (hes : (Value.map es).Data P)
    (hread : ∀ key v a, v.Data P → read key v = .ok a → a.HasDocument P)
    (h : optional es key name read = .ok as) : ∀ a ∈ as, a.HasDocument P := by
  rcases optional_eq_ok h with ⟨-, rfl⟩ | ⟨v, a, hv, ha, rfl⟩
  · simp
  · exact List.forall_mem_singleton.2 (hread _ v a (hes.get? hv) ha)

theorem data_mapped (hes : (Value.map es).Data P) (name : String) :
    ∀ e ∈ mapped es name, e.2.Data P := by
  unfold mapped
  split
  · rename_i parts hparts
    exact (data_map_iff.1 (hes.get? hparts)).2
  · simp

theorem hasDocument_of_entries {read : String → Value → Value → Outcome Edit}
    (hes : (Value.map es).Data P)
    (hread : ∀ key field v a, v.Data P → read key field v = .ok a → a.HasDocument P)
    (h : entries es key name read = .ok as) : ∀ a ∈ as, a.HasDocument P :=
  forall_mem_of_forall₂_of (entries_eq_ok h) (data_mapped hes name) fun _ _ he ha =>
    hread _ _ _ _ he ha

theorem hasDocument_of_edits (hP : ∀ s, P (.text s)) (hes : (Value.map es).Data P)
    (h : edits key es = .ok as) : ∀ a ∈ as, a.HasDocument P := by
  simp only [edits, bind_eq_ok, pure_eq_ok] at h
  obtain ⟨index, hindex, ⟨⟩, -, query, hquery, bool, hbool, filter, hfilter, ranges, hranges,
    sort, hsort, size, hsize, start, hstart, source, hsource, aggs, haggs, highlight, hhighlight,
    rfl⟩ := h
  simp only [List.forall_mem_append]
  refine ⟨⟨⟨⟨⟨⟨⟨⟨⟨⟨?_, ?_⟩, ?_⟩, ?_⟩, ?_⟩, ?_⟩, ?_⟩, ?_⟩, ?_⟩, ?_⟩, ?_⟩
  · exact hasDocument_of_slots (slot_of_optional readIndex_into hindex)
  · exact hasDocument_of_optional hes (fun _ _ _ => hasDocument_of_readQuery hP) hquery
  · exact hasDocument_of_optional hes (fun _ _ _ => hasDocument_of_readBool hP) hbool
  · exact hasDocument_of_entries hes (fun _ _ _ _ => hasDocument_of_readFilter hP) hfilter
  · exact hasDocument_of_entries hes (fun _ _ _ _ => hasDocument_of_readFilterRange hP) hranges
  · exact hasDocument_of_slots (slot_of_sorts hsort)
  · exact hasDocument_of_slots (slot_of_optional readSize_into hsize)
  · exact hasDocument_of_slots (slot_of_optional readStart_into hstart)
  · exact hasDocument_of_slots (slot_of_optional readSource_into hsource)
  · exact hasDocument_of_entries hes (fun _ _ _ _ => hasDocument_of_readAggregation hP) haggs
  · exact hasDocument_of_optional hes (fun _ _ _ => hasDocument_of_readHighlight hP) hhighlight

end Edits

/-- The request of a definition of plain data has a document, which is plain data. -/
theorem exists_document_of_read (hP : ∀ s, P (.text s)) {key name : String} {es : Entries}
    {d : Search.Draft} (hes : (Value.map es).Data P)
    (h : Definition.read key (.map es) = .ok ⟨name, .search d⟩) :
    ∃ doc, d.build.document = .ok doc ∧ doc.Data P := by
  obtain ⟨as, has, rfl⟩ := edits_of_read h
  have hdocuments := hasDocument_of_edits hP hes has
  exact (QueryDraft.Search.Draft.HasDocuments.foldl hdocuments (.empty hP)).exists_document hP

end Config.Search

end QueryDraft
