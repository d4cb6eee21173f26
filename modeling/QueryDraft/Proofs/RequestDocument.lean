import QueryDraft.Config.Section
import QueryDraft.Proofs.PredicateRoundtrip
import QueryDraft.Search.Request

/-!
# What the document of a request keeps

The document of a request is a mapping whose parts have fixed names and are left out when they are
not set (`document_eq`). Such a mapping determines its parts, those that are left out too
(`present_injective`), and each part determines what it was made from. So two requests with one
document differ in their index at most, in the form of a literal, or in a highlighted field that is
named again.
-/

namespace QueryDraft

open Document

/-! ## Parts that may be left out -/

/-- The parts of a mapping that are there. -/
def present (parts : List (String × Option Value)) : List (String × Value) :=
  parts.filterMap fun (name, part) => part.map fun v => (name, v)

theorem present_cons_none (name : String) (parts : List (String × Option Value)) :
    present ((name, none) :: parts) = present parts := rfl

theorem present_cons_some (name : String) (v : Value) (parts : List (String × Option Value)) :
    present ((name, some v) :: parts) = (name, v) :: present parts := rfl

theorem present_append (parts parts' : List (String × Option Value)) :
    present (parts ++ parts') = present parts ++ present parts' := List.filterMap_append

theorem name_mem_of_mem_present {parts : List (String × Option Value)} {name : String} {v : Value}
    (h : (name, v) ∈ present parts) : name ∈ parts.map (·.1) := by
  obtain ⟨⟨n, part⟩, hmem, hpart⟩ := List.mem_filterMap.1 h
  obtain ⟨w, -, hw⟩ := Option.map_eq_some_iff.1 hpart
  exact (Prod.mk.inj hw).1 ▸ List.mem_map_of_mem hmem

theorem get?_present_cons (name n : String) (part : Option Value)
    (parts : List (String × Option Value)) :
    Entries.get? (Entries.ofTexts (present ((n, part) :: parts))) name
      = if n = name then part.or (Entries.get? (Entries.ofTexts (present parts)) name)
        else Entries.get? (Entries.ofTexts (present parts)) name := by
  cases part with
  | none => simp [present_cons_none]
  | some v =>
    rw [present_cons_some, Entries.get?_ofTexts_cons]
    split_ifs <;> rfl

/-- Of parts with known names, those that are there tell which are not. -/
theorem present_injective : ∀ {parts parts' : List (String × Option Value)},
    parts.map (·.1) = parts'.map (·.1) → (parts.map (·.1)).Nodup →
      present parts = present parts' → parts = parts'
  | [], [], _, _, _ => rfl
  | (n, part) :: parts, (n', part') :: parts', hnames, hnodup, h => by
    simp only [List.map_cons, List.cons.injEq] at hnames
    obtain ⟨rfl, hrest⟩ := hnames
    rw [List.map_cons, List.nodup_cons] at hnodup
    obtain ⟨hn, hnodup⟩ := hnodup
    -- a part that only one side has is not found on the other, since its name comes once
    cases part with
    | none => cases part' with
      | none => rw [present_injective hrest hnodup h]
      | some w =>
        rw [present_cons_none, present_cons_some] at h
        exact absurd (name_mem_of_mem_present (h ▸ List.mem_cons_self ..)) hn
    | some v => cases part' with
      | none =>
        rw [present_cons_none, present_cons_some] at h
        exact absurd (hrest ▸ name_mem_of_mem_present (h ▸ List.mem_cons_self ..)) hn
      | some w =>
        rw [present_cons_some, present_cons_some, List.cons.injEq] at h
        obtain ⟨hvw, h⟩ := h
        rw [(Prod.mk.inj hvw).2, present_injective hrest hnodup h]

theorem ofFields_injective : Function.Injective ofFields := fun fields fields' h => by
  refine List.map_injective_iff.2 ?_ (Value.map.inj h)
  rintro ⟨n, v⟩ ⟨n', v'⟩ hnv
  simpa using hnv

/-- The part that is made of a list, left out when the list is empty. -/
def unlessEmpty {α : Type} (make : List α → Value) : List α → Option Value
  | [] => none
  | a :: as => some (make (a :: as))

theorem unlessEmpty_injective {α : Type} {make : List α → Value} (h : Function.Injective make) :
    Function.Injective (unlessEmpty make) := by
  rintro (_ | ⟨a, as⟩) (_ | ⟨b, bs⟩) hab
  · rfl
  · cases hab
  · cases hab
  · exact h (Option.some.inj hab)

/-- The part that is a value, left out when the value is absent. -/
def unlessNull (v : Value) : Option Value := if v.isNull then none else some v

theorem unlessNull_injective : Function.Injective unlessNull := by
  intro v w h
  cases v <;> cases w <;> simp_all [unlessNull, Value.isNull]

/-! ## The parts of requests -/

theorem Value.textList_injective : Function.Injective Value.textList := fun _ _ h =>
  List.map_injective_iff.2 (fun _ _ => Value.text.inj) (Value.list.inj h)

theorem Aggregation.document_injective : Function.Injective Aggregation.document := by
  intro a b h
  cases a <;> cases b <;> simp_all [Aggregation.document, single, ofFields]

/-- A highlight without the repetitions of its fields. -/
def Highlight.withoutRepeats (h : Highlight) : Highlight :=
  { h with fields := Config.distinct h.fields }

/-- Putting names one after another keeps the first of each. -/
theorem ofPairs_names (names : List String) (v : Value) :
    Entries.ofPairs (names.map fun name => (.text name, v))
      = Entries.ofTexts ((Config.distinct names).map fun name => (name, v)) := by
  have hinsert : ∀ (seen : List String) (name : String),
      Entries.insert (Entries.ofTexts (seen.map fun name => (name, v))) (.text name) v
        = Entries.ofTexts ((if seen.contains name then seen else seen ++ [name]).map
          fun name => (name, v)) := by
    intro seen name
    induction seen with
    | nil => rfl
    | cons n seen ih =>
      rw [List.map_cons, Entries.ofTexts_cons, Entries.insert, ih]
      by_cases hn : name = n
      · simp [hn, Entries.ofTexts_cons]
      · by_cases hmem : name ∈ seen <;> simp [hn, hmem, Entries.ofTexts_cons]
  have hfold : ∀ seen : List String,
      (names.map fun name => (Value.text name, v)).foldl (fun es p => Entries.insert es p.1 p.2)
          (Entries.ofTexts (seen.map fun name => (name, v)))
        = Entries.ofTexts ((names.foldl (fun seen t => if seen.contains t then seen
          else seen ++ [t]) seen).map fun name => (name, v)) := by
    induction names with
    | nil => exact fun _ => rfl
    | cons name names ih =>
      intro seen
      rw [List.map_cons, List.foldl_cons, List.foldl_cons, hinsert, ih]
  exact hfold []

namespace Highlight

/-- The parts of the document of a highlight. -/
def parts (h : Highlight) : List (String × Option Value) :=
  [("fields", some (ofFields ((Config.distinct h.fields).map fun name => (name, .map [])))),
    ("pre_tags", unlessEmpty .list h.preTags), ("post_tags", unlessEmpty .list h.postTags),
    ("fragment_size", unlessNull h.fragmentSize)]

theorem document_eq (h : Highlight) : h.document = ofFields (present h.parts) := by
  obtain ⟨fields, pre, post, size⟩ := h
  simp only [document, parts, ofPairs_names, ← Entries.ofFields_eq]
  cases pre <;> cases post <;> cases size <;> rfl

theorem highlightDocument_toValue (h : Highlight) :
    h.toValue.highlightDocument = .ok h.document := by
  have hnames := mapM_text?_text h.fields
  simp [toValue, Value.textTuple, Value.highlightDocument, ofValue?, hnames]

theorem withoutRepeats_eq_of_document {h h' : Highlight} (hdoc : h.document = h'.document) :
    h.withoutRepeats = h'.withoutRepeats := by
  rw [document_eq, document_eq] at hdoc
  have hparts : h.parts = h'.parts :=
    present_injective rfl (by simp [parts]) (ofFields_injective hdoc)
  simp only [parts, List.cons.injEq, Prod.mk.injEq, true_and, and_true, Option.some.injEq]
    at hparts
  obtain ⟨hfields, hpre, hpost, hsize⟩ := hparts
  have hnames : Config.distinct h.fields = Config.distinct h'.fields :=
    List.map_injective_iff.2 (fun _ _ hn => (Prod.mk.inj hn).1) (ofFields_injective hfields)
  have hlist : Function.Injective Value.list := fun _ _ => Value.list.inj
  rw [withoutRepeats, withoutRepeats, hnames, unlessEmpty_injective hlist hpre,
    unlessEmpty_injective hlist hpost, unlessNull_injective hsize]

end Highlight

/-- Well-formed predicates with one document are one predicate up to the form of literals. -/
theorem Predicate.WellFormed.withLiterals_eq_of_document {p p' : Predicate} (h : p.WellFormed)
    (h' : p'.WellFormed) (hdoc : p.toValue.predicateDocument = p'.toValue.predicateDocument) :
    p.toValue.withLiterals = p'.toValue.withLiterals := by
  obtain ⟨name, body, q, hp, hread, hq⟩ := h.readsBack
  obtain ⟨name', body', q', hp', hread', hq'⟩ := h'.readsBack
  rw [hp, hp'] at hdoc
  obtain ⟨hname, hbody⟩ : name = name' ∧ body = body' := by
    simpa using ofFields_injective (Except.ok.inj hdoc)
  rw [hname, hbody, hread'] at hread
  rw [← hq, ← hq', Except.ok.inj hread]

namespace Search

/-- The document of a field to sort by. -/
def SortField.document (s : SortField) : Value :=
  .map [(.text s.field, single "order" (.text s.order.text))]

theorem SortField.document_injective : Function.Injective SortField.document := by
  rintro ⟨field, order⟩ ⟨field', order'⟩ h
  have horder : order.text = order'.text → order = order' := by
    cases order <;> cases order' <;> decide
  simp only [SortField.document, single, ofFields, Value.map.injEq, List.map_cons, List.map_nil,
    List.cons.injEq, Prod.mk.injEq, Value.text.injEq, true_and, and_true] at h
  rw [h.1, horder h.2]

namespace Request

/-- The parts of the document of a request whose predicate has the document `query`. -/
def parts (r : Request) (query : Value) : List (String × Option Value) :=
  [("query", some query),
    ("sort", unlessEmpty (fun sort => .list (sort.map SortField.document)) r.sort),
    ("size", r.size.map .int), ("from", r.start.map .int),
    ("aggs", unlessEmpty (fun as => ofFields (as.map fun (name, a) => (name, a.document)))
      r.aggregations),
    ("highlight", r.highlight.map Highlight.document),
    ("_source", r.source.map .textList)]

theorem sortDocument_toValue (s : SortField) : s.toValue.sortDocument = .ok s.document := rfl

theorem aggregationDocuments_toValue (as : List (String × Aggregation)) :
    aggregationDocuments (as.map fun (name, a) => (.text name, a.toValue))
      = .ok (as.map fun (name, a) => (.text name, a.document)) := by
  refine mapM_map_ok fun (name, a) _ => ?_
  cases a <;> rfl

/-- A part that is made of a list when the list holds something. -/
theorem partUnlessEmpty_eq {α : Type} {as : List α} {f : List α → Value} {v : Value}
    {make : Value → Outcome Value} (name : String) (hv : v.isTruthy = !as.isEmpty)
    (hmake : as ≠ [] → make v = .ok (f as)) :
    partUnlessEmpty name v make = .ok (present [(name, unlessEmpty f as)]) := by
  cases as with
  | nil => exact if_neg (by simp [hv])
  | cons a as =>
    rw [partUnlessEmpty, if_pos (by simp [hv]), hmake (List.cons_ne_nil a as)]
    rfl

theorem sort_part (r : Request) :
    (partUnlessEmpty "sort" (.tuple (r.sort.map SortField.toValue)) fun v => do
      return .list (← (← v.items).mapM Value.sortDocument))
        = .ok (present [("sort", unlessEmpty (fun sort => .list (sort.map SortField.document))
          r.sort)]) := by
  refine partUnlessEmpty_eq "sort" (by simp [Value.isTruthy]) fun _ => ?_
  have hall : (r.sort.map SortField.toValue).mapM Value.sortDocument
      = .ok (r.sort.map SortField.document) :=
    mapM_map_ok fun s _ => sortDocument_toValue s
  show (r.sort.map SortField.toValue).mapM Value.sortDocument >>= _ = _
  rw [hall]
  rfl

theorem aggregations_part (r : Request) :
    (partUnlessEmpty "aggs" r.aggregationMap fun v => do
      return .map (← aggregationDocuments (← v.entries)))
        = .ok (present [("aggs", unlessEmpty
          (fun as => ofFields (as.map fun (name, a) => (name, a.document))) r.aggregations)]) := by
  refine partUnlessEmpty_eq "aggs" ?_ fun hne => ?_
  · rw [aggregationMap]
    cases r.aggregations <;> simp [Value.isTruthy]
  · rw [aggregationMap, if_neg (by simpa using hne)]
    show aggregationDocuments _ >>= _ = _
    rw [aggregationDocuments_toValue, ok_bind, ofFields, List.map_map]
    rfl

theorem count_part (name : String) (count : Option Int) :
    partUnlessNull name (.ofOption .int count) = present [(name, count.map .int)] := by
  cases count <;> rfl

/-- The document of a request is its parts. -/
theorem document_eq {r : Request} {query : Value}
    (h : r.predicate.toValue.predicateDocument = .ok query) :
    r.document = .ok (ofFields (present (r.parts query))) := by
  have hfield : ∀ {label v}, r.toValue.field? label = some v → r.toValue.field label = .ok v := by
    intro label v h
    rw [Value.field, h]
  rw [document, Value.requestDocument, hfield rfl, ok_bind, h, ok_bind, hfield rfl, ok_bind,
    sort_part, ok_bind, hfield rfl, ok_bind, hfield rfl, ok_bind, hfield rfl, ok_bind,
    aggregations_part, ok_bind, hfield rfl, ok_bind, hfield rfl, count_part, count_part]
  -- the parts of the right side, one list each as they stand on the left side
  show _ = Except.ok (ofFields (present ([(_, _)] ++ [(_, _)] ++ [(_, _)] ++ [(_, _)] ++ [(_, _)]
    ++ [(_, _)] ++ [(_, _)])))
  simp only [present_append]
  cases r.highlight with
  | none => cases r.source <;> rfl
  | some h =>
    show h.toValue.highlightDocument >>= _ = _
    rw [h.highlightDocument_toValue, ok_bind]
    cases r.source <;> rfl

/-- Requests with well-formed predicates have documents, the order of entries included. Where the
documents are one, the requests agree on all that they search for, order, page, aggregate and show,
what is not set being told from all that can be set. Only a literal may be a tuple on one side and a
list on the other, and a highlighted field may be named again. -/
theorem document_determines {r r' : Request} (h : r.predicate.WellFormed)
    (h' : r'.predicate.WellFormed) :
    ∃ doc doc', r.document = .ok doc ∧ r'.document = .ok doc' ∧
      (doc = doc' →
        r.predicate.toValue.withLiterals = r'.predicate.toValue.withLiterals
          ∧ r.sort = r'.sort ∧ r.size = r'.size ∧ r.start = r'.start
          ∧ r.aggregations = r'.aggregations ∧ r.source = r'.source
          ∧ r.highlight.map Highlight.withoutRepeats
            = r'.highlight.map Highlight.withoutRepeats) := by
  obtain ⟨name, body, _, hquery, -, -⟩ := h.readsBack
  obtain ⟨name', body', _, hquery', -, -⟩ := h'.readsBack
  refine ⟨_, _, document_eq hquery, document_eq hquery', fun hdoc => ?_⟩
  have hparts : r.parts (single name body) = r'.parts (single name' body') :=
    present_injective rfl (by simp [parts]) (ofFields_injective hdoc)
  simp only [parts, List.cons.injEq, Prod.mk.injEq, true_and, and_true, Option.some.injEq]
    at hparts
  obtain ⟨hq, hsort, hsize, hstart, haggs, hhighlight, hsource⟩ := hparts
  have hint : Function.Injective Value.int := fun _ _ => Value.int.inj
  have hsorts : Function.Injective fun sort : List SortField =>
      Value.list (sort.map SortField.document) := fun _ _ hs =>
    List.map_injective_iff.2 SortField.document_injective (Value.list.inj hs)
  have hnamed : Function.Injective fun as : List (String × Aggregation) =>
      ofFields (as.map fun (name, a) => (name, a.document)) := fun _ _ has => by
    refine List.map_injective_iff.2 ?_ (ofFields_injective has)
    rintro ⟨n, a⟩ ⟨n', a'⟩ hna
    obtain ⟨hn, ha⟩ := Prod.mk.inj hna
    exact Prod.ext hn (Aggregation.document_injective ha)
  refine ⟨h.withLiterals_eq_of_document h' ?_, unlessEmpty_injective hsorts hsort,
    Option.map_injective hint hsize, Option.map_injective hint hstart,
    unlessEmpty_injective hnamed haggs,
    Option.map_injective Value.textList_injective hsource, ?_⟩
  · rw [hquery, hquery', hq]
  · cases hr : r.highlight <;> cases hr' : r'.highlight <;> simp_all
    exact Highlight.withoutRepeats_eq_of_document hhighlight

/-- Searches that differ in the form of a literal, in a repeated field and in the index have one
document. A search without their page of size zero has another. -/
theorem document_determines_page :
    let calls (tag : Value) (fields : List Value) : List SessionCall := [
      .draft (.terms (.text "tag") (.list [tag])), .draft (.filter (.text "stock") (.int 1)),
      .draft (.highlight (.list fields)), .draft (.avg (.text "price") (.text "price"))]
    ∃ d d' d'' : Draft,
      Session.run (.draft {}) (calls (.tuple [.int 1]) [.text "title"]
          ++ [.draft (.size (.int 0)), .draft (.index (.text "shop"))]) = .draft d
        ∧ Session.run (.draft {}) (calls (.list [.int 1]) [.text "title", .text "title"]
          ++ [.draft (.size (.int 0))]) = .draft d'
        ∧ Session.run (.draft {}) (calls (.tuple [.int 1]) [.text "title"]) = .draft d''
        ∧ d.build.document = d'.build.document
        ∧ d.build.document ≠ d''.build.document := by
  intro calls
  have hpredicate : (Predicate.bool (predicateTuple [.terms (.text "tag") [.tuple [.int 1]]])
      (.tuple []) (.tuple []) (predicateTuple [.term (.text "stock") (.int 1)])).WellFormed := by
    have hterms : (Predicate.terms (.text "tag") [.tuple [.int 1]]).WellFormed :=
      @Predicate.WellFormed.terms (.text "tag") (.list [.tuple [.int 1]]) _ rfl rfl
    have hterm : (Predicate.term (.text "stock") (.int 1)).WellFormed := .term _ rfl
    exact @Predicate.WellFormed.bool [_] [] [] [_] (by simpa using hterms) nofun nofun
      (by simpa using hterm)
  let d'' : Draft := {
    predicate := .terms (.text "tag") [.tuple [.int 1]]
    filters := [.term (.text "stock") (.int 1)]
    aggregations := [("price", .avg (.text "price"))]
    highlight := some ⟨["title"], [], [], .null⟩ }
  let d : Draft := { d'' with index := some "shop", size := some 0 }
  let d' : Draft := { d'' with
    predicate := .terms (.text "tag") [.list [.int 1]]
    highlight := some ⟨["title", "title"], [], [], .null⟩
    size := some 0 }
  refine ⟨d, d', d'', rfl, rfl, rfl, ?_, fun hsame => ?_⟩
  · with_unfolding_all rfl
  · obtain ⟨doc, doc'', hdoc, hdoc'', hagree⟩ :=
      @document_determines d.build d''.build hpredicate hpredicate
    have hdocs : doc = doc'' := Except.ok.inj (hdoc.symm.trans (hsame.trans hdoc''))
    obtain ⟨-, -, hsize, -⟩ := hagree hdocs
    exact absurd hsize (Option.some_ne_none 0)

end Request

end Search

end QueryDraft
