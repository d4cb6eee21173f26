import QueryDraft.Proofs.NumberOrder
import QueryDraft.Proofs.RequestDocument
import QueryDraft.Proofs.SearchInv
import QueryDraft.Proofs.SearchSlots

/-!
# Named aggregations

A session gives aggregations to names, some of them again and again (`Session.namings`). What it
keeps of this is a mapping in the order of insertion: each name once, where it was first given, with
what it was given last (`Keeps`). One more aggregation keeps this (`Keeps.put`), and so does a whole
session. The built search and its document list what the draft lists.
-/

namespace QueryDraft.Search

/-! ## Mappings in the order of insertion -/

section Keeps

variable {α : Type} {given items : List (String × α)}

/-- Whether named things are what is kept of things that were given to names one after another. -/
structure Keeps (given items : List (String × α)) : Prop where
  names : items.map (·.1) = (given.map (·.1)).eraseDups
  distinct : (items.map (·.1)).Nodup
  last : ∀ name, items.lookup name = given.reverse.lookup name

theorem lookup_cons_pair (name other : String) (item : α) (items : List (String × α)) :
    ((name, item) :: items).lookup other
      = if other = name then some item else items.lookup other := by
  rw [List.lookup_cons]
  by_cases h : other = name
  · simp [h]
  · rw [beq_false_of_ne h, if_neg h]

theorem lookup_putNamed (items : List (String × α)) (name other : String) (item : α) :
    (putNamed items name item).lookup other
      = if other = name then some item else items.lookup other := by
  induction items with
  | nil => exact lookup_cons_pair name other item []
  | cons e items ih =>
    obtain ⟨first, old⟩ := e
    rw [putNamed]
    by_cases hfirst : first = name
    · subst hfirst
      rw [if_pos rfl, lookup_cons_pair, lookup_cons_pair]
      split_ifs <;> rfl
    · rw [if_neg hfirst, lookup_cons_pair, lookup_cons_pair, ih]
      -- the first name is another one, so the order of the two tests does not matter
      split_ifs with h h' <;> simp_all

theorem Keeps.nil : Keeps ([] : List (String × α)) [] := ⟨rfl, List.nodup_nil, fun _ => rfl⟩

theorem Keeps.put (h : Keeps given items) (name : String) (item : α) :
    Keeps (given ++ [(name, item)]) (putNamed items name item) := by
  have hmem : name ∈ given.map (·.1) ↔ name ∈ items.map (·.1) := by
    rw [h.names, List.mem_eraseDups]
  refine ⟨?_, nodup_putNamed h.distinct name item, fun other => ?_⟩
  · rw [names_putNamed, List.map_append, List.eraseDups_append, ← h.names]
    split_ifs with hold
    · simp [List.removeAll, hmem, hold]
    · simp [List.removeAll, hmem, hold, List.eraseDups_cons]
  · rw [lookup_putNamed, List.reverse_append, List.reverse_singleton, List.singleton_append,
      lookup_cons_pair, h.last]

/-- Whatever is given after what was kept is kept with it. -/
theorem Keeps.foldl (h : Keeps given items) (more : List (String × α)) :
    Keeps (given ++ more) (more.foldl (fun items e => putNamed items e.1 e.2) items) := by
  induction more generalizing given items with
  | nil => simpa using h
  | cons e more ih =>
    have hmore := ih (h.put e.1 e.2)
    rwa [List.append_assoc, List.singleton_append] at hmore

theorem Keeps.eq_nil_iff (h : Keeps given items) : items = [] ↔ given = [] := by
  have hnames := h.names
  constructor
  · rintro rfl
    cases given with
    | nil => rfl
    | cons e given => simp [List.eraseDups_cons] at hnames
  · rintro rfl
    simpa using hnames

end Keeps

/-! ## Calls that name an aggregation -/

/-- The calls that give an aggregation to a name. -/
inductive Call.Names : Call → String → Aggregation → Prop
  | aggregate {v : Value} {name : String} (a : Aggregation) (hname : v.trimmed? = some name) :
    Names (.aggregate v a.toValue) name a
  | avg {v field : Value} {name f : String} (hname : v.trimmed? = some name)
    (hfield : field.trimmed? = some f) : Names (.avg v field) name (.avg (.text f))
  | sum {v field : Value} {name f : String} (hname : v.trimmed? = some name)
    (hfield : field.trimmed? = some f) : Names (.sum v field) name (.sum (.text f))
  | terms {v field size : Value} {name f : String} {n : Int} (hname : v.trimmed? = some name)
    (hfield : field.trimmed? = some f) (hsize : size.int? = some n) (hn : 0 ≤ n) :
    Names (.termsAggregation v field size) name (.terms (.text f) (.int n))
  | dateHistogram {v field interval : Value} {name f i : String} (hname : v.trimmed? = some name)
    (hfield : field.trimmed? = some f) (hinterval : interval.trimmed? = some i) :
    Names (.dateHistogram v field interval) name (.dateHistogram (.text f) (.text i))

theorem requireField_eq_ok_iff {v w : Value} :
    requireField v = .ok w ↔ ∃ s, v.trimmed? = some s ∧ .text s = w := by
  simp only [requireField, map_eq_ok, requireText_eq_ok]

theorem aggregateAs_eq_ok {v : Value} {a a' : Aggregation} {name : String} :
    aggregateAs v a = .ok (.aggregate name a') ↔ v.trimmed? = some name ∧ a = a' := by
  simp only [aggregateAs, bind_eq_ok, pure_eq_ok, requireText_eq_ok, Edit.aggregate.injEq]
  constructor
  · rintro ⟨s, hs, rfl, rfl⟩
    exact ⟨hs, rfl⟩
  · rintro ⟨hs, rfl⟩
    exact ⟨name, hs, rfl, rfl⟩

theorem ensure_eq_ok {v : Value} {a : Aggregation} :
    Aggregation.ensure v = .ok a ↔ v = a.toValue := by
  constructor
  · intro h
    unfold Aggregation.ensure at h
    split at h
    · rename_i a' ha'
      obtain rfl := Except.ok.inj h
      unfold Aggregation.ofValue? at ha'
      split at ha' <;> simp only [Option.some.injEq, reduceCtorEq] at ha' <;> subst ha' <;> rfl
    · simp at h
  · rintro rfl
    cases a <;> rfl

theorem makeTerms_int {field : Value} {n : Int} {a : Aggregation} (hn : 0 ≤ n) :
    Aggregation.makeTerms field (.int n) = .ok a ↔ .terms field (.int n) = a := by
  simp [Aggregation.makeTerms_eq_ok, Value.number?, Number.isNegative_int, hn]

/-- The calls that give an aggregation to a name are those that check as such. -/
theorem check_eq_aggregate_iff {c : Call} {name : String} {a : Aggregation} :
    c.check = .ok (.aggregate name a) ↔ c.Names name a := by
  constructor
  · intro h
    have hslot : c.slot = .aggregations := (slot_of_check h).symm
    cases c with
    | aggregate v spec =>
      simp only [Call.check, bind_eq_ok, pure_eq_ok, requireText_eq_ok, ensure_eq_ok] at h
      obtain ⟨s, hname, b, rfl, he⟩ := h
      obtain ⟨rfl, rfl⟩ := Edit.aggregate.inj he
      exact .aggregate b hname
    | avg v field =>
      simp only [Call.check, bind_eq_ok, requireField_eq_ok_iff, aggregateAs_eq_ok] at h
      obtain ⟨_, ⟨f, hfield, rfl⟩, hname, rfl⟩ := h
      exact .avg hname hfield
    | sum v field =>
      simp only [Call.check, bind_eq_ok, requireField_eq_ok_iff, aggregateAs_eq_ok] at h
      obtain ⟨_, ⟨f, hfield, rfl⟩, hname, rfl⟩ := h
      exact .sum hname hfield
    | termsAggregation v field size =>
      simp only [Call.check, bind_eq_ok, requireField_eq_ok_iff, requireCount_eq_ok,
        aggregateAs_eq_ok] at h
      obtain ⟨_, ⟨f, hfield, rfl⟩, n, ⟨hsize, hn⟩, b, hb, hname, rfl⟩ := h
      obtain rfl := (makeTerms_int hn).1 hb
      exact .terms hname hfield hsize hn
    | dateHistogram v field interval =>
      simp only [Call.check, bind_eq_ok, requireField_eq_ok_iff, requireText_eq_ok,
        aggregateAs_eq_ok] at h
      obtain ⟨i, hinterval, _, ⟨f, hfield, rfl⟩, hname, rfl⟩ := h
      exact .dateHistogram hname hfield hinterval
    | _ => simp [Call.slot] at hslot
  · intro h
    cases h with
    | aggregate a hname =>
      simp only [Call.check, bind_eq_ok, pure_eq_ok, requireText_eq_ok, ensure_eq_ok]
      exact ⟨name, hname, a, rfl, rfl⟩
    | avg hname hfield | sum hname hfield =>
      simp only [Call.check, bind_eq_ok, requireField_eq_ok_iff, aggregateAs_eq_ok]
      exact ⟨_, ⟨_, hfield, rfl⟩, hname, rfl⟩
    | terms hname hfield hsize hn =>
      simp only [Call.check, bind_eq_ok, requireField_eq_ok_iff, requireCount_eq_ok,
        aggregateAs_eq_ok]
      exact ⟨_, ⟨_, hfield, rfl⟩, _, ⟨hsize, hn⟩, _, (makeTerms_int hn).2 rfl, hname, rfl⟩
    | dateHistogram hname hfield hinterval =>
      simp only [Call.check, bind_eq_ok, requireField_eq_ok_iff, requireText_eq_ok,
        aggregateAs_eq_ok]
      exact ⟨_, hinterval, _, ⟨_, hfield, rfl⟩, hname, rfl⟩

namespace Session

/-- What a call gives to a name, if it is made on a draft and succeeds in that. -/
def naming? : Session → SessionCall → Option (String × Aggregation)
  | .draft _, .draft c => c.check.toOption.bind fun e => e.item? .aggregations
  | _, _ => none

/-- What the calls of a session give to names, in order. -/
def namings : Session → List SessionCall → List (String × Aggregation)
  | _, [] => []
  | s, c :: calls => (s.naming? c).toList ++ namings ((s.call c).toOption.getD s) calls

theorem item?_eq_some_iff {e : Edit} {name : String} {a : Aggregation} :
    e.item? .aggregations = some (name, a) ↔ e = .aggregate name a := by
  cases e with
  | aggregate other b =>
    show some (other, b) = some (name, a) ↔ _
    simp
  | _ => simp [Edit.item?]

theorem eq_ok_of_toOption {α : Type} {x : Outcome α} {a : α} (h : x.toOption = some a) :
    x = .ok a := by
  cases x with
  | error _ => cases h
  | ok b => exact congrArg _ (Option.some.inj h)

theorem naming?_eq_some {s : Session} {c : SessionCall} {name : String} {a : Aggregation} :
    s.naming? c = some (name, a) ↔
      ∃ d call, s = .draft d ∧ c = .draft call ∧ call.Names name a := by
  constructor
  · intro h
    unfold naming? at h
    split at h
    · rename_i d call
      obtain ⟨e, he, hitem⟩ := Option.bind_eq_some_iff.1 h
      obtain rfl := item?_eq_some_iff.1 hitem
      exact ⟨d, call, rfl, rfl, check_eq_aggregate_iff.1 (eq_ok_of_toOption he)⟩
    · cases h
  · rintro ⟨d, call, rfl, rfl, h⟩
    rw [naming?, check_eq_aggregate_iff.2 h]
    rfl

/-- A call changes the aggregations by what it gives to a name, and by nothing else. -/
theorem aggregations_call (s : Session) (c : SessionCall) :
    ((s.call c).toOption.getD s).base.aggregations
      = (s.naming? c).toList.foldl (fun items e => putNamed items e.1 e.2)
        s.base.aggregations := by
  cases s with
  | draft d =>
    cases c with
    | draft call =>
      simp only [Session.call, Draft.call, naming?]
      cases call.check with
      | error _ => rfl
      | ok e => cases e <;> rfl
    | _ => rfl
  | bool b =>
    cases c with
    | clause clause predicate =>
      simp only [Session.call, BoolDraft.call, naming?]
      cases Predicate.ensure predicate with
      | error _ => rfl
      | ok p => cases clause <;> rfl
    | _ => rfl

theorem aggregations_run (calls : List SessionCall) (s : Session) :
    (s.run calls).base.aggregations
      = (s.namings calls).foldl (fun items e => putNamed items e.1 e.2) s.base.aggregations := by
  induction calls generalizing s with
  | nil => rfl
  | cons c calls ih =>
    rw [namings, List.foldl_append, ← aggregations_call]
    exact ih _

theorem keeps_run (calls : List SessionCall) :
    Keeps (namings (.draft {}) calls) (run (.draft {}) calls).base.aggregations := by
  rw [aggregations_run]
  exact Keeps.nil.foldl _

end Session

/-! ## What is built of a draft -/

theorem Request.get?_aggs (r : Request) (query : Value) :
    Entries.get? (Entries.ofTexts (present (r.parts query))) "aggs"
      = if r.aggregations = [] then none else some (.map (Entries.ofTexts
        (r.aggregations.map fun (name, a) => (name, a.document)))) := by
  have hnone : Entries.get? (Entries.ofTexts (present [])) "aggs" = none := rfl
  simp only [Request.parts, get?_present_cons, hnone, String.reduceEq, if_false, if_true,
    Option.or_none]
  cases r.aggregations <;> rfl

theorem Request.aggregationMap_eq (r : Request) :
    r.aggregationMap = if r.aggregations = [] then .null else .map (Entries.ofTexts
      (r.aggregations.map fun (name, a) => (name, a.toValue))) := by
  unfold Request.aggregationMap Entries.ofTexts
  cases r.aggregations <;> simp

theorem Request.exists_document_iff (r : Request) :
    (∃ doc, r.document = .ok doc) ↔ ∃ query, r.predicate.toValue.predicateDocument = .ok query := by
  constructor
  · rintro ⟨doc, hdoc⟩
    obtain ⟨p, hp, hdoc⟩ := bind_eq_ok.1 hdoc
    obtain ⟨query, hquery, -⟩ := bind_eq_ok.1 hdoc
    have hpredicate : r.toValue.field "predicate" = .ok r.predicate.toValue := rfl
    obtain rfl := Except.ok.inj (hpredicate.symm.trans hp)
    exact ⟨query, hquery⟩
  · rintro ⟨query, hquery⟩
    exact ⟨_, Request.document_eq hquery⟩

/-- What every session keeps of the aggregations that its calls give to names: each trimmed name
once, in the order in which the names were first given, with what was last given to it. Calls that
fail, calls in a sub-draft and all other calls leave no trace. The draft, the built search and its
document list the same; the last two leave the list out exactly if no call gave an aggregation. -/
theorem Session.run_aggregations (calls : List SessionCall) :
    let d := (Session.run (.draft {}) calls).base
    let given := Session.namings (.draft {}) calls
    (∀ (s : Session) c name a, s.naming? c = some (name, a) ↔
        ∃ d call, s = .draft d ∧ c = .draft call ∧ call.Names name a)
      ∧ Keeps given d.aggregations
      ∧ d.toValue.field "aggregation_items"
        = .ok (.tuple (d.aggregations.map fun (name, a) => .tuple [.text name, a.toValue]))
      ∧ d.build.toValue.field "aggregations"
        = .ok (if given = [] then .null
          else .map (Entries.ofTexts (d.aggregations.map fun (name, a) => (name, a.toValue))))
      ∧ ((∃ doc, d.build.document = .ok doc)
        ↔ ∃ query, d.build.predicate.toValue.predicateDocument = .ok query)
      ∧ ∀ doc, d.build.document = .ok doc → ∃ es, doc = .map es
        ∧ Entries.get? es "aggs" = if given = [] then none
          else some (.map (Entries.ofTexts
            (d.aggregations.map fun (name, a) => (name, a.document)))) := by
  intro d given
  have hkeeps : Keeps given d.aggregations := Session.keeps_run calls
  have hnil : d.build.aggregations = [] ↔ given = [] := hkeeps.eq_nil_iff
  refine ⟨fun _ _ _ _ => Session.naming?_eq_some, hkeeps, rfl, ?_, d.build.exists_document_iff, ?_⟩
  · have hmap := d.build.aggregationMap_eq
    simp only [hnil] at hmap
    exact congrArg Except.ok hmap
  · intro doc hdoc
    obtain ⟨query, hquery⟩ := d.build.exists_document_iff.1 ⟨doc, hdoc⟩
    obtain rfl := Except.ok.inj (hdoc.symm.trans (Request.document_eq hquery))
    have haggs := d.build.get?_aggs query
    simp only [hnil] at haggs
    exact ⟨_, rfl, haggs⟩

/-- Names that are given again, padded or not, keep their places. -/
theorem Session.run_aggregations_repeated :
    let price := Aggregation.avg (.text "price")
    let tags := Aggregation.terms (.text "tag") (.int 5)
    let calls : List SessionCall := [.draft (.avg (.text " price ") (.text "cost")),
      .draft (.termsAggregation (.text "tags") (.text "tag") (.int (-1))), .openBool,
      .draft (.sum (.text "sub") (.text "cost")), .done, .draft (.size (.int 0)),
      .draft (.termsAggregation (.text "tags") (.text " tag") (.int 5)),
      .draft (.aggregate (.text "price\t") price.toValue)]
    let d := (Session.run (.draft {}) calls).base
    d.aggregations = [("price", price), ("tags", tags)]
      ∧ ∃ doc es, d.build.document = .ok doc ∧ doc = .map es
        ∧ Entries.get? es "aggs" = some (.map (Entries.ofTexts
          [("price", price.document), ("tags", tags.document)])) := by
  intro price tags calls d
  have hlist : d.aggregations = [("price", price), ("tags", tags)] := rfl
  obtain ⟨-, hkeeps, -, -, hdocument, haggs⟩ := Session.run_aggregations calls
  obtain ⟨doc, hdoc⟩ := hdocument.2 ⟨_, rfl⟩
  obtain ⟨es, hes, hget⟩ := haggs doc hdoc
  refine ⟨hlist, doc, es, hdoc, hes, hget.trans ?_⟩
  have hgiven : Session.namings (.draft {}) calls ≠ [] :=
    hkeeps.eq_nil_iff.not.1 (hlist ▸ List.cons_ne_nil _ _)
  rw [if_neg hgiven]
  rfl

end QueryDraft.Search
