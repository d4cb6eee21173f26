import QueryDraft.Config.Definition
import QueryDraft.Proofs.PredicateOrder

/-!
# Definitions with mappings in another order

A definition may be written with its keys, and with those of the mappings in it that have keys of
their own meaning, in another order (`PartRearranged`); mappings from names that callers choose keep
theirs. Every reader looks names up, so it reads the same from both and reports the same fault, and
so does the reader of the whole definition (`Definition.read_eq_of_rearranged`).
-/

namespace QueryDraft.Config

open Entries (get? has)

/-- How the value of a part of a definition may be put into another order, by the name of the
part. -/
def PartRearranged : Option String → Value → Value → Prop
  | some "join" | some "where" | some "having" | some "order_by" => Value.Members Value.Permuted
  | some "insert" | some "update" | some "highlight" => Value.Permuted
  | some "query" => Predicate.Rearranged
  | some "bool" => Value.Rearranged fun _ => Value.Members Predicate.Rearranged
  | some "filter_range" => Value.Entrywise Value.Permuted
  | some "aggs" => Value.Entrywise (Value.Entrywise Value.Permuted)
  | _ => Eq

/-! ## Readers of one value -/

section Readers

variable (key : String) (v v' : Value)

@[simp] theorem expectMapping_map (es : Entries) :
    expectMapping key (.map es) = .ok es := rfl

theorem readJoin_eq (h : v.Permuted v') :
    Relational.readJoin key v = Relational.readJoin key v' := by
  cases h with
  | same => rfl
  | map h =>
    simp only [Relational.readJoin, expectMapping_map, ok_bind, h.rejectKeys_eq,
      h.requireTextAt_eq, h.getOr_eq]

theorem readComparison_eq {es es' : Entries} (h : es.Permuted es') :
    Relational.readComparison key es = Relational.readComparison key es' := by
  simp only [Relational.readComparison, h.get?_eq, h.require_eq, h.getOr_eq]

theorem readCondition_eq (h : v.Permuted v') :
    Relational.readCondition key v = Relational.readCondition key v' := by
  cases h with
  | same => rfl
  | map h =>
    simp only [Relational.readCondition, expectMapping_map, ok_bind, h.rejectKeys_eq,
      h.requireTextAt_eq, readComparison_eq key h, h.getOr_eq]

theorem readHaving_eq (h : v.Permuted v') :
    Relational.readHaving key v = Relational.readHaving key v' := by
  cases h with
  | same => rfl
  | map h =>
    simp only [Relational.readHaving, expectMapping_map, ok_bind, h.rejectKeys_eq,
      h.requireTextAt_eq, readComparison_eq key h]

theorem readOrderBy_eq (h : v.Permuted v') :
    Relational.readOrderBy key v = Relational.readOrderBy key v' := by
  cases h with
  | same => rfl
  | map h =>
    simp only [Relational.readOrderBy, Value.text?, expectMapping_map, ok_bind, h.rejectKeys_eq,
      h.requireTextAt_eq, h.getOr_eq]

theorem readValues_eq (call : Value → Value → Sql.Call) (key : String) (v v' : Value)
    (h : v.Permuted v') :
    Relational.readValues call key v = Relational.readValues call key v' := by
  cases h with
  | same => rfl
  | map h =>
    simp only [Relational.readValues, expectMapping_map, ok_bind, h.rejectKeys_eq,
      h.requireTextAt_eq, h.require_eq]

theorem readPredicate_eq (h : Predicate.Rearranged v v') :
    Search.readPredicate key v = Search.readPredicate key v' := by
  have hread := Predicate.ofDocument_eq h
  rcases h.eq_or_map with rfl | ⟨es, es', rfl, rfl⟩
  · rfl
  · simp only [Search.readPredicate, expectMapping_map, ok_bind, hread]

theorem readQuery_eq (h : Predicate.Rearranged v v') :
    Search.readQuery key v = Search.readQuery key v' := by
  rw [Search.readQuery, Search.readQuery, readPredicate_eq key v v' h]

theorem readFilterRange_eq (key : String) (field v v' : Value) (h : v.Permuted v') :
    Search.readFilterRange key field v = Search.readFilterRange key field v' := by
  have hbounds := Bounds.coerce_eq h
  cases h with
  | same => rfl
  | map h =>
    simp only [Search.readFilterRange, expectMapping_map, ok_bind, QueryDraft.Search.Call.check,
      QueryDraft.Search.rangeOf, hbounds]

theorem readAggregation_eq (key : String) (name v v' : Value) (h : v.Entrywise Value.Permuted v') :
    Search.readAggregation key name v = Search.readAggregation key name v' := by
  have hread := Aggregation.ofDocument_eq h
  cases h with
  | same => rfl
  | map h => simp only [Search.readAggregation, expectMapping_map, ok_bind, hread]

theorem readHighlight_eq (h : v.Permuted v') :
    Search.readHighlight key v = Search.readHighlight key v' := by
  cases h with
  | same => rfl
  | map h =>
    simp only [Search.readHighlight, Search.readHighlightOptions, expectMapping_map, ok_bind,
      h.rejectKeys_eq, h.require_eq, h.getOr_eq]

end Readers

/-! ## Lists and mappings of parts -/

section Parts

variable {α : Type} {key : String} {R : Value → Value → Prop}

theorem places_eq {read : String → Value → Outcome α}
    (hread : ∀ key v v', R v v' → read key v = read key v') {vs vs' : List Value}
    (h : List.Forall₂ R vs vs') :
    ∀ index, places read key index vs = places read key index vs' := by
  induction h with
  | nil => exact fun _ => rfl
  | cons hv _ ih =>
    intro index
    rw [places, places, hread _ _ _ hv, ih]

/-- Members that are read the same make lists that are read the same. -/
theorem expectList_places_eq {read : String → Value → Outcome α}
    (hread : ∀ key v v', R v v' → read key v = read key v') {v v' : Value} (h : v.Members R v') :
    expectList key v >>= places read key 0 = expectList key v' >>= places read key 0 := by
  cases h with
  | same => rfl
  | list h =>
    show places read key 0 _ = places read key 0 _
    exact places_eq hread h 0

/-- Values that are read the same make mappings that are read the same. -/
theorem expectMapping_mapM_eq {read : Value × Value → Outcome α}
    (hread : ∀ k v v', R v v' → read (k, v) = read (k, v')) {v v' : Value}
    (h : v.Entrywise R v') :
    expectMapping key v >>= List.mapM read = expectMapping key v' >>= List.mapM read := by
  cases h with
  | same => rfl
  | map h =>
    simp only [expectMapping_map, ok_bind]
    induction h with
    | nil => rfl
    | @cons e e' es es' he _ ih =>
      obtain ⟨k, v⟩ := e
      obtain ⟨k', v'⟩ := e'
      obtain ⟨rfl, hv⟩ : k = k' ∧ R v v' := he
      rw [List.mapM_cons, List.mapM_cons, hread k v v' hv, ih]

end Parts

/-! ## The parts of a definition -/

/-- What two definitions share that are one up to order: they have the same keys, and the parts
under a name are related as parts of that name may be. -/
structure SameParts (R : Option String → Value → Value → Prop) (es es' : Entries) : Prop where
  keys : (Entries.keys es).Perm (Entries.keys es')
  parts : ∀ name, Option.Rel (R (some name)) (get? es name) (get? es' name)

namespace SameParts

variable {R : Option String → Value → Value → Prop} {S : Value → Value → Prop}
  {es es' mid : Entries} {key name : String}

theorem of_related (h : es.Related R mid) (hperm : mid.Permuted es') : SameParts R es es' where
  keys := by
    rw [h.keys_eq]
    exact hperm.keys_perm
  parts name := by
    rw [← hperm.get?_eq]
    exact h.get?_rel name

theorem get?_cases (h : SameParts R es es') (name : String) :
    (get? es name = none ∧ get? es' name = none)
      ∨ ∃ v v', get? es name = some v ∧ get? es' name = some v' ∧ R (some name) v v' := by
  have hpart := h.parts name
  cases hv : get? es name <;> cases hv' : get? es' name <;> rw [hv, hv'] at hpart <;> cases hpart
  · exact .inl ⟨rfl, rfl⟩
  · exact .inr ⟨_, _, rfl, rfl, ‹_›⟩

theorem has_eq (h : SameParts R es es') (name : String) : has es name = has es' name := by
  rcases h.get?_cases name with ⟨hv, hv'⟩ | ⟨v, v', hv, hv', -⟩ <;> simp [has, hv, hv']

theorem getOr_rel (h : SameParts R es es') (hR : R (some name) = S) {default : Value}
    (hdefault : S default default) : S (getOr es name default) (getOr es' name default) := by
  subst hR
  rcases h.get?_cases name with ⟨hv, hv'⟩ | ⟨v, v', hv, hv', hR⟩
  · rwa [getOr, getOr, hv, hv']
  · rwa [getOr, getOr, hv, hv']

theorem requireTextAt_eq (h : SameParts R es es') (hR : R (some name) = Eq) :
    requireTextAt es key name = requireTextAt es' key name := by
  rcases h.get?_cases name with ⟨hv, hv'⟩ | ⟨v, v', hv, hv', hvv'⟩
  · simp only [requireTextAt, require, hv, hv']
  · rw [hR] at hvv'
    simp only [requireTextAt, require, hv, hv', hvv']

theorem optional_eq (h : SameParts R es es') {read : String → Value → Outcome Sql.Edit}
    (hread : ∀ key v v', S v v' → read key v = read key v') (hR : R (some name) = S) :
    Relational.optional es key name read = Relational.optional es' key name read := by
  subst hR
  rcases h.get?_cases name with ⟨hv, hv'⟩ | ⟨v, v', hv, hv', hR⟩
  · simp only [Relational.optional, hv, hv']
  · simp only [Relational.optional, hv, hv', hread _ _ _ hR]

theorem items_eq (h : SameParts R es es') {read : String → Value → Outcome Sql.Edit}
    (hread : ∀ key v v', S v v' → read key v = read key v')
    (hR : R (some name) = Value.Members S) :
    Relational.items es key name read = Relational.items es' key name read :=
  expectList_places_eq hread (h.getOr_rel hR (.same _))

theorem search_optional_eq (h : SameParts R es es')
    {read : String → Value → Outcome QueryDraft.Search.Edit}
    (hread : ∀ key v v', S v v' → read key v = read key v') (hR : R (some name) = S) :
    Search.optional es key name read = Search.optional es' key name read := by
  subst hR
  rcases h.get?_cases name with ⟨hv, hv'⟩ | ⟨v, v', hv, hv', hR⟩
  · simp only [Search.optional, hv, hv']
  · simp only [Search.optional, hv, hv', hread _ _ _ hR]

theorem entries_eq (h : SameParts R es es')
    {read : String → Value → Value → Outcome QueryDraft.Search.Edit}
    (hread : ∀ key k v v', S v v' → read key k v = read key k v')
    (hR : R (some name) = Value.Entrywise S) :
    Search.entries es key name read = Search.entries es' key name read :=
  expectMapping_mapM_eq (fun k v v' => hread _ k v v') (h.getOr_rel hR (.same _))

end SameParts

theorem readBool_eq (key : String) (v v' : Value)
    (h : v.Rearranged (fun _ => Value.Members Predicate.Rearranged) v') :
    Search.readBool key v = Search.readBool key v' := by
  cases h with
  | same => rfl
  | @map es mid es' h hperm =>
    have hparts := SameParts.of_related h hperm
    have hclause (name : String) : Search.readClause es key name = Search.readClause es' key name :=
      expectList_places_eq readPredicate_eq (hparts.getOr_rel rfl (.same (.list [])))
    simp only [Search.readBool, expectMapping_map, ok_bind, rejectKeys_eq hparts.keys, hclause]

section Definition

variable {key : String} {es es' : Entries}

theorem checkVerbs_eq (h : SameParts PartRearranged es es') :
    Relational.checkVerbs key es = Relational.checkVerbs key es' := by
  have hhas : has es = has es' := funext h.has_eq
  rw [Relational.checkVerbs, Relational.checkVerbs, hhas]

theorem relational_edits_eq (h : SameParts PartRearranged es es') :
    Relational.edits key es = Relational.edits key es' := by
  have hplain {read : String → Value → Outcome Sql.Edit} {name : String}
      (hR : PartRearranged (some name) = Eq) :
      Relational.optional es key name read = Relational.optional es' key name read :=
    h.optional_eq (fun _ _ _ hv => by rw [hv]) hR
  unfold Relational.edits
  rw [hplain rfl, hplain rfl, h.items_eq readJoin_eq rfl, h.items_eq readCondition_eq rfl,
    hplain rfl, h.items_eq readHaving_eq rfl, h.items_eq readOrderBy_eq rfl, hplain rfl,
    hplain rfl, checkVerbs_eq h, h.optional_eq (readValues_eq .insert) rfl,
    h.optional_eq (readValues_eq .update) rfl, hplain rfl]

theorem search_edits_eq (h : SameParts PartRearranged es es') :
    Search.edits key es = Search.edits key es' := by
  have hplain {read : String → Value → Outcome QueryDraft.Search.Edit} {name : String}
      (hR : PartRearranged (some name) = Eq) :
      Search.optional es key name read = Search.optional es' key name read :=
    h.search_optional_eq (fun _ _ _ hv => by rw [hv]) hR
  have hpredicates : Search.checkPredicates key es = Search.checkPredicates key es' := by
    rw [Search.checkPredicates, Search.checkPredicates, h.has_eq, h.has_eq]
  have hfilter : Search.entries es key "filter" Search.readFilter
      = Search.entries es' key "filter" Search.readFilter := by
    have hparts : getOr es "filter" (.map []) = getOr es' "filter" (.map []) :=
      h.getOr_rel (S := Eq) rfl rfl
    rw [Search.entries, Search.entries, hparts]
  have hsort : Search.readSorts es key = Search.readSorts es' key := by
    have hparts : getOr es "sort" (.list []) = getOr es' "sort" (.list []) :=
      h.getOr_rel (S := Eq) rfl rfl
    rw [Search.readSorts, Search.readSorts, hparts]
  unfold Search.edits
  rw [hplain rfl, hpredicates, h.search_optional_eq readQuery_eq rfl,
    h.search_optional_eq readBool_eq rfl, hfilter, h.entries_eq readFilterRange_eq rfl, hsort,
    hplain rfl, hplain rfl, hplain rfl, h.entries_eq readAggregation_eq rfl,
    h.search_optional_eq readHighlight_eq rfl]

theorem readDraft_eq (h : SameParts PartRearranged es es') (kind : String) :
    Definition.readDraft key kind es = Definition.readDraft key kind es' := by
  unfold Definition.readDraft
  simp only [rejectKeys_eq h.keys, relational_edits_eq h, search_edits_eq h]

/-- The order of the keys makes no difference to the definition that is read, and none to the fault
that is reported. The keys of all mappings in other order are told apart, and they are texts,
numbers, truths, days or none. -/
theorem Definition.read_eq_of_rearranged {v v' : Value} (h : v.Rearranged PartRearranged v')
    (key : String) : Definition.read key v = Definition.read key v' := by
  cases h with
  | same => rfl
  | @map es mid es' h hperm =>
    have hparts := SameParts.of_related h hperm
    have hname : requireTextAt es key "name" = requireTextAt es' key "name" :=
      hparts.requireTextAt_eq rfl
    have htype : requireTextAt es key "type" = requireTextAt es' key "type" :=
      hparts.requireTextAt_eq rfl
    simp only [Definition.read, expectMapping_map, ok_bind, hname, htype, readDraft_eq hparts]

/-- A definition, a `bool` body in it and the bounds in that, each in another order. -/
theorem Definition.read_eq_of_swapped_bool :
    let bounds := fun (fields : List (String × Value)) => Value.map (Entries.ofTexts fields)
    let range := fun (fields : List (String × Value)) =>
      Value.map [(.text "range", .map [(.text "price", bounds fields)])]
    let all := Value.map [(.text "match_all", .null)]
    let bool := fun (clauses : List (String × Value)) =>
      Value.map [(.text "bool", .map (Entries.ofTexts clauses))]
    let query := bool [("must", .list [range [("gte", .int 1), ("lt", .int 9)]]), ("filter", all)]
    let query' := bool [("filter", all), ("must", .list [range [("lt", .int 9), ("gte", .int 1)]])]
    let parts := fun (query : Value) =>
      [("name", Value.text "recent"), ("query", query), ("type", .text "search")]
    Definition.read "queries[0]" (.map (Entries.ofTexts (parts query)))
      = Definition.read "queries[0]" (.map (Entries.ofTexts (parts query').reverse)) := by
  intro bounds range all bool query query' parts
  have hbounds : Value.Permuted (bounds [("gte", .int 1), ("lt", .int 9)])
      (bounds [("lt", .int 9), ("gte", .int 1)]) :=
    .map (Entries.permuted_ofTexts (.swap ..) (by decide))
  have hprice : Entries.Related (fun _ => Value.Permuted)
      [(.text "price", bounds [("gte", .int 1), ("lt", .int 9)])]
      [(.text "price", bounds [("lt", .int 9), ("gte", .int 1)])] := .cons ⟨rfl, hbounds⟩ .nil
  have hrange : Predicate.Rearranged (range [("gte", .int 1), ("lt", .int 9)])
      (range [("lt", .int 9), ("gte", .int 1)]) :=
    .range rfl (.map hprice (Entries.permuted_ofTexts (.refl [("price", _)]) (by decide)))
  have hclauses : Predicate.ClausesRearranged
      (Entries.ofTexts
        [("must", .list [range [("gte", .int 1), ("lt", .int 9)]]), ("filter", all)])
      (Entries.ofTexts
        [("must", .list [range [("lt", .int 9), ("gte", .int 1)]]), ("filter", all)]) :=
    .cons (.list (.cons hrange .nil)) (.cons (.one (.same all)) .nil)
  have hquery : Predicate.Rearranged query query' :=
    .bool rfl hclauses (Entries.permuted_ofTexts (.swap ..) (by decide))
  have hparts : Entries.Related PartRearranged (Entries.ofTexts (parts query))
      (Entries.ofTexts (parts query')) :=
    .cons ⟨rfl, rfl⟩ (.cons ⟨rfl, hquery⟩ (.cons ⟨rfl, rfl⟩ .nil))
  exact Definition.read_eq_of_rearranged
    (.map hparts (Entries.permuted_ofTexts (List.reverse_perm _).symm (by decide))) _

end Definition

end QueryDraft.Config
