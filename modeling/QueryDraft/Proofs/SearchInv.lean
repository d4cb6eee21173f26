import QueryDraft.Part.Make
import QueryDraft.Proofs.Checks
import QueryDraft.Query

/-!
# The invariant of a session

As with statements, what a call on a draft of a search hands to an edit has passed a check
(`check_wellFormed`), and an edit of this kind keeps a draft of this kind (`WellFormed.edit`). A
sub-draft never touches the draft that it was opened on, so every session keeps it
(`Session.wellFormed_run`). Bounds and highlights may be handed in ready, and a check takes them as
they are; they have to be made by their own rules (`Value.IsMade`).
-/

namespace QueryDraft

open Text (IsTrimmed)

/-! ## Parts that are handed in -/

/-- Whether a value, if it stands for bounds or for a highlight, was made by their rules. -/
structure Value.IsMade (v : Value) : Prop where
  bounds : ∀ b, Bounds.ofValue? v = some b →
    ∃ gte gt lte lt, Bounds.make gte gt lte lt = .ok b
  highlight : ∀ h, Highlight.ofValue? v = some h →
    ∃ fields pre post size, Highlight.make fields pre post size = .ok h

theorem Bounds.isEmpty_of_coerce {v : Value} {b : Bounds} (hv : v.IsMade)
    (h : coerce v = .ok b) : b.isEmpty = false := by
  unfold coerce at h
  split at h
  · rename_i b' hb'
    obtain rfl := Except.ok.inj h
    obtain ⟨gte, gt, lte, lt, hmake⟩ := hv.bounds _ hb'
    exact isEmpty_of_make hmake
  · rw [check_bind_eq_ok] at h
    exact isEmpty_of_make h.2
  · simp at h

/-- Whether a highlight has fields, all of them trimmed. -/
def Highlight.HasFields (h : Highlight) : Prop := h.fields ≠ [] ∧ ∀ s ∈ h.fields, IsTrimmed s

namespace Highlight

theorem hasFields_of_make {fields pre post size : Value} {h : Highlight}
    (hmake : make fields pre post size = .ok h) : h.HasFields := by
  obtain ⟨hnames, hne, -⟩ := make_eq_ok.1 hmake
  exact ⟨hne, isTrimmed_of_requireCollection hnames⟩

theorem hasFields_of_coerce {v : Value} {h : Highlight} (hv : v.IsMade)
    (hcoerce : coerce v = .ok h) : h.HasFields := by
  unfold coerce at hcoerce
  split at hcoerce
  · rename_i h' hh'
    obtain rfl := Except.ok.inj hcoerce
    obtain ⟨fields, pre, post, size, hmake⟩ := hv.highlight _ hh'
    exact hasFields_of_make hmake
  · rw [check_bind_eq_ok] at hcoerce
    obtain ⟨-, hcoerce⟩ := hcoerce
    dsimp only at hcoerce
    split_ifs at hcoerce
    · simp [refuse] at hcoerce
    · simp only [bind_eq_ok] at hcoerce
      obtain ⟨pre, -, post, -, hmake⟩ := hcoerce
      exact hasFields_of_make hmake
  · exact hasFields_of_make hcoerce

end Highlight

/-! ## Filters -/

/-- The predicates that filters are: about a trimmed field, and a range has a bound. -/
inductive Predicate.IsFilter : Predicate → Prop
  | term {name : String} (value : Value) (h : IsTrimmed name) : IsFilter (.term (.text name) value)
  | terms {name : String} (values : List Value) (h : IsTrimmed name) :
    IsFilter (.terms (.text name) values)
  | range {name : String} {b : Bounds} (h : IsTrimmed name) (hb : b.isEmpty = false) :
    IsFilter (.range (.text name) b.toValue)

namespace Search

theorem requireField_eq_ok {v w : Value} (h : requireField v = .ok w) :
    ∃ name, w = .text name ∧ IsTrimmed name := by
  obtain ⟨name, hname, rfl⟩ := map_eq_ok.1 h
  exact ⟨name, rfl, isTrimmed_of_requireText hname⟩

theorem isFilter_filterOf {name : String} (h : IsTrimmed name) (value : Value) :
    (filterOf (.text name) value).IsFilter := by
  unfold filterOf
  split
  · exact .terms _ h
  · exact .term _ h

/-- A filter is what the rule for several values makes of a collection, and that rule refuses all
other values. -/
theorem filterOf_eq (field value : Value) :
    (∀ vs, value.collection? = some vs →
        Predicate.makeTerms field value = .ok (filterOf field value))
      ∧ (value.collection? = none → filterOf field value = .term field value
        ∧ Predicate.makeTerms field value = refuse .termsValues) := by
  unfold filterOf Predicate.makeTerms
  cases value.collection? <;> simp

theorem names_putNamed {α : Type} (items : List (String × α)) (name : String) (item : α) :
    (putNamed items name item).map (·.1)
      = if name ∈ items.map (·.1) then items.map (·.1) else items.map (·.1) ++ [name] := by
  induction items with
  | nil => rfl
  | cons e items ih =>
    obtain ⟨other, old⟩ := e
    rw [putNamed]
    by_cases hother : other = name
    · subst hother
      simp
    · rw [if_neg hother, List.map_cons, ih]
      split_ifs <;> simp_all [eq_comm]

theorem nodup_putNamed {α : Type} {items : List (String × α)} (h : (items.map (·.1)).Nodup)
    (name : String) (item : α) : ((putNamed items name item).map (·.1)).Nodup := by
  rw [names_putNamed]
  split_ifs with hold
  · exact h
  · refine List.nodup_append.2 ⟨h, by simp, fun s hs s' hs' => ?_⟩
    rw [List.mem_singleton.1 hs']
    exact ne_of_mem_of_not_mem hs hold

/-! ## The steps -/

/-- Whether what a call is handed ready was made by its rules. -/
def Call.Made : Call → Prop
  | .filterRange _ bounds => bounds.IsMade
  | .highlight spec => spec.IsMade
  | _ => True

/-- What a check makes sure of about an edit. -/
def Edit.WellFormed : Edit → Prop
  | .index name | .aggregate name _ => IsTrimmed name
  | .predicate _ => True
  | .filter p => p.IsFilter
  | .sort o => IsTrimmed o.field
  | .size n | .start n => 0 ≤ n
  | .source fields => ∀ s ∈ fields, IsTrimmed s
  | .highlight h => h.HasFields

theorem aggregateAs_wellFormed {name : Value} {a : Aggregation} {e : Edit}
    (h : aggregateAs name a = .ok e) : e.WellFormed := by
  simp only [aggregateAs, bind_eq_ok, pure_eq_ok] at h
  obtain ⟨name, hname, rfl⟩ := h
  exact isTrimmed_of_requireText hname

theorem check_wellFormed {c : Call} {e : Edit} (hc : c.Made) (h : c.check = .ok e) :
    e.WellFormed := by
  cases c with
  | index name =>
    simp only [Call.check, bind_eq_ok, pure_eq_ok] at h
    obtain ⟨name, hname, rfl⟩ := h
    exact isTrimmed_of_requireText hname
  | matchAll => exact Except.ok.inj h ▸ trivial
  | query p | matching field value | phrase field words | multiMatch value fields
  | term field value | range field bounds =>
    simp only [Call.check, bind_eq_ok, pure_eq_ok] at h
    obtain ⟨p, -, rfl⟩ := h
    trivial
  | terms field values =>
    simp only [Call.check, bind_eq_ok, pure_eq_ok] at h
    obtain ⟨field, -, p, -, rfl⟩ := h
    trivial
  | filter field value =>
    simp only [Call.check, bind_eq_ok, pure_eq_ok] at h
    obtain ⟨w, hw, rfl⟩ := h
    obtain ⟨name, rfl, hname⟩ := requireField_eq_ok hw
    exact isFilter_filterOf hname value
  | filterRange field bounds =>
    simp only [Call.check, rangeOf, bind_eq_ok, pure_eq_ok] at h
    obtain ⟨p, ⟨w, hw, b, hb, rfl⟩, rfl⟩ := h
    obtain ⟨name, rfl, hname⟩ := requireField_eq_ok hw
    exact .range hname (Bounds.isEmpty_of_coerce hc hb)
  | sort field order =>
    simp only [Call.check, bind_eq_ok, pure_eq_ok] at h
    obtain ⟨name, hname, o, -, rfl⟩ := h
    exact isTrimmed_of_requireText hname
  | size count | start offset =>
    simp only [Call.check, bind_eq_ok, pure_eq_ok] at h
    obtain ⟨n, hn, rfl⟩ := h
    exact nonneg_of_requireCount hn
  | source fields =>
    simp only [Call.check, bind_eq_ok, pure_eq_ok] at h
    obtain ⟨names, hnames, rfl⟩ := h
    exact isTrimmed_of_requireTexts hnames
  | highlight spec =>
    simp only [Call.check, bind_eq_ok, pure_eq_ok] at h
    obtain ⟨s, hs, rfl⟩ := h
    exact Highlight.hasFields_of_coerce hc hs
  | aggregate name spec =>
    simp only [Call.check, bind_eq_ok, pure_eq_ok] at h
    obtain ⟨name, hname, a, -, rfl⟩ := h
    exact isTrimmed_of_requireText hname
  | avg name field | sum name field =>
    simp only [Call.check, bind_eq_ok] at h
    obtain ⟨field, -, h⟩ := h
    exact aggregateAs_wellFormed h
  | termsAggregation name field size =>
    simp only [Call.check, bind_eq_ok] at h
    obtain ⟨field, -, count, -, a, -, h⟩ := h
    exact aggregateAs_wellFormed h
  | dateHistogram name field interval =>
    simp only [Call.check, bind_eq_ok] at h
    obtain ⟨interval, -, field, -, h⟩ := h
    exact aggregateAs_wellFormed h

namespace Draft

/-- The invariant. Counts are whole numbers, and orders are words of their vocabulary, by their
types. -/
structure WellFormed (d : Draft) : Prop where
  index : ∀ name, d.index = some name → IsTrimmed name
  filters : ∀ p ∈ d.filters, p.IsFilter
  sort : ∀ o ∈ d.sort, IsTrimmed o.field
  size : ∀ n, d.size = some n → 0 ≤ n
  start : ∀ n, d.start = some n → 0 ≤ n
  names : ∀ name ∈ d.aggregations.map (·.1), IsTrimmed name
  distinct : (d.aggregations.map (·.1)).Nodup
  highlight : ∀ h, d.highlight = some h → h.HasFields
  source : ∀ fields, d.source = some fields → ∀ s ∈ fields, IsTrimmed s

theorem wellFormed_empty : ({} : Draft).WellFormed := by
  constructor <;> simp

theorem WellFormed.edit {d : Draft} {e : Edit} (hd : d.WellFormed) (he : e.WellFormed) :
    (d.edit e).WellFormed := by
  cases e with
  | index name => exact { hd with index := by rintro _ ⟨⟩; exact he }
  | predicate p => exact { hd with }
  | filter p =>
    exact { hd with
      filters := List.forall_mem_append.2 ⟨hd.filters, List.forall_mem_singleton.2 he⟩ }
  | sort o =>
    exact { hd with sort := List.forall_mem_append.2 ⟨hd.sort, List.forall_mem_singleton.2 he⟩ }
  | size n => exact { hd with size := by rintro _ ⟨⟩; exact he }
  | start n => exact { hd with start := by rintro _ ⟨⟩; exact he }
  | source fields => exact { hd with source := by rintro _ ⟨⟩; exact he }
  | highlight h => exact { hd with highlight := by rintro _ ⟨⟩; exact he }
  | aggregate name a =>
    refine { hd with names := ?_, distinct := nodup_putNamed hd.distinct name a }
    rw [Draft.edit, names_putNamed]
    split_ifs with hold
    · exact hd.names
    · exact List.forall_mem_append.2 ⟨hd.names, List.forall_mem_singleton.2 he⟩

theorem WellFormed.call {d d' : Draft} {c : Call} (hd : d.WellFormed) (hc : c.Made)
    (h : d.call c = .ok d') : d'.WellFormed := by
  obtain ⟨e, he, rfl⟩ := map_eq_ok.1 h
  exact hd.edit (check_wellFormed hc he)

end Draft

/-! ## Sessions -/

/-- Whether what a call in a session is handed ready was made by its rules. -/
def SessionCall.Made : SessionCall → Prop
  | .draft c => c.Made
  | _ => True

namespace Session

/-- The draft of a session, also while a sub-draft is open on it. -/
def base : Session → Draft
  | .draft d => d
  | .bool b => b.parent

/-- The predicates of a session: the primary one, and those of an open sub-draft. -/
def predicates : Session → List Predicate
  | .draft d => [d.predicate]
  | .bool b => b.parent.predicate :: (b.must ++ b.mustNot ++ b.should ++ b.filter)

theorem wellFormed_call {s s' : Session} {c : SessionCall} (hs : s.base.WellFormed) (hc : c.Made)
    (h : s.call c = .ok s') : s'.base.WellFormed := by
  unfold call at h
  split at h
  · obtain ⟨d', hd', rfl⟩ := map_eq_ok.1 h
    exact hs.call hc hd'
  · obtain rfl := Except.ok.inj h
    exact hs
  · obtain ⟨b', hb', rfl⟩ := map_eq_ok.1 h
    obtain ⟨p, -, rfl⟩ := map_eq_ok.1 hb'
    rename_i b clause _
    cases clause <;> exact hs
  · obtain rfl := Except.ok.inj h
    exact hs.edit (e := .predicate _) trivial
  · simp at h

theorem wellFormed_run {s : Session} (hs : s.base.WellFormed) {calls : List SessionCall}
    (hcalls : ∀ c ∈ calls, c.Made) : (s.run calls).base.WellFormed := by
  induction calls generalizing s with
  | nil => exact hs
  | cons c calls ih =>
    obtain ⟨hc, hcalls⟩ := List.forall_mem_cons.1 hcalls
    have hs' : ((s.call c).toOption.getD s).base.WellFormed := by
      -- a call that fails leaves the session as it was
      cases h : s.call c with
      | error _ => exact hs
      | ok s' => exact wellFormed_call hs hc h
    exact ih hs' hcalls

end Session

theorem ensure_toValue (p : Predicate) : Predicate.ensure p.toValue = .ok p := by
  have h : Predicate.ofValue? p.toValue = some p := by
    cases p with
    | multiMatch value fields =>
      show ((fields.map Value.text).mapM Value.text?).map _ = _
      rw [mapM_text?_text]
      rfl
    | _ => rfl
  rw [Predicate.ensure, h]

/-- The rules for a built search take the fields of a request and change none. -/
theorem make_request (r : Request) :
    Part.make .request (Part.fieldsOf r.toValue) = .ok r.toValue := by
  have haggregations : Part.unlessNull r.aggregationMap (fun v => do
      return .map (← v.listedEntries)) = .ok r.aggregationMap := by
    rw [Request.aggregationMap]
    split_ifs <;> rfl
  have hsource : Part.unlessNull (.ofOption .textTuple r.source) (fun v => do
      return .tuple (← v.items)) = .ok (.ofOption .textTuple r.source) := by
    cases r.source <;> rfl
  have hcomplete : Part.complete .request (Part.fieldsOf r.toValue)
      = .ok (Part.fieldsOf r.toValue) := rfl
  rw [Part.make, hcomplete, ok_bind]
  simp only [Part.fieldsOf, Request.toValue]
  rw [haggregations, ok_bind, hsource]
  rfl

/-- What every session keeps, whatever its calls are given: names are trimmed, counts are not
negative, a filter is about a trimmed field and a range among the filters has a bound, aggregations
have names of their own, and a highlight has fields. What stands as a predicate passes as one. A
call for a filter fails on no value if its field is not blank, and the rule for several values makes
the filter exactly where the value is a collection. Building succeeds, and the rules for a built
search keep what it is handed. -/
theorem Session.run_invariant (calls : List SessionCall) (hmade : ∀ c ∈ calls, c.Made) :
    let s := Session.run (.draft {}) calls
    let d := s.base
    (∀ name, d.index = some name → IsTrimmed name)
      ∧ (∀ n, d.size = some n → 0 ≤ n)
      ∧ (∀ n, d.start = some n → 0 ≤ n)
      ∧ (∀ p ∈ d.filters, ∃ name, IsTrimmed name
        ∧ ((∃ v, p = .term (.text name) v) ∨ (∃ vs, p = .terms (.text name) vs)
          ∨ ∃ b : Bounds, p = .range (.text name) b.toValue ∧ b.isEmpty = false))
      ∧ (∀ o ∈ d.sort, IsTrimmed o.field)
      ∧ (∀ fields, d.source = some fields → ∀ s ∈ fields, IsTrimmed s)
      ∧ (∀ name ∈ d.aggregations.map (·.1), IsTrimmed name)
      ∧ (d.aggregations.map (·.1)).Nodup
      ∧ (∀ h, d.highlight = some h → h.fields ≠ [] ∧ ∀ s ∈ h.fields, IsTrimmed s)
      ∧ (∀ p ∈ s.predicates, Predicate.ensure p.toValue = .ok p)
      ∧ (∀ field value name, field.text?.bind Text.nonBlank? = some name →
        d.call (.filter field value)
            = .ok { d with filters := d.filters ++ [filterOf (.text name) value] }
          ∧ (∀ vs, value.collection? = some vs →
            Predicate.makeTerms (.text name) value = .ok (filterOf (.text name) value))
          ∧ (value.collection? = none →
            filterOf (.text name) value = .term (.text name) value))
      ∧ QueryDraft.Draft.build (.search d) = .ok (.search d.build, d.buildNote)
      ∧ Part.make .request (Part.fieldsOf d.build.toValue) = .ok d.build.toValue := by
  intro s d
  have hd : d.WellFormed := Session.wellFormed_run (s := .draft {}) Draft.wellFormed_empty hmade
  refine ⟨hd.index, hd.size, hd.start, fun p hp => ?_, hd.sort, hd.source, hd.names, hd.distinct,
    hd.highlight, fun p _ => ensure_toValue p, fun field value name hname => ?_, rfl, ?_⟩
  · cases hd.filters p hp with
    | term v h => exact ⟨_, h, .inl ⟨v, rfl⟩⟩
    | terms vs h => exact ⟨_, h, .inr (.inl ⟨vs, rfl⟩)⟩
    | range h hb => exact ⟨_, h, .inr (.inr ⟨_, rfl, hb⟩)⟩
  · have hfield : requireField field = .ok (.text name) := by
      rw [requireField, requireText, hname]
      rfl
    refine ⟨?_, (filterOf_eq _ value).1, fun h => ((filterOf_eq _ value).2 h).1⟩
    rw [Draft.call, Call.check, hfield]
    rfl
  · exact make_request d.build

/-- A session that is handed ready bounds, with calls that fail and a sub-draft left open. -/
theorem Session.run_invariant_of_ready_bounds :
    let calls : List SessionCall := [
      .draft (.filterRange (.text " age ") (.part .bounds [.null, .int 18, .null, .null])),
      .draft (.filterRange (.text "age") (.map [(.text "gte", .null)])),
      .draft (.size (.bool true)), .draft (.filter (.text "stock") (.set [.int 1])), .openBool,
      .clause .must (.text "title"), .clause .must (.part .matchAll [])]
    let s := Session.run (.draft {}) calls
    s.base.filters = [.range (.text "age") (Bounds.toValue ⟨.null, .int 18, .null, .null⟩),
        .terms (.text "stock") [.int 1]]
      ∧ (∀ p ∈ s.base.filters, ∃ name, IsTrimmed name
        ∧ ((∃ v, p = .term (.text name) v) ∨ (∃ vs, p = .terms (.text name) vs)
          ∨ ∃ b : Bounds, p = .range (.text name) b.toValue ∧ b.isEmpty = false))
      ∧ ∀ p ∈ s.predicates, Predicate.ensure p.toValue = .ok p := by
  intro calls s
  have hbounds : (Value.part .bounds [.null, .int 18, .null, .null]).IsMade :=
    ⟨fun b hb => ⟨.null, .int 18, .null, .null, congrArg Except.ok (Option.some.inj hb)⟩, nofun⟩
  have hmade : ∀ c ∈ calls, c.Made := by
    have hmap : (Value.map [(.text "gte", .null)]).IsMade := ⟨nofun, nofun⟩
    simp [calls, SessionCall.Made, Call.Made, hbounds, hmap]
  obtain ⟨-, -, -, hfilters, -, -, -, -, -, hpredicates, -⟩ := Session.run_invariant calls hmade
  exact ⟨rfl, hfilters, hpredicates⟩

end Search

end QueryDraft
